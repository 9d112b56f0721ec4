import CloudHypervisorProvider.Controllers.World

/-! # Network interfaces

The NIC loop of `reconcileMachine` fetches, creates or deletes the NIC object of
every entry of the machine and collects them in a map by NIC name.
`reconcileNics` then unplugs the devices of NICs whose object is being deleted
and hot-plugs every other NIC that has no device yet, writing the `"machine"`
finalizer first. Both decide from the objects as the loop fetched them.
-/

namespace CloudHypervisorProvider.Controllers
open Go Api Client

/-- Go's `map[string]*api.NetworkInterface`, kept in insertion order. -/
abbrev NicMap := List (String × NetworkInterface)

/-- `nics[name] = nic`. -/
def setNic (nics : NicMap) (name : String) (nic : NetworkInterface) : NicMap :=
  if nics.any (·.1 = name) then nics.map fun p => if p.1 = name then (name, nic) else p
  else nics ++ [(name, nic)]

theorem lookup_cons_pair (nics : NicMap) (a k : String) (b : NetworkInterface) :
    ((a, b) :: nics).lookup k = if k = a then some b else nics.lookup k := by
  simp only [List.lookup_cons]
  split <;> simp_all

theorem lookup_replaceNic (nics : NicMap) (name k : String) (nic : NetworkInterface) :
    (nics.map fun p => if p.1 = name then (name, nic) else p).lookup k =
      if k = name ∧ nics.any (·.1 = name) then some nic else nics.lookup k := by
  induction nics with
  | nil => simp
  | cons p ps ih =>
    obtain ⟨a, b⟩ := p
    by_cases hk : k = name
    · subst hk
      by_cases ha : a = k
      · simp [ha, lookup_cons_pair]
      · rw [List.map_cons, if_neg ha, lookup_cons_pair, if_neg (Ne.symm ha), ih, List.any_cons, decide_eq_false ha,
          Bool.false_or, lookup_cons_pair, if_neg (Ne.symm ha)]
    · by_cases ha : a = name <;> simp_all [lookup_cons_pair]

theorem lookup_setNic (nics : NicMap) (name k : String) (nic : NetworkInterface) :
    (setNic nics name nic).lookup k = if k = name then some nic else nics.lookup k := by
  unfold setNic
  by_cases hany : nics.any (·.1 = name)
  · rw [if_pos hany, lookup_replaceNic]
    simp only [hany, and_true]
  · rw [if_neg hany, List.lookup_append]
    have hnone : nics.lookup name = none := List.lookup_eq_none_iff.mpr fun p hp =>
      bne_iff_ne.mpr fun h => hany (List.any_eq_true.mpr ⟨p, hp, decide_eq_true h.symm⟩)
    by_cases hk : k = name
    · subst hk; simp [hnone, lookup_cons_pair]
    · simp [hk, lookup_cons_pair]

theorem mem_setNic {nics : NicMap} {name : String} {nic : NetworkInterface} {p : String × NetworkInterface}
    (h : p ∈ setNic nics name nic) : p = (name, nic) ∨ p ∈ nics := by
  unfold setNic at h
  split_ifs at h
  · obtain ⟨q, hq, rfl⟩ := List.mem_map.mp h
    split_ifs <;> simp_all
  · simpa [or_comm] using h

def addFinalizerToNIC (nic : NetworkInterface) : Pass Unit :=
  if MachineFinalizer ∈ nic.metadata.finalizers then pure () else do
    let nic := { nic with metadata.finalizers := nic.metadata.finalizers ++ [MachineFinalizer] }
    let _ ← check "failed to set nic finalizers"
      (call (fun _ => some (.nicUpdate nic.metadata.id)) (World.nicsUpdate nic))

/-- `removeFinalizerFromNIC`; the result is the object as the caller's pointer
holds it afterwards. -/
def removeFinalizerFromNIC (nic : NetworkInterface) : Pass NetworkInterface :=
  if MachineFinalizer ∉ nic.metadata.finalizers then pure nic else do
    let nic := { nic with metadata.finalizers := nic.metadata.finalizers.erase MachineFinalizer }
    let _ ← check "failed to remove nic finalizers"
      (call (fun _ => some (.nicUpdate nic.metadata.id)) (World.nicsUpdate nic))
    pure nic

def nicsReady (nics : NicMap) : Bool :=
  nics.all fun p => p.2.status.state = .attached

/-- The fetch at the head of the NIC loop of `reconcileMachine`: the entry's object,
created when it is missing, or none for an entry marked deleted whose object is gone
(the loop's `continue`). -/
def fetchNic (machine : Machine) (networkInterface : NetworkInterfaceSpec) : Pass (Option NetworkInterface) := do
  let nicID := getNicID machine.metadata.id networkInterface.name
  match ← call (fun _ => none) (World.nicsGet nicID) with
  | .ok nic => pure (some nic)
  | .error err =>
    if !err.is .notFound then throw (.error (.wrap "failed to fetch nic from store" err))
    else if networkInterface.deletedAt.isSome then pure none
    else some <$> (check "failed to create network interface"
      (call (fun _ => some (.nicCreate nicID))
        (World.nicsCreate { metadata := { id := nicID }, spec := { networkInterface with deletedAt := none } })))

/-- The NIC loop of `reconcileMachine` (§4.5 step 8): the map it builds. An entry
marked deleted has its object deleted, but the map keeps the object as fetched. -/
def materializeNics (machine : Machine) : List NetworkInterfaceSpec → NicMap → Pass NicMap
  | [], nics => pure nics
  | networkInterface :: rest, nics => do
    let nicID := getNicID machine.metadata.id networkInterface.name
    match ← fetchNic machine networkInterface with
    | none => materializeNics machine rest nics
    | some nic => do
      if networkInterface.deletedAt.isSome then
        let _ ← check ("failed to delete network interface " ++ nicID)
          (call (fun _ => some (.nicDelete nicID)) (World.nicsDelete nicID))
      materializeNics machine rest (setNic nics networkInterface.name nic)

/-- The device loop of `reconcileNics`: the NIC names that keep their device, and
the map with the objects whose finalizer it stripped. -/
def reconcileNicsDevices (apiSocket : String) :
    List DeviceConfig → NicMap → List String → Pass (List String × NicMap)
  | [], desiredNics, currentNICs => pure (currentNICs, desiredNics)
  | device :: devices, desiredNics, currentNICs => do
    let deviceID := device.id.getD ""
    match getNicName deviceID with
    | none => reconcileNicsDevices apiSocket devices desiredNics currentNICs
    | some nicName =>
      match desiredNics.lookup nicName with
      | none => reconcileNicsDevices apiSocket devices desiredNics currentNICs
      | some nic =>
        if nic.metadata.deletedAt.isNone then
          reconcileNicsDevices apiSocket devices desiredNics (currentNICs ++ [nicName])
        else do
          let _ ← check "failed to remove nic"
            (call (fun _ => some (.removeDevice apiSocket deviceID)) (World.vmmRemoveDevice apiSocket deviceID))
          let nic ← wrapErr "failed to remove finalizer from NIC" (removeFinalizerFromNIC nic)
          reconcileNicsDevices apiSocket devices (setNic desiredNics nicName nic) currentNICs

/-- The hot-plug loop of `reconcileNics`, over the map in its iteration order. -/
def reconcileNicsAdd (apiSocket : String) (currentNICs : List String) : NicMap → Pass Unit
  | [] => pure ()
  | (nicName, nic) :: rest => do
    if nic.metadata.deletedAt.isNone ∧ nicName ∉ currentNICs then
      wrapErr "failed to add finalizer to NIC" (addFinalizerToNIC nic)
      let _ ← check ("failed to add NIC " ++ nicName)
        (call (fun _ => some (.addNIC apiSocket nic.metadata.id)) (World.vmmAddNIC apiSocket nic))
    reconcileNicsAdd apiSocket currentNICs rest

def reconcileNics (machine : Machine) (desiredNics : NicMap) (currentDevices : List DeviceConfig) :
    Pass Unit := do
  let apiSocket := machine.spec.apiSocketPath.getD ""
  let (currentNICs, desiredNics) ← reconcileNicsDevices apiSocket currentDevices desiredNics []
  reconcileNicsAdd apiSocket currentNICs desiredNics

def machineNicStatuses (nics : NicMap) (specs : List NetworkInterfaceSpec) :
    List MachineNetworkInterfaceStatus :=
  specs.map fun nic =>
    match nics.lookup nic.name with
    | some n => if n.status.state = .attached then
        { name := nic.name, state := .attached, handle := n.status.handle }
      else { name := nic.name, state := .pending }
    | none => { name := nic.name, state := .pending }

end CloudHypervisorProvider.Controllers
