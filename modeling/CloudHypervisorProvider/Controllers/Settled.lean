import CloudHypervisorProvider.Controllers.Pass

/-! # A settled machine

A machine is settled when a pass for it has nothing left to do. A pass for a settled
machine, with nothing failing, writes the record back as it is and sends nothing but
those writes and host-file requests.
-/

namespace CloudHypervisorProvider.Controllers
open Go Api Client

/-- The statuses the volume plugins report for volume entries, for the entries whose
plugin is found and applies them. -/
def appliedStatuses (r : MachineReconciler) (machineID : String) (vols : List VolumeSpec) :
    List VolumeStatus :=
  vols.filterMap fun vol =>
    match r.volumePluginManager.findPluginBySpec vol with
    | .ok plugin => (plugin.apply vol machineID).toOption
    | .error _ => none

/-- The status the final write of a pass gives a volume entry that the plugins report
in `statuses` and whose disk is live. -/
def settledStatus (statuses : List VolumeStatus) (name : String) : VolumeStatus :=
  { getVolumeStatus statuses name with state := .attached }

/-- The volume statuses of the final write of a pass that finds the disks of all of
`machine`'s volume entries live. -/
def settledStatuses (r : MachineReconciler) (machine : Machine) : List VolumeStatus :=
  machine.spec.volumes.map fun vol =>
    settledStatus (appliedStatuses r machine.metadata.id machine.spec.volumes) vol.name

def addStoredNic (w : World) (machine : Machine) (nics : NicMap) (n : NetworkInterfaceSpec) : NicMap :=
  match w.nics.get (getNicID machine.metadata.id n.name) with
  | some nic => setNic nics n.name nic
  | none => nics

/-- The map the NIC loop builds from the stored NIC objects. -/
def storedNics (w : World) (machine : Machine) : NicMap :=
  machine.spec.networkInterfaces.foldl (addStoredNic w machine) []

section Stored
variable {w : World} {machine : Machine}

theorem lookup_foldl_addStoredNic (k : String) :
    ∀ (specs : List NetworkInterfaceSpec) (nics : NicMap),
    (specs.foldl (addStoredNic w machine) nics).lookup k =
      if k ∈ specs.map (·.name) then (w.nics.get (getNicID machine.metadata.id k)).or (nics.lookup k)
      else nics.lookup k
  | [], _ => rfl
  | n :: specs, nics => by
    rw [List.foldl_cons, lookup_foldl_addStoredNic k specs]
    have hstep : (addStoredNic w machine nics n).lookup k =
        if k = n.name then (w.nics.get (getNicID machine.metadata.id k)).or (nics.lookup k) else nics.lookup k := by
      unfold addStoredNic
      split <;> split_ifs with hk <;> simp_all [lookup_setNic]
    by_cases hk : k = n.name <;> by_cases hs : k ∈ specs.map (·.name) <;>
      simp_all [← Option.or_assoc, Option.or_self]

theorem lookup_storedNics (k : String) :
    (storedNics w machine).lookup k =
      if k ∈ machine.spec.networkInterfaces.map (·.name) then w.nics.get (getNicID machine.metadata.id k)
      else none := by
  simpa using lookup_foldl_addStoredNic k machine.spec.networkInterfaces []

theorem mem_foldl_addStoredNic {p : String × NetworkInterface} :
    ∀ {specs : List NetworkInterfaceSpec} {nics : NicMap}, p ∈ specs.foldl (addStoredNic w machine) nics →
      p ∈ nics ∨ ∃ n ∈ specs, p.1 = n.name ∧ w.nics.get (getNicID machine.metadata.id n.name) = some p.2
  | [], _, h => .inl h
  | n :: specs, nics, h => by
    rw [List.foldl_cons] at h
    rcases mem_foldl_addStoredNic h with h | ⟨n', hn', he⟩
    · unfold addStoredNic at h
      split at h
      · rcases mem_setNic h with rfl | h
        · exact .inr ⟨n, List.mem_cons_self _ _, rfl, by assumption⟩
        · exact .inl h
      · exact .inl h
    · exact .inr ⟨n', List.mem_cons_of_mem _ hn', he⟩

theorem mem_storedNics {p : String × NetworkInterface} (h : p ∈ storedNics w machine) :
    ∃ n ∈ machine.spec.networkInterfaces, p.1 = n.name ∧
      w.nics.get (getNicID machine.metadata.id n.name) = some p.2 := by
  simpa using mem_foldl_addStoredNic h

theorem storedNics_stored {p : String × NetworkInterface} (h : p ∈ storedNics w machine) :
    w.nics.get p.2.metadata.id = some p.2 := by
  obtain ⟨n, -, -, hp⟩ := mem_storedNics h
  rwa [w.nics.keyed _ _ hp]

theorem storedNics_live (h : ∀ n ∈ machine.spec.networkInterfaces,
      ∃ nic, w.nics.get (getNicID machine.metadata.id n.name) = some nic ∧ nic.metadata.deletedAt = none)
    {p : String × NetworkInterface} (hp : p ∈ storedNics w machine) : p.2.metadata.deletedAt = none := by
  obtain ⟨n, hn, -, hp⟩ := mem_storedNics hp
  obtain ⟨nic, hnic, hd⟩ := h n hn
  rwa [← Option.some.inj (hp.symm.trans hnic)] at hd

theorem storedNics_of_nics {w' : World} (h : w'.nics = w.nics) : storedNics w' machine = storedNics w machine := by
  have hstep : addStoredNic w' machine = addStoredNic w machine := by
    funext nics n; simp only [addStoredNic, h]
  rw [storedNics, storedNics, hstep]

end Stored

theorem getVolumeStatus_cons (st : VolumeStatus) (statuses : List VolumeStatus) (name : String) :
    getVolumeStatus (st :: statuses) name = if st.name = name then st else getVolumeStatus statuses name := by
  by_cases h : st.name = name <;> simp [getVolumeStatus, h]

/-- The final write only reads the names and handles of the statuses it looks volumes up in. -/
theorem settledStatus_congr {K L : List VolumeStatus}
    (h : List.Forall₂ (fun a b => a.name = b.name ∧ a.handle = b.handle) K L) (name : String) :
    settledStatus K name = settledStatus L name := by
  induction h with
  | nil => rfl
  | @cons a b K L hab _ ih =>
    simp only [settledStatus, getVolumeStatus_cons, hab.1] at ih ⊢
    split_ifs
    · obtain ⟨a, _, _⟩ := a; obtain ⟨b, _, _⟩ := b; simp_all
    · exact ih

theorem getVolumeStatus_handle_congr {K L : List VolumeStatus}
    (h : List.Forall₂ (fun a b => a.name = b.name ∧ a.handle = b.handle) K L) (name : String) :
    (getVolumeStatus K name).handle = (getVolumeStatus L name).handle :=
  (congrArg VolumeStatus.handle (settledStatus_congr h name) :)

/-- A pass for `machine` has nothing left to do in `w`. -/
structure Settled (r : MachineReconciler) (w : World) (machine : Machine) : Prop where
  stored : w.machines.get machine.metadata.id = some machine
  live : machine.metadata.deletedAt = none
  finalizer : MachineFinalizer ∈ machine.metadata.finalizers
  socket : machine.spec.apiSocketPath.isSome
  image : machine.spec.image.getD "" = "" ∨ machine.spec.image.getD "" ∈ w.images
  volumes : ∀ vol ∈ machine.spec.volumes, vol.deletedAt = none ∧
    ∃ plugin st, r.volumePluginManager.findPluginBySpec vol = .ok plugin ∧
      plugin.apply vol machine.metadata.id = .ok st
  nics : ∀ n ∈ machine.spec.networkInterfaces, n.deletedAt = none ∧
    ∃ nic, w.nics.get (getNicID machine.metadata.id n.name) = some nic ∧ nic.metadata.deletedAt = none
  vm : ∃ vm, w.vmAt (machine.spec.apiSocketPath.getD "") = some vm ∧
    (vm.config.platform.getD {}).uuid.getD "" = machine.metadata.id ∧
    (vm.state = .running ↔ machine.spec.power = .powerOn) ∧
    (∀ n ∈ machine.spec.networkInterfaces, ∃ d ∈ netIds vm, getNicName d = some n.name) ∧
    ∀ vol ∈ machine.spec.volumes,
      (getVolumeStatus (appliedStatuses r machine.metadata.id machine.spec.volumes) vol.name).handle ∈ diskIds vm
  record : finalRecord (storedNics w machine) { machine with status.volumeStatus := settledStatuses r machine } =
    machine

/-- From `w` to `w'` no VM, NIC object or image changed, and the request log gained only
writes of the record of machine `id` and host directory and file creations. -/
structure Quiet (id : String) (w w' : World) : Prop where
  processes : w'.processes = w.processes
  nics : w'.nics = w.nics
  images : w'.images = w.images
  calls : ∃ calls, w'.calls = w.calls ++ calls ∧
    ∀ c ∈ calls, c = .machineUpdate id ∨ (∃ path, c = .mkdirAll path) ∨ ∃ path, c = .rawCreate path

section Quiet
variable {id : String} {w w₁ w₂ : World}

theorem Quiet.refl (id : String) (w : World) : Quiet id w w :=
  ⟨rfl, rfl, rfl, [], (List.append_nil _).symm, fun _ h => nomatch h⟩

theorem Quiet.trans (h₁ : Quiet id w w₁) (h₂ : Quiet id w₁ w₂) : Quiet id w w₂ := by
  obtain ⟨cs₁, hc₁, hq₁⟩ := h₁.calls
  obtain ⟨cs₂, hc₂, hq₂⟩ := h₂.calls
  exact ⟨h₂.processes.trans h₁.processes, h₂.nics.trans h₁.nics, h₂.images.trans h₁.images, cs₁ ++ cs₂,
    by rw [hc₂, hc₁, List.append_assoc], fun c hc => (List.mem_append.mp hc).elim (hq₁ c) (hq₂ c)⟩

theorem Quiet.request {c : Call} (machines : Store Machine Machine.metadata) (files : List String)
    (hc : c = .machineUpdate id ∨ (∃ path, c = .mkdirAll path) ∨ ∃ path, c = .rawCreate path) :
    Quiet id w { w with machines := machines, files := files, calls := w.calls ++ [c] } :=
  ⟨rfl, rfl, rfl, [c], rfl, by simpa using hc⟩

end Quiet

section Steps
variable {r : MachineReconciler} {machine : Machine} {w : World} {key : String} {s : World × Faults}

theorem makeMachineDirs_nil (id : String) (paths : Host.Paths) (uid : String) (w : World) :
    ∃ w', makeMachineDirs paths uid (w, []) = .ok () (w', []) ∧ Quiet id w w' ∧ w'.machines = w.machines := by
  unfold makeMachineDirs
  induction Host.machineDirs paths uid generalizing w with
  | nil => exact ⟨w, rfl, .refl _ _, rfl⟩
  | cons d ds ih =>
    obtain ⟨w', h, hq, hm⟩ := ih (World.mkdirAll d.1 (w.record fun _ => some (.mkdirAll d.1))).2
    exact ⟨w', (bind_ok rfl).trans h,
      (Quiet.request _ _ (.inr (.inl ⟨_, rfl⟩))).trans hq, hm⟩

theorem reconcileImage_nil (r : MachineReconciler) (id : String)
    (h : machine.spec.image.getD "" = "" ∨ machine.spec.image.getD "" ∈ w.images) :
    ∃ w', reconcileImage r machine (w, []) = .ok false (w', []) ∧ Quiet id w w' ∧ w'.machines = w.machines := by
  unfold reconcileImage
  by_cases hi : machine.spec.image.getD "" = ""
  · exact ⟨w, by simp [hi], .refl _ _, rfl⟩
  have hin := h.resolve_left hi
  by_cases hf : r.paths.machineRootFSFile machine.metadata.id ∈ w.files
  · exact ⟨w, by simp [hi, hin, hf, bind, EStateM.bind, World.imageGet, World.regularFileExists], .refl _ _, rfl⟩
  · refine ⟨{ w with files := w.files ++ [r.paths.machineRootFSFile machine.metadata.id]
                     calls := w.calls ++ [.rawCreate (r.paths.machineRootFSFile machine.metadata.id)] }, ?_,
      Quiet.request w.machines _ (.inr (.inr ⟨_, rfl⟩)), rfl⟩
    simp [hi, hin, hf, bind, EStateM.bind, World.imageGet, World.regularFileExists, check, World.rawCreate]

theorem ping_nil (msg : String) (h : (w.processes key).isSome) :
    check msg (call (fun _ => none) (World.vmmPing key)) (w, []) = .ok () (w, []) :=
  (check_eq_ok _).mpr (by simp [World.vmmPing, h])

theorem getVM_nil {vm : VmInfo} (h : w.vmAt key = some vm) :
    call (fun _ => none) (World.vmmGetVM r key) (w, []) = .ok (.ok (some vm)) (w, []) := by
  simp only [World.vmAt] at h
  split at h
  · simp_all [World.vmmGetVM, World.manager, Vmm.Manager.getVM, Process.client, Response.ok200]
  · cases h

theorem check_machinesUpdate_nil (msg : String) {m : Machine} (h : (w.machines.get m.metadata.id).isSome) :
    check msg (call (fun _ => some (.machineUpdate m.metadata.id)) (World.machinesUpdate m)) (w, []) =
      .ok m ({ w with machines := w.machines.write m, calls := w.calls ++ [.machineUpdate m.metadata.id] }, []) :=
  (check_eq_ok _).mpr (by simp [World.machinesUpdate, World.record, h])

theorem materializeNics_nil (w : World) :
    ∀ (specs : List NetworkInterfaceSpec) (nics : NicMap),
    (∀ n ∈ specs, n.deletedAt = none ∧ (w.nics.get (getNicID machine.metadata.id n.name)).isSome) →
    materializeNics machine specs nics (w, []) = .ok (specs.foldl (addStoredNic w machine) nics) (w, [])
  | [], _, _ => rfl
  | n :: specs, nics, h => by
    obtain ⟨hdel, hget⟩ := h n (List.mem_cons_self _ _)
    obtain ⟨nic, hnic⟩ := Option.isSome_iff_exists.mp hget
    have ih := materializeNics_nil w specs (setNic nics n.name nic) fun n hn => h n (List.mem_cons_of_mem _ hn)
    simp [materializeNics, fetchNic, bind, EStateM.bind, World.nicsGet, hnic, hdel, addStoredNic, ih]

theorem appliedStatuses_cons {vol : VolumeSpec} {vols : List VolumeSpec} {plugin : VolumePlugin}
    {st : VolumeStatus} (hfind : r.volumePluginManager.findPluginBySpec vol = .ok plugin)
    (happly : plugin.apply vol machine.metadata.id = .ok st) :
    appliedStatuses r machine.metadata.id (vol :: vols) = st :: appliedStatuses r machine.metadata.id vols := by
  simp [appliedStatuses, hfind, happly, Except.toOption]

theorem reconcileVolumesLoop_nil (w : World) :
    ∀ vols : List VolumeSpec, (∀ vol ∈ vols, vol.deletedAt = none ∧ ∃ plugin st,
      r.volumePluginManager.findPluginBySpec vol = .ok plugin ∧ plugin.apply vol machine.metadata.id = .ok st) →
    ∃ kept, reconcileVolumesLoop r machine vols (w, []) = .ok (vols, kept) (w, []) ∧
      List.Forall₂ (fun k a => k.name = a.name ∧ k.handle = a.handle) kept
        (appliedStatuses r machine.metadata.id vols)
  | [], _ => ⟨[], rfl, .nil⟩
  | vol :: vols, h => by
    obtain ⟨hdel, plugin, st, hfind, happly⟩ := h vol (List.mem_cons_self _ _)
    obtain ⟨kept, hl, hk⟩ := reconcileVolumesLoop_nil w vols fun v hv => h v (List.mem_cons_of_mem _ hv)
    let status := getVolumeStatus machine.status.volumeStatus vol.name
    refine ⟨(if status.state = .attached then { st with state := status.state } else st) :: kept, ?_,
      by rw [appliedStatuses_cons hfind happly]; exact .cons (by split_ifs <;> simp) hk⟩
    simp [reconcileVolumesLoop, bind, EStateM.bind, hfind, happly, hdel, check, hl, status]

theorem reconcilePower_nil {power : Power} {vm : VmInfo} (h : vm.state = .running ↔ power = .powerOn) :
    reconcilePower key power vm s = .ok () s := by
  cases power <;> simp_all [reconcilePower]

theorem mem_of_lookup_eq_some {nics : NicMap} {name : String} {nic : NetworkInterface}
    (h : nics.lookup name = some nic) : (name, nic) ∈ nics := by
  obtain ⟨l₁, l₂, rfl, -⟩ := List.lookup_eq_some_iff.mp h
  simp

theorem reconcileNicsDevices_nil {nics : NicMap} (hnics : ∀ p ∈ nics, p.2.metadata.deletedAt = none) :
    ∀ (devices : List DeviceConfig) (cur : List String), reconcileNicsDevices key devices nics cur s =
      .ok (cur ++ devices.filterMap fun d => (getNicName (d.id.getD "")).filter fun n => (nics.lookup n).isSome,
        nics) s
  | [], cur => by simp [reconcileNicsDevices]
  | d :: ds, cur => by
    simp only [reconcileNicsDevices]
    rcases hname : getNicName (d.id.getD "") with _ | name
    · simpa [hname, List.filterMap_cons] using reconcileNicsDevices_nil hnics ds cur
    rcases hl : nics.lookup name with _ | nic
    · simpa [hname, hl, List.filterMap_cons, Option.filter_some] using reconcileNicsDevices_nil hnics ds cur
    have hdel : nic.metadata.deletedAt = none := hnics _ (mem_of_lookup_eq_some hl)
    simpa [hname, hl, hdel, List.filterMap_cons, Option.filter_some] using
      reconcileNicsDevices_nil hnics ds (cur ++ [name])

theorem reconcileNicsAdd_nil {cur : List String} :
    ∀ {nics : NicMap}, (∀ p ∈ nics, p.2.metadata.deletedAt = none → p.1 ∈ cur) →
      reconcileNicsAdd key cur nics s = .ok () s
  | [], _ => rfl
  | (name, nic) :: rest, h => by
    have hskip : ¬(nic.metadata.deletedAt.isNone ∧ name ∉ cur) := fun ⟨hd, hn⟩ =>
      hn (h _ (List.mem_cons_self _ _) (Option.isNone_iff_eq_none.mp hd))
    simp only [reconcileNicsAdd, if_neg hskip]
    exact reconcileNicsAdd_nil fun p hp => h p (List.mem_cons_of_mem _ hp)

theorem attachDetachDisksLoop_nil (machine : Machine) (key : String) (s : World × Faults) {cur : List String} :
    ∀ {vols : List VolumeSpec}, (∀ vol ∈ vols, vol.deletedAt = none ∧
      (getVolumeStatus machine.status.volumeStatus vol.name).handle ∈ cur) →
    attachDetachDisksLoop machine key cur vols s =
      .ok (vols.map fun vol => { getVolumeStatus machine.status.volumeStatus vol.name with state := .attached }) s
  | [], _ => rfl
  | vol :: vols, h => by
    obtain ⟨hdel, hcur⟩ := h vol (List.mem_cons_self _ _)
    have ih := attachDetachDisksLoop_nil machine key s fun v hv => h v (List.mem_cons_of_mem _ hv)
    simp [attachDetachDisksLoop, hdel, hcur, bind, EStateM.bind, ih]

end Steps

section SettledPass
variable {r : MachineReconciler} {w w' : World} {machine : Machine}

theorem assignApiSocket_of_isSome (h : machine.spec.apiSocketPath.isSome) :
    assignApiSocket r machine = pure machine := by
  simp [assignApiSocket, Option.isNone_iff_eq_none, Option.isSome_iff_ne_none.mp h]

/-- The hot-plug steps of a pass for a settled machine find nothing to plug or unplug,
and the final write puts the record back as it was. `machine'` is the record as
`reconcileVolumes` wrote it. -/
theorem reconcileVm_settled (hs : Settled r w machine) (hq : Quiet machine.metadata.id w w') {vm : VmInfo}
    (hvm : w.vmAt (machine.spec.apiSocketPath.getD "") = some vm) (machine' : Machine)
    (hmeta : machine'.metadata = machine.metadata) (hspec : machine'.spec = machine.spec)
    (hK : List.Forall₂ (fun a b => a.name = b.name ∧ a.handle = b.handle) machine'.status.volumeStatus
      (appliedStatuses r machine.metadata.id machine.spec.volumes))
    (hget : (w'.machines.get machine.metadata.id).isSome) :
    ∃ w'', reconcileVm machine' (storedNics w' machine) vm (w', []) = .ok .reconciled (w'', []) ∧
      Quiet machine.metadata.id w' w'' ∧
      ∀ k, w''.machines.get k = if k = machine.metadata.id then some machine else w'.machines.get k := by
  obtain ⟨vm', hvm', huuid, hpower, hdevs, hdisks⟩ := hs.vm
  cases hvm.symm.trans hvm'
  obtain ⟨meta, spec, status⟩ := machine'
  cases hmeta; cases hspec
  rw [storedNics_of_nics hq.nics]
  have hplugged : ∀ p ∈ storedNics w machine, p.2.metadata.deletedAt = none → p.1 ∈ [] ++
      (vm.config.devices.getD []).filterMap fun d =>
        (getNicName (d.id.getD "")).filter fun n => ((storedNics w machine).lookup n).isSome := by
    intro ⟨name, nic⟩ hp _
    obtain ⟨n, hn, rfl, -⟩ := mem_storedNics hp
    obtain ⟨d, hd, hdn⟩ := hdevs n hn
    obtain ⟨dev, hdev, hid⟩ := List.mem_filterMap.mp hd
    refine List.mem_append_right _ (List.mem_filterMap.mpr ⟨dev, hdev, ?_⟩)
    simpa [hid, hdn, Option.filter_some] using ⟨nic, hp⟩
  have hhandle : ∀ vol ∈ machine.spec.volumes, vol.deletedAt = none ∧
      (getVolumeStatus status.volumeStatus vol.name).handle ∈ diskIds vm := fun vol hv =>
    ⟨(hs.volumes vol hv).1, getVolumeStatus_handle_congr hK vol.name ▸ hdisks vol hv⟩
  have hstatuses : (machine.spec.volumes.map fun vol =>
      { getVolumeStatus status.volumeStatus vol.name with state := .attached }) = settledStatuses r machine :=
    List.map_congr_left fun vol _ => settledStatus_congr hK vol.name
  have hattach := attachDetachDisksLoop_nil ⟨machine.metadata, machine.spec, status⟩
    (machine.spec.apiSocketPath.getD "") (w', []) hhandle
  rw [hstatuses] at hattach
  have hnics : reconcileNics ⟨machine.metadata, machine.spec, status⟩ (storedNics w machine)
      (vm.config.devices.getD []) (w', []) = .ok () (w', []) := by
    unfold reconcileNics
    rw [bind_ok (reconcileNicsDevices_nil (fun _ => storedNics_live fun n hn => (hs.nics n hn).2) _ _)]
    exact reconcileNicsAdd_nil hplugged
  let m₃ : Machine := ⟨machine.metadata, machine.spec, { status with volumeStatus := settledStatuses r machine }⟩
  have hfinal : finalRecord (storedNics w machine) m₃ = machine := hs.record
  let w₁ : World := { w' with machines := w'.machines.write m₃
                              calls := w'.calls ++ [.machineUpdate machine.metadata.id] }
  refine ⟨{ w₁ with machines := w₁.machines.write machine
                    calls := w₁.calls ++ [.machineUpdate machine.metadata.id] }, ?_,
    (Quiet.request _ _ (.inl rfl)).trans (Quiet.request _ _ (.inl rfl)), fun k => ?_⟩
  · have hattachD : attachDetachDisks ⟨machine.metadata, machine.spec, status⟩ vm.config (w', []) =
        .ok m₃ (w₁, []) :=
      (bind_ok hattach).trans (bind_ok (check_machinesUpdate_nil _ hget))
    unfold reconcileVm
    rw [if_neg (not_not.mpr huuid), bind_ok (reconcilePower_nil hpower), bind_ok ((wrapErr_eq_ok _).mpr hnics),
      bind_ok ((wrapErr_eq_ok _).mpr hattachD)]
    refine (bind_ok (check_machinesUpdate_nil _ ?_)).trans ?_
    · show ((w'.machines.write m₃).get machine.metadata.id).isSome
      rw [Store.get_write_of_live _ m₃ hs.live, if_pos rfl]; rfl
    · rw [hfinal]; rfl
  · show ((w'.machines.write m₃).write machine).get k = _
    rw [Store.get_write_of_live _ machine hs.live, Store.get_write_of_live _ m₃ hs.live]
    split_ifs <;> rfl

/-- A pass for a settled machine, with nothing failing, returns at its final status
write without changing a VM, a NIC object or an image, and leaves the machine store
as it found it. -/
theorem reconcileMachine_settled (hs : Settled r w machine) :
    ∃ w', reconcileMachine r machine.metadata.id (w, []) = .ok .reconciled (w', []) ∧
      Quiet machine.metadata.id w w' ∧ w'.machines = w.machines := by
  obtain ⟨vm, hvm, -⟩ := hs.vm
  obtain ⟨w₁, h₁, q₁, m₁⟩ := makeMachineDirs_nil machine.metadata.id r.paths machine.metadata.id w
  obtain ⟨w₂, h₂, q₂, m₂⟩ := reconcileImage_nil r machine.metadata.id (q₁.images ▸ hs.image)
  have q₁₂ := q₁.trans q₂
  have hvm₂ : w₂.vmAt (machine.spec.apiSocketPath.getD "") = some vm :=
    (World.vmAt_of_processes (congrFun q₁₂.processes _)).trans hvm
  have hping : (w₂.processes (machine.spec.apiSocketPath.getD "")).isSome := by
    simp only [World.vmAt] at hvm₂; split at hvm₂ <;> simp_all
  have hmat := materializeNics_nil w₂ machine.spec.networkInterfaces [] fun n hn => by
    obtain ⟨hd, nic, hnic, -⟩ := hs.nics n hn
    exact ⟨hd, by rw [q₁₂.nics, hnic]; rfl⟩
  obtain ⟨K, hloop, hK⟩ := reconcileVolumesLoop_nil w₂ machine.spec.volumes hs.volumes
  have hget₂ : w₂.machines.get machine.metadata.id = some machine := by rw [m₂, m₁]; exact hs.stored
  let m₃ : Machine := { machine with spec.volumes := machine.spec.volumes, status.volumeStatus := K }
  let w₃ : World := { w₂ with machines := w₂.machines.write m₃
                              calls := w₂.calls ++ [.machineUpdate machine.metadata.id] }
  have hvols : reconcileVolumes r machine (w₂, []) = .ok m₃ (w₃, []) :=
    (bind_ok hloop).trans (bind_ok (check_machinesUpdate_nil _ (by rw [hget₂]; rfl)))
  have hget₃ : w₃.machines.get machine.metadata.id = some m₃ :=
    (Store.get_write_of_live _ m₃ hs.live _).trans (if_pos rfl)
  obtain ⟨w₄, hvm₄, q₄, hm₄⟩ := reconcileVm_settled hs (q₁₂.trans (Quiet.request _ _ (.inl rfl))) hvm
    m₃ rfl rfl hK (by rw [hget₃]; rfl)
  have hgetvm : call (fun _ => none) (World.vmmGetVM r (machine.spec.apiSocketPath.getD "")) (w₃, []) =
      .ok (.ok (some vm)) (w₃, []) := getVM_nil hvm₂
  refine ⟨w₄, ?_, q₁₂.trans ((Quiet.request _ _ (.inl rfl)).trans q₄), Store.ext fun k => ?_⟩
  · unfold reconcileMachine
    rw [bind_ok (show call (fun _ => none) (World.machinesGet machine.metadata.id) (w, []) =
      .ok (.ok machine) (w, []) by simp [World.machinesGet, hs.stored])]
    dsimp only
    rw [if_neg (by simp [hs.live]), if_neg (not_not.mpr hs.finalizer)]
    unfold reconcileLive
    rw [bind_ok ((wrapErr_eq_ok _).mpr h₁), bind_ok h₂, if_neg Bool.false_ne_true, assignApiSocket_of_isSome hs.socket,
      pure_bind_apply, bind_ok (ping_nil _ hping), bind_ok hmat, bind_ok ((wrapErr_eq_ok _).mpr hvols),
      bind_ok hgetvm]
    exact hvm₄
  · show w₄.machines.get k = w.machines.get k
    rw [hm₄]
    show (if k = machine.metadata.id then some machine else (w₂.machines.write m₃).get k) = w.machines.get k
    rw [Store.get_write_of_live _ m₃ hs.live, m₂, m₁]
    split_ifs with hk
    · rw [hk, hs.stored]
    · rfl

end SettledPass

end CloudHypervisorProvider.Controllers
