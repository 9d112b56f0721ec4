import Mathlib.Data.List.Nodup
import CloudHypervisorProvider.Controllers.Teardown

/-! # What a pass does to the VM

The hot-plug steps of a pass change the VM behind the machine's API socket
through `changeVm`, one named transform per request, and a call that returned
ok has acted. On the ok path each hot-plug loop's result and its effect on the
VM are therefore fixed by the loop's input alone: `diskStatus` and `diskChange`
say what `attachDetachDisks` keeps and does for one volume entry.
-/

namespace CloudHypervisorProvider.Controllers
open Go Api Client

section Transforms
variable (id : String) (info : VmInfo)

theorem filterMap_filter_ne {α : Type} (get : α → Option String) (l : List α) :
    (l.filter fun d => get d ≠ some id).filterMap get = (l.filterMap get).filter (· ≠ id) := by
  rw [List.filterMap_filter, List.filter_filterMap]
  congr 1
  funext d
  cases h : get d <;> simp [h, Option.filter]

@[simp] theorem diskIds_withDisk : diskIds (withDisk id info) = diskIds info ++ [id] := by
  simp [diskIds, withDisk]

@[simp] theorem diskIds_withoutDevice : diskIds (withoutDevice id info) = (diskIds info).filter (· ≠ id) := by
  cases h : info.config.disks
  · simp [diskIds, withoutDevice, h]
  · simpa only [diskIds, withoutDevice, h, Option.map_some', Option.getD_some] using filterMap_filter_ne id _ _

@[simp] theorem diskIds_withNet : diskIds (withNet id info) = diskIds info := rfl

@[simp] theorem diskIds_withState (state : VmInfoState) : diskIds (withState state info) = diskIds info := rfl

@[simp] theorem netIds_withDisk : netIds (withDisk id info) = netIds info := rfl

@[simp] theorem netIds_withState (state : VmInfoState) : netIds (withState state info) = netIds info := rfl

@[simp] theorem netIds_withNet : netIds (withNet id info) = netIds info ++ [id] := by
  simp [netIds, withNet]

@[simp] theorem netIds_withoutDevice : netIds (withoutDevice id info) = (netIds info).filter (· ≠ id) := by
  cases h : info.config.devices
  · simp [netIds, withoutDevice, h]
  · simpa only [netIds, withoutDevice, h, Option.map_some', Option.getD_some] using filterMap_filter_ne id _ _

end Transforms

namespace World
variable {key k : String} {f : VmInfo → VmInfo} {w w' : World}

def disksAt (w : World) (key : String) : List String := ((w.vmAt key).map diskIds).getD []

@[simp] theorem machinesUpdate_vmAt (m : Machine) : (machinesUpdate m w).2.vmAt k = w.vmAt k := by
  unfold machinesUpdate; split <;> rfl

@[simp] theorem nicsUpdate_vmAt (nic : NetworkInterface) : (nicsUpdate nic w).2.vmAt k = w.vmAt k := by
  unfold nicsUpdate; split <;> rfl

theorem vmAt_of_processes (h : w'.processes k = w.processes k) : w'.vmAt k = w.vmAt k := by
  simp [vmAt, h]

theorem liveDisks_of_get {id : String} {m : Machine} (h : w.machines.get id = some m) :
    w.liveDisks id = w.disksAt (m.spec.apiSocketPath.getD "") := by
  simp only [liveDisks, disksAt, vmAt, h, Option.map_some', Option.getD_some]
  split <;> simp_all

@[simp] theorem vmAt_record (w : World) (request : World → Option Call) : (w.record request).vmAt k = w.vmAt k := rfl

@[simp] theorem vmAt_setProcess_self (w : World) (p : Process) : (w.setProcess key (some p)).vmAt key = p.vm := by
  simp [vmAt, setProcess]

theorem vmAt_setProcess_of_ne (w : World) (p : Option Process) (h : k ≠ key) :
    (w.setProcess key p).vmAt k = w.vmAt k := by
  simp [vmAt, setProcess, h]

theorem changeVm_eq_ok (h : changeVm key f w = (.ok (), w')) :
    ∃ info, w.vmAt key = some info ∧ w' = w.setProcess key (some ⟨some (f info)⟩) := by
  unfold changeVm at h
  split at h
  · cases h
  · cases h
  · next info hp => exact ⟨info, by simp [vmAt, hp], (Prod.mk.inj h).2.symm⟩

theorem addToVm_eq_ok {id : String} (h : addToVm key id f w = (.ok (), w')) :
    (∀ info, w.vmAt key = some info → id ∉ deviceIds info) ∧ changeVm key f w = (.ok (), w') := by
  unfold addToVm at h
  split at h
  · next info hp =>
    split_ifs at h with hid
    · cases h
    · exact ⟨fun i hi => by simp_all [vmAt], h⟩
  · next hp =>
    refine ⟨fun i hi => ?_, h⟩
    unfold vmAt at hi
    split at hi
    · next p hp' => rcases p with ⟨_ | i'⟩ <;> simp_all
    · cases hi

end World

section VmCalls
variable {s s' : World × Faults} {key : String} {f : VmInfo → VmInfo} {msg : String}
  {request : World → Option Call}

theorem check_changeVm_ok (h : check msg (call request (World.changeVm key f)) s = .ok () s') :
    ∃ info, s.1.vmAt key = some info ∧
      s'.1 = (s.1.record request).setProcess key (some ⟨some (f info)⟩) := by
  obtain ⟨hr, hs⟩ := call_eq_ok_ok ((check_eq_ok msg).mp h)
  simpa using World.changeVm_eq_ok (Prod.ext hr hs.symm)

theorem check_addToVm_ok {id : String} (h : check msg (call request (World.addToVm key id f)) s = .ok () s') :
    ∃ info, s.1.vmAt key = some info ∧ id ∉ deviceIds info ∧
      s'.1 = (s.1.record request).setProcess key (some ⟨some (f info)⟩) := by
  obtain ⟨hr, hs⟩ := call_eq_ok_ok ((check_eq_ok msg).mp h)
  obtain ⟨hid, hc⟩ := World.addToVm_eq_ok (Prod.ext hr hs.symm)
  obtain ⟨info, hi, hw⟩ := World.changeVm_eq_ok hc
  exact ⟨info, by simpa using hi, hid info hi, hw⟩

end VmCalls

/-- The entry `attachDetachDisks` keeps for a volume, if any. -/
def diskStatus (machine : Machine) (currentDevices : List String) (vol : VolumeSpec) : Option VolumeStatus :=
  let status := getVolumeStatus machine.status.volumeStatus vol.name
  if vol.deletedAt.isNone then
    if status.handle ∉ currentDevices ∧ status.state ≠ .prepared then none
    else some { status with state := .attached }
  else if status.handle ∈ currentDevices then some status
  else some { status with state := .prepared }

/-- What `attachDetachDisks` does to the VM for a volume. -/
def diskChange (machine : Machine) (currentDevices : List String) (info : VmInfo) (vol : VolumeSpec) : VmInfo :=
  let status := getVolumeStatus machine.status.volumeStatus vol.name
  if vol.deletedAt.isNone then
    if status.handle ∉ currentDevices ∧ status.state = .prepared then withDisk status.handle info else info
  else if status.handle ∈ currentDevices then withoutDevice status.handle info else info

theorem attachDetachDisksLoop_ok {machine : Machine} {key : String} {cur : List String} :
    ∀ {vols : List VolumeSpec} {s s' : World × Faults} {kept : List VolumeStatus},
    attachDetachDisksLoop machine key cur vols s = .ok kept s' →
    kept = vols.filterMap (diskStatus machine cur) ∧
      ∀ info, s.1.vmAt key = some info → s'.1.vmAt key = some (vols.foldl (diskChange machine cur) info)
  | [], s, s', kept, h => by
    cases h
    exact ⟨rfl, fun _ hi => hi⟩
  | vol :: vols, s, s', kept, h => by
    simp only [attachDetachDisksLoop] at h
    split_ifs at h with hd hskip hcur hcur
    · obtain ⟨hk, hv⟩ := attachDetachDisksLoop_ok h
      exact ⟨by simp [diskStatus, hd, hskip, hk], fun info hi => by simpa [diskChange, hd, hskip] using hv info hi⟩
    · obtain ⟨k, hl, rfl⟩ := bind_pure_eq_ok.mp h
      obtain ⟨hk, hv⟩ := attachDetachDisksLoop_ok hl
      exact ⟨by simp [diskStatus, hd, hcur, hk], fun info hi => by simpa [diskChange, hd, hcur] using hv info hi⟩
    · obtain ⟨_, s₁, hc, h⟩ := bind_eq_ok.mp h
      obtain ⟨k, hl, rfl⟩ := bind_pure_eq_ok.mp h
      obtain ⟨hk, hv⟩ := attachDetachDisksLoop_ok hl
      have hprep : (getVolumeStatus machine.status.volumeStatus vol.name).state = .prepared := by
        by_contra hne; exact hskip ⟨hcur, hne⟩
      refine ⟨by simp [diskStatus, hd, hcur, hprep, hk], fun info hi => ?_⟩
      obtain ⟨info', hi', -, hs₁⟩ := check_addToVm_ok hc
      cases hi.symm.trans hi'
      simpa [diskChange, hd, hcur, hprep] using hv _ (by simp [hs₁])
    · obtain ⟨_, s₁, hc, h⟩ := bind_eq_ok.mp h
      obtain ⟨k, hl, rfl⟩ := bind_pure_eq_ok.mp h
      obtain ⟨hk, hv⟩ := attachDetachDisksLoop_ok hl
      refine ⟨by simp [diskStatus, hd, hcur, hk], fun info hi => ?_⟩
      obtain ⟨info', hi', hs₁⟩ := check_changeVm_ok hc
      cases hi.symm.trans hi'
      simpa [diskChange, hd, hcur] using hv _ (by simp [hs₁])
    · obtain ⟨k, hl, rfl⟩ := bind_pure_eq_ok.mp h
      obtain ⟨hk, hv⟩ := attachDetachDisksLoop_ok hl
      exact ⟨by simp [diskStatus, hd, hcur, hk], fun info hi => by simpa [diskChange, hd, hcur] using hv info hi⟩

section DiskIds
variable {machine : Machine} {cur : List String} {info : VmInfo} {vol : VolumeSpec} {st : VolumeStatus}
  {h : String}

theorem diskStatus_name (hs : diskStatus machine cur vol = some st) : st.name = vol.name := by
  unfold diskStatus at hs
  dsimp only at hs
  split_ifs at hs <;> cases hs <;> simp

/-- The loop skips exactly the volumes not marked deleted whose disk is not live and
whose status is not `Prepared`. -/
theorem diskStatus_isSome : (diskStatus machine cur vol).isSome = decide (vol.deletedAt.isSome ∨
    (getVolumeStatus machine.status.volumeStatus vol.name).handle ∈ cur ∨
    (getVolumeStatus machine.status.volumeStatus vol.name).state = .prepared) := by
  unfold diskStatus
  dsimp only
  split_ifs <;> simp_all [or_iff_not_imp_left, Option.isSome_iff_ne_none]

/-- The state of the entry kept for a volume: `Attached` for a volume not marked
deleted, and for one marked deleted `Prepared` unless its disk was live. -/
theorem diskStatus_state (hs : diskStatus machine cur vol = some st) :
    (vol.deletedAt = none → st.state = .attached) ∧
      (vol.deletedAt.isSome → st.state = .prepared ∨ st.handle ∈ cur) := by
  unfold diskStatus at hs
  dsimp only at hs
  split_ifs at hs with hd hskip hcur <;> cases hs <;> simp_all

theorem diskChange_mem_of_ne (hne : ∀ st, diskStatus machine cur vol = some st → h ≠ st.handle) :
    h ∈ diskIds (diskChange machine cur info vol) ↔ h ∈ diskIds info := by
  by_cases hd : vol.deletedAt.isNone <;>
    by_cases hc : (getVolumeStatus machine.status.volumeStatus vol.name).handle ∈ cur <;>
    by_cases hp : (getVolumeStatus machine.status.volumeStatus vol.name).state = .prepared <;>
    simp_all [diskStatus, diskChange]

theorem diskChange_mem_own (hs : diskStatus machine cur vol = some st)
    (hcur : st.handle ∈ diskIds info ↔ st.handle ∈ cur) :
    st.handle ∈ diskIds (diskChange machine cur info vol) ↔ vol.deletedAt = none := by
  by_cases hd : vol.deletedAt.isNone <;>
    by_cases hc : (getVolumeStatus machine.status.volumeStatus vol.name).handle ∈ cur <;>
    by_cases hp : (getVolumeStatus machine.status.volumeStatus vol.name).state = .prepared <;>
    simp [diskStatus, hd, hc, hp] at hs <;> subst hs <;> simp_all [diskChange]

theorem foldl_diskChange_mem_of_ne :
    ∀ {vols : List VolumeSpec} {info : VmInfo},
    (∀ vol ∈ vols, ∀ st, diskStatus machine cur vol = some st → h ≠ st.handle) →
    (h ∈ diskIds (vols.foldl (diskChange machine cur) info) ↔ h ∈ diskIds info)
  | [], _, _ => Iff.rfl
  | vol :: vols, info, hne => by
    rw [List.foldl_cons, foldl_diskChange_mem_of_ne fun v hv => hne v (List.mem_cons_of_mem _ hv),
      diskChange_mem_of_ne (hne vol (List.mem_cons_self _ _))]

/-- With distinct handles among the entries kept, the disk of a kept entry is live
after the loop exactly when its volume is not marked deleted. -/
theorem foldl_diskChange_mem {vols : List VolumeSpec} (hcur : ∀ h, h ∈ diskIds info ↔ h ∈ cur)
    (hnodup : ((vols.filterMap (diskStatus machine cur)).map (·.handle)).Nodup)
    (hvol : vol ∈ vols) (hs : diskStatus machine cur vol = some st) :
    st.handle ∈ diskIds (vols.foldl (diskChange machine cur) info) ↔ vol.deletedAt = none := by
  obtain ⟨pre, post, rfl⟩ := List.append_of_mem hvol
  simp only [List.filterMap_append, List.filterMap_cons, hs, List.map_append, List.map_cons] at hnodup
  rw [List.nodup_middle, List.nodup_cons, ← List.map_append, ← List.filterMap_append] at hnodup
  have hother : ∀ v ∈ pre ++ post, ∀ st', diskStatus machine cur v = some st' → st.handle ≠ st'.handle :=
    fun v hv st' hs' he => hnodup.1 (he ▸ List.mem_map_of_mem _ (List.mem_filterMap.mpr ⟨v, hv, hs'⟩))
  rw [List.foldl_append, List.foldl_cons,
    foldl_diskChange_mem_of_ne fun v hv => hother v (List.mem_append_right _ hv),
    diskChange_mem_own hs ((foldl_diskChange_mem_of_ne fun v hv => hother v (List.mem_append_left _ hv)).trans
      (hcur _))]

end DiskIds

section Hotplug
variable {s s' : World × Faults} {key : String} {info : VmInfo}

theorem attachDetachDisks_ok {machine machine' : Machine} {vm : VmInfo}
    (h : attachDetachDisks machine vm.config s = .ok machine' s') :
    machine' = { machine with
      status.volumeStatus := machine.spec.volumes.filterMap (diskStatus machine (diskIds vm)) } ∧
    ∀ info, s.1.vmAt (machine.spec.apiSocketPath.getD "") = some info →
      s'.1.vmAt (machine.spec.apiSocketPath.getD "") =
        some (machine.spec.volumes.foldl (diskChange machine (diskIds vm)) info) := by
  unfold attachDetachDisks at h
  obtain ⟨kept, s₁, hl, h⟩ := bind_eq_ok.mp h
  obtain ⟨_, s₂, hc, h⟩ := bind_eq_ok.mp h
  cases h
  obtain ⟨rfl, hv⟩ := attachDetachDisksLoop_ok hl
  obtain ⟨-, hs₂⟩ := call_eq_ok_ok ((check_eq_ok _).mp hc)
  exact ⟨rfl, fun info hi => by simpa [hs₂] using hv info hi⟩

/-- What step 12 does to the VM that `vm.info` reported as `vm`. -/
def powerChange (power : Power) (vm info : VmInfo) : VmInfo :=
  match power with
  | .powerOn => if vm.state ≠ .running then withState .running info else info
  | .powerOff => if vm.state = .running then withState .shutdown info else info

theorem reconcilePower_ok {power : Power} {vm : VmInfo} (h : reconcilePower key power vm s = .ok () s')
    (hi : s.1.vmAt key = some info) : s'.1.vmAt key = some (powerChange power vm info) := by
  cases power <;> simp only [reconcilePower] at h <;> split_ifs at h with hs
  all_goals first
    | (cases h; simp [powerChange, hs, hi])
    | (obtain ⟨info', hi', hs'⟩ := check_changeVm_ok h
       cases hi.symm.trans hi'
       simp [powerChange, hs, hs'])

theorem addFinalizerToNIC_keeps {β : Type} {view : World → β} (hv : Untouched view)
    (hn : ∀ w nics, view { w with nics := nics } = view w) (nic : NetworkInterface) :
    Keeps view (addFinalizerToNIC nic) :=
  keeps_ite (keeps_pure _) (keeps_bind (keeps_check _ (hv.keeps_call (nicsUpdate_view hn _))) fun _ => keeps_pure _)

/-- What the hot-plug loop of `reconcileNics` does to the VM for a map entry. -/
def nicChange (currentNICs : List String) (info : VmInfo) (p : String × NetworkInterface) : VmInfo :=
  if p.2.metadata.deletedAt.isNone ∧ p.1 ∉ currentNICs then withNet p.2.metadata.id info else info

theorem reconcileNicsAdd_ok {cur : List String} :
    ∀ {nics : NicMap} {s s' : World × Faults} {info : VmInfo},
    reconcileNicsAdd key cur nics s = .ok () s' → s.1.vmAt key = some info →
      s'.1.vmAt key = some (nics.foldl (nicChange cur) info)
  | [], s, s', info, h, hi => by cases h; exact hi
  | (name, nic) :: rest, s, s', info, h, hi => by
    simp only [reconcileNicsAdd] at h
    split_ifs at h with hadd
    · obtain ⟨_, s₁, hf, h⟩ := bind_eq_ok.mp h
      obtain ⟨_, s₂, hc, h⟩ := bind_eq_ok.mp h
      have hi₁ : s₁.1.vmAt key = some info :=
        (World.vmAt_of_processes ((keeps_wrapErr _ (addFinalizerToNIC_keeps (untouched_process _) (fun _ _ => rfl) nic)).of_ok hf)).trans hi
      obtain ⟨info', hi', -, hs₂⟩ := check_addToVm_ok hc
      cases hi₁.symm.trans hi'
      simpa [nicChange, hadd] using reconcileNicsAdd_ok h (by simp [hs₂])
    · rw [List.foldl_cons, nicChange, if_neg hadd]
      exact reconcileNicsAdd_ok h hi

@[simp] theorem diskIds_powerChange (power : Power) (vm : VmInfo) :
    diskIds (powerChange power vm info) = diskIds info := by
  cases power <;> simp only [powerChange] <;> split <;> rfl

@[simp] theorem diskIds_foldl_nicChange (cur : List String) :
    ∀ (nics : NicMap) (info : VmInfo), diskIds (nics.foldl (nicChange cur) info) = diskIds info
  | [], _ => rfl
  | p :: nics, info => by
    rw [List.foldl_cons, diskIds_foldl_nicChange]
    unfold nicChange; split <;> rfl

theorem getNicName_empty : getNicName "" = none := by decide

/-- The device loop of `reconcileNics` removes only devices the VM lists as NICs: it
leaves the disks alone while no NIC device shares its id with a disk. -/
theorem reconcileNicsDevices_diskIds :
    ∀ {devices : List DeviceConfig} {nics : NicMap} {cur : List String} {s s' : World × Faults}
      {res : List String × NicMap} {info : VmInfo},
    reconcileNicsDevices key devices nics cur s = .ok res s' → s.1.vmAt key = some info →
    (∀ d ∈ devices, ∀ i, d.id = some i → i ∉ diskIds info) →
    ∃ info', s'.1.vmAt key = some info' ∧ diskIds info' = diskIds info
  | [], _, _, s, s', _, info, h, hi, _ => by cases h; exact ⟨info, hi, rfl⟩
  | d :: ds, nics, cur, s, s', res, info, h, hi, hd => by
    have hds := fun d' hd' => hd d' (List.mem_cons_of_mem _ hd')
    simp only [reconcileNicsDevices] at h
    rcases hname : getNicName (d.id.getD "") with _ | name
    · simp only [hname] at h
      exact reconcileNicsDevices_diskIds h hi hds
    rcases hl : nics.lookup name with _ | nic
    · simp only [hname, hl] at h
      exact reconcileNicsDevices_diskIds h hi hds
    simp only [hname, hl] at h
    split_ifs at h
    · exact reconcileNicsDevices_diskIds h hi hds
    obtain ⟨_, s₁, hc, h⟩ := bind_eq_ok.mp h
    obtain ⟨_, s₂, hf, h⟩ := bind_eq_ok.mp h
    obtain ⟨info₁, hi₁, hs₁⟩ := check_changeVm_ok hc
    cases hi.symm.trans hi₁
    have hid : d.id = some (d.id.getD "") := by
      cases hdid : d.id
      · simp [hdid, getNicName_empty] at hname
      · rfl
    have hdisk : diskIds (withoutDevice (d.id.getD "") info) = diskIds info :=
      (diskIds_withoutDevice _ _).trans (List.filter_eq_self.mpr fun a ha => by
        simpa using ne_of_mem_of_not_mem ha (hd d (List.mem_cons_self _ _) _ hid))
    have hi₂ : s₂.1.vmAt key = some (withoutDevice (d.id.getD "") info) :=
      (World.vmAt_of_processes ((keeps_wrapErr _ (removeFinalizerFromNIC_keeps (untouched_process _) (fun _ _ => rfl) _)).of_ok hf)).trans
        (by simp [hs₁])
    obtain ⟨info', h', he⟩ := reconcileNicsDevices_diskIds h hi₂ (by rw [hdisk]; exact hds)
    exact ⟨info', h', he.trans hdisk⟩

end Hotplug

end CloudHypervisorProvider.Controllers
