import CloudHypervisorProvider.Controllers.Settled

/-! # A reconciling pass settles its machine

A pass that returns at its final status write leaves its machine settled, so that
the next pass has nothing to do, when none of the machine's volume or NIC entries
and none of its NIC objects is being deleted, and when the pass attached every
volume.
-/

namespace CloudHypervisorProvider.Controllers
open Go Api Client

/-- `info'` is `info` with disks or devices added, in the same power state and on the
same platform. -/
structure VmGrows (info info' : VmInfo) : Prop where
  state : info'.state = info.state
  platform : info'.config.platform = info.config.platform
  nets : ∀ d ∈ netIds info, d ∈ netIds info'
  disks : ∀ d ∈ diskIds info, d ∈ diskIds info'

section Grows
variable {info info₁ info₂ : VmInfo}

theorem VmGrows.refl (info : VmInfo) : VmGrows info info := ⟨rfl, rfl, fun _ h => h, fun _ h => h⟩

theorem VmGrows.trans (h₁ : VmGrows info info₁) (h₂ : VmGrows info₁ info₂) : VmGrows info info₂ :=
  ⟨h₂.state.trans h₁.state, h₂.platform.trans h₁.platform, fun d h => h₂.nets d (h₁.nets d h),
    fun d h => h₂.disks d (h₁.disks d h)⟩

theorem vmGrows_withDisk (id : String) (info : VmInfo) : VmGrows info (withDisk id info) :=
  ⟨rfl, rfl, fun _ h => h, fun _ h => by simp [h]⟩

theorem vmGrows_withNet (id : String) (info : VmInfo) : VmGrows info (withNet id info) :=
  ⟨rfl, rfl, fun _ h => by simp [h], fun _ h => h⟩

theorem vmGrows_diskChange {machine : Machine} {cur : List String} {vol : VolumeSpec}
    (hvol : vol.deletedAt = none) (info : VmInfo) : VmGrows info (diskChange machine cur info vol) := by
  unfold diskChange
  simp only [hvol, Option.isNone_none, if_true]
  split_ifs
  · exact vmGrows_withDisk _ _
  · exact .refl _

theorem vmGrows_nicChange (cur : List String) (info : VmInfo) (p : String × NetworkInterface) :
    VmGrows info (nicChange cur info p) := by
  unfold nicChange
  split_ifs
  · exact vmGrows_withNet _ _
  · exact .refl _

theorem foldl_vmGrows {α : Type} {f : VmInfo → α → VmInfo} {l : List α}
    (hf : ∀ a ∈ l, ∀ info, VmGrows info (f info a)) (info : VmInfo) : VmGrows info (l.foldl f info) := by
  induction l generalizing info with
  | nil => exact .refl _
  | cons a l ih =>
    exact (hf a (List.mem_cons_self _ _) _).trans (ih (fun b hb => hf b (List.mem_cons_of_mem _ hb)) _)

theorem foldl_vmGrows_of_mem {α : Type} {f : VmInfo → α → VmInfo} {a : α} {l : List α} (ha : a ∈ l)
    (hf : ∀ b ∈ l, ∀ info, VmGrows info (f info b)) (info : VmInfo) :
    ∃ info', VmGrows info info' ∧ VmGrows (f info' a) (l.foldl f info) := by
  induction l generalizing info with
  | nil => cases ha
  | cons b l ih =>
    have hl : ∀ c ∈ l, ∀ info, VmGrows info (f info c) := fun c hc => hf c (List.mem_cons_of_mem _ hc)
    rcases List.mem_cons.mp ha with rfl | ha
    · exact ⟨info, .refl _, foldl_vmGrows hl _⟩
    · obtain ⟨info', h₁, h₂⟩ := ih ha hl (f info b)
      exact ⟨info', (hf b (List.mem_cons_self _ _) info).trans h₁, h₂⟩

/-- After the disk loop over entries none of which is marked deleted, the VM has the disk
of every entry whose disk was live or whose status was `Prepared`. -/
theorem mem_diskIds_foldl_diskChange {machine : Machine} {cur : List String} {vols : List VolumeSpec}
    {vol : VolumeSpec} (hv : vol ∈ vols) (hvols : ∀ v ∈ vols, v.deletedAt = none) {info : VmInfo}
    (hcur : ∀ d ∈ cur, d ∈ diskIds info)
    (hcov : (getVolumeStatus machine.status.volumeStatus vol.name).handle ∈ cur ∨
      (getVolumeStatus machine.status.volumeStatus vol.name).state = .prepared) :
    (getVolumeStatus machine.status.volumeStatus vol.name).handle ∈
      diskIds (vols.foldl (diskChange machine cur) info) := by
  have hgrow : ∀ v ∈ vols, ∀ info, VmGrows info (diskChange machine cur info v) :=
    fun v hv info => vmGrows_diskChange (hvols v hv) info
  by_cases hin : (getVolumeStatus machine.status.volumeStatus vol.name).handle ∈ cur
  · exact (foldl_vmGrows hgrow info).disks _ (hcur _ hin)
  · obtain ⟨info', -, hgrow'⟩ := foldl_vmGrows_of_mem hv hgrow info
    refine hgrow'.disks _ ?_
    simp [diskChange, hvols vol hv, hin, hcov.resolve_left hin]

theorem mem_keptNics {info : VmInfo} {name : String} {keep : String → Bool}
    (h : name ∈ (info.config.devices.getD []).filterMap fun d => (getNicName (d.id.getD "")).filter keep) :
    ∃ d ∈ netIds info, getNicName d = some name := by
  obtain ⟨dev, hdev, hf⟩ := List.mem_filterMap.mp h
  rcases hid : dev.id with _ | d
  · simp [hid, getNicName_empty] at hf
  refine ⟨d, List.mem_filterMap.mpr ⟨dev, hdev, hid⟩, ?_⟩
  rcases hname : getNicName d with _ | n <;> simp_all [Option.filter_some]

/-- After the NIC hot-plug loop, a NIC of the map not marked deleted has a device whose id
names it: the one it had, or the one the loop plugged. -/
theorem nets_foldl_nicChange {cur : List String} {nics : NicMap} {name : String} {obj : NetworkInterface}
    (hmem : (name, obj) ∈ nics) (hdel : obj.metadata.deletedAt = none) (hdec : getNicName obj.metadata.id = some name)
    {info : VmInfo} (hcur : name ∈ cur → ∃ d ∈ netIds info, getNicName d = some name) :
    ∃ d ∈ netIds (nics.foldl (nicChange cur) info), getNicName d = some name := by
  have hgrow : ∀ p ∈ nics, ∀ info, VmGrows info (nicChange cur info p) := fun p _ info => vmGrows_nicChange cur info p
  by_cases hc : name ∈ cur
  · obtain ⟨d, hd, hdn⟩ := hcur hc
    exact ⟨d, (foldl_vmGrows hgrow info).nets _ hd, hdn⟩
  · obtain ⟨info', -, hgrow'⟩ := foldl_vmGrows_of_mem hmem hgrow info
    exact ⟨obj.metadata.id, hgrow'.nets _ (by simp [nicChange, hdel, hc]), hdec⟩

theorem powerChange_config (power : Power) (vm info : VmInfo) :
    (powerChange power vm info).config = info.config := by
  cases power <;> simp only [powerChange] <;> split <;> rfl

theorem powerChange_state (power : Power) (vm : VmInfo) :
    (powerChange power vm vm).state = .running ↔ power = .powerOn := by
  cases power <;> simp only [powerChange] <;> split <;> simp_all [withState]

end Grows

section Prefix
variable {r : MachineReconciler} {machine : Machine} {s s' : World × Faults}

theorem reconcileImage_false (h : reconcileImage r machine s = .ok false s') :
    machine.spec.image.getD "" = "" ∨ machine.spec.image.getD "" ∈ s'.1.images := by
  rw [(reconcileImage_keeps untouched_images).of_ok h]
  unfold reconcileImage at h
  dsimp only at h
  by_cases hi : machine.spec.image.getD "" = ""
  · exact .inl hi
  refine .inr ?_
  rw [if_neg hi, pure_bind_apply] at h
  obtain ⟨res, s₁, hc, h⟩ := bind_eq_ok.mp h
  rcases res with err | _
  · dsimp only at h
    split_ifs at h
    · cases h
    · obtain ⟨_, _, _, h⟩ := bind_eq_ok.mp h; cases h
  · simpa [World.imageGet] using (call_eq_ok_ok hc).1

/-- The fetch for an entry not marked deleted: the entry's object is stored afterwards,
every object stored before is still there, and any other object now stored is one the
fetch created, not marked deleted. -/
theorem fetchNic_ok {n : NetworkInterfaceSpec} {nic? : Option NetworkInterface} (hn : n.deletedAt = none)
    (h : fetchNic machine n s = .ok nic? s') :
    ∃ nic, nic? = some nic ∧ s'.1.nics.get (getNicID machine.metadata.id n.name) = some nic ∧
      (∀ k x, s.1.nics.get k = some x → s'.1.nics.get k = some x) ∧
      ∀ k x, s'.1.nics.get k = some x → s.1.nics.get k = some x ∨ x.metadata.deletedAt = none := by
  unfold fetchNic at h
  obtain ⟨res, s₁, hc, h⟩ := bind_eq_ok.mp h
  have hs₁ : s₁.1 = s.1 := by simpa using call_world (fun _ => rfl) hc
  rcases res with err | nic
  · simp only [hn, Option.isSome_none, Bool.false_eq_true, if_false] at h
    split_ifs at h
    · cases h
    obtain ⟨obj, hcheck, rfl⟩ := map_eq_ok.mp h
    obtain ⟨hobj, hs'⟩ := call_eq_ok_ok ((check_eq_ok _).mp hcheck)
    simp only [World.nicsCreate, hs₁, record_nics] at hobj hs'
    split_ifs at hobj hs' with hex
    cases hobj
    have hnone : s.1.nics.get (getNicID machine.metadata.id n.name) = none := by simpa using hex
    refine ⟨_, rfl, by simp [hs'], fun k x hx => ?_, fun k x hx => ?_⟩ <;> rw [hs'] at * <;>
      simp only [record_nics, Store.get_put] at hx ⊢
    · split_ifs with hk
      · rw [hk, hnone] at hx; cases hx
      · exact hx
    · split_ifs at hx
      · cases hx; exact .inr rfl
      · exact .inl hx
  · obtain ⟨hget, -⟩ := call_eq_ok_ok hc
    cases h
    simp only [World.nicsGet, record_none] at hget
    split at hget
    · cases hget; rw [hs₁]; exact ⟨_, rfl, by assumption, fun _ _ h => h, fun _ _ h => .inl h⟩
    · cases hget

/-- The NIC loop over entries none of which is marked deleted builds the map of the
objects stored when it ends. It keeps every object stored before, leaves an object
stored for every entry, and stores no other object but ones it created, not marked
deleted. -/
theorem materializeNics_ok :
    ∀ {specs : List NetworkInterfaceSpec} {nics nics' : NicMap} {s s' : World × Faults},
    materializeNics machine specs nics s = .ok nics' s' → (∀ n ∈ specs, n.deletedAt = none) →
    nics' = specs.foldl (addStoredNic s'.1 machine) nics ∧
    (∀ k x, s.1.nics.get k = some x → s'.1.nics.get k = some x) ∧
    (∀ k x, s'.1.nics.get k = some x → s.1.nics.get k = some x ∨ x.metadata.deletedAt = none) ∧
    ∀ n ∈ specs, (s'.1.nics.get (getNicID machine.metadata.id n.name)).isSome
  | [], _, _, _, _, h, _ => by
    cases h; exact ⟨rfl, fun _ _ h => h, fun _ _ h => .inl h, fun _ h => nomatch h⟩
  | n :: rest, nics, nics', s, s', h, hdel => by
    have hn := hdel n (List.mem_cons_self _ _)
    simp only [materializeNics] at h
    obtain ⟨nic?, s₁, hf, h⟩ := bind_eq_ok.mp h
    obtain ⟨nic, rfl, hget₁, hfwd₁, hback₁⟩ := fetchNic_ok hn hf
    simp only [hn, Option.isSome_none, Bool.false_eq_true, if_false, pure_bind_apply] at h
    obtain ⟨rfl, hfwd, hback, hex⟩ := materializeNics_ok h fun m hm => hdel m (List.mem_cons_of_mem _ hm)
    refine ⟨?_, fun k x hx => hfwd k x (hfwd₁ k x hx), fun k x hx => ?_, fun m hm => ?_⟩
    · simp [addStoredNic, hfwd _ _ hget₁]
    · exact (hback k x hx).elim (hback₁ k x) .inr
    · rcases List.mem_cons.mp hm with rfl | hm
      · simp [hfwd _ _ hget₁]
      · exact hex m hm

/-- The volume loop over entries none of which is marked deleted keeps them all: it
found each one's plugin and had it applied, and it records the statuses under the
names and handles the plugins reported. It changes nothing in the world. -/
theorem reconcileVolumesLoop_ok :
    ∀ {vols : List VolumeSpec} {kept : List VolumeSpec × List VolumeStatus} {s s' : World × Faults},
    reconcileVolumesLoop r machine vols s = .ok kept s' → (∀ vol ∈ vols, vol.deletedAt = none) →
    kept.1 = vols ∧
    List.Forall₂ (fun a b => a.name = b.name ∧ a.handle = b.handle) kept.2
      (appliedStatuses r machine.metadata.id vols) ∧
    (∀ vol ∈ vols, ∃ plugin st, r.volumePluginManager.findPluginBySpec vol = .ok plugin ∧
      plugin.apply vol machine.metadata.id = .ok st) ∧
    s'.1 = s.1
  | [], _, _, _, h, _ => by cases h; exact ⟨rfl, .nil, (fun _ h => nomatch h), rfl⟩
  | vol :: vols, kept, s, s', h, hdel => by
    have hv := hdel vol (List.mem_cons_self _ _)
    simp only [reconcileVolumesLoop] at h
    obtain ⟨plugin, s₁, hp, h⟩ := bind_eq_ok.mp h
    obtain ⟨hfind, hs₁⟩ := call_eq_ok_ok ((check_eq_ok _).mp hp)
    simp only [hv, Option.isSome_none, Bool.false_eq_true, false_and, if_false] at h
    obtain ⟨st, s₂, ha, h⟩ := bind_eq_ok.mp h
    obtain ⟨happly, hs₂⟩ := call_eq_ok_ok ((check_eq_ok _).mp ha)
    obtain ⟨k, hl, rfl⟩ := bind_pure_eq_ok.mp h
    obtain ⟨h₁, h₂, h₃, h₄⟩ := reconcileVolumesLoop_ok hl fun v hv' => hdel v (List.mem_cons_of_mem _ hv')
    refine ⟨by rw [h₁], ?_, fun v hv' => ?_, by simp [h₄, hs₂, hs₁]⟩
    · rw [appliedStatuses_cons hfind happly]
      exact .cons (by split_ifs <;> simp) h₂
    · rcases List.mem_cons.mp hv' with rfl | hv'
      · exact ⟨_, _, hfind, happly⟩
      · exact h₃ v hv'

end Prefix

/-- Every object of `store₀` is still in `store`, with the same status and deletion mark;
only its finalizers may differ. -/
def NicsAgree (store₀ store : Store NetworkInterface NetworkInterface.metadata) : Prop :=
  ∀ k x, store₀.get k = some x →
    ∃ y, store.get k = some y ∧ y.status = x.status ∧ y.metadata.deletedAt = x.metadata.deletedAt

section Agree
variable {store₀ : Store NetworkInterface NetworkInterface.metadata} {s s' : World × Faults}

theorem NicsAgree.refl (store : Store NetworkInterface NetworkInterface.metadata) : NicsAgree store store :=
  fun _ x hx => ⟨x, hx, rfl, rfl⟩

theorem addFinalizerToNIC_agree {nic : NetworkInterface} (h : addFinalizerToNIC nic s = .ok () s')
    (hnic : store₀.get nic.metadata.id = some nic) (hdel : nic.metadata.deletedAt = none)
    (ha : NicsAgree store₀ s.1.nics) : NicsAgree store₀ s'.1.nics := by
  unfold addFinalizerToNIC at h
  split_ifs at h
  · cases h; exact ha
  obtain ⟨_, s₁, hc, h⟩ := bind_eq_ok.mp h
  cases h
  obtain ⟨hu, hs⟩ := call_eq_ok_ok ((check_eq_ok _).mp hc)
  simp only [World.nicsUpdate, record_nics] at hu hs
  split_ifs at hu hs
  intro k x hx
  rw [hs, Store.get_write_of_live _ _ (show ({ nic with metadata.finalizers :=
    nic.metadata.finalizers ++ [MachineFinalizer] } : NetworkInterface).metadata.deletedAt = none from hdel)]
  split_ifs with hk
  · rw [hk, hnic] at hx; cases hx; exact ⟨_, rfl, rfl, rfl⟩
  · exact ha k x hx

theorem reconcileNicsAdd_agree {key : String} {cur : List String} :
    ∀ {nics : NicMap} {s s' : World × Faults}, reconcileNicsAdd key cur nics s = .ok () s' →
      (∀ p ∈ nics, store₀.get p.2.metadata.id = some p.2) → NicsAgree store₀ s.1.nics →
      NicsAgree store₀ s'.1.nics
  | [], _, _, h, _, ha => by cases h; exact ha
  | (name, nic) :: rest, s, s', h, hmap, ha => by
    have hrest := fun p hp => hmap p (List.mem_cons_of_mem _ hp)
    simp only [reconcileNicsAdd] at h
    split_ifs at h with hadd
    · obtain ⟨_, s₁, hf, h⟩ := bind_eq_ok.mp h
      obtain ⟨_, s₂, hc, h⟩ := bind_eq_ok.mp h
      have ha₁ := addFinalizerToNIC_agree ((wrapErr_eq_ok _).mp hf) (hmap _ (List.mem_cons_self _ _))
        (Option.isNone_iff_eq_none.mp hadd.1) ha
      have hs₂ : s₂.1.nics = s₁.1.nics :=
        (keeps_check _ (untouched_nics.keeps_call (addToVm_view (by intros; rfl) _))).of_ok hc
      exact reconcileNicsAdd_agree h hrest (hs₂ ▸ ha₁)
    · exact reconcileNicsAdd_agree h hrest ha

end Agree

theorem machineNicStatuses_congr {a b : NicMap} {specs : List NetworkInterfaceSpec}
    (h : ∀ n ∈ specs, (a.lookup n.name).map (·.status) = (b.lookup n.name).map (·.status)) :
    machineNicStatuses a specs = machineNicStatuses b specs := by
  unfold machineNicStatuses
  refine List.map_congr_left fun n hn => ?_
  have hab := h n hn
  rcases ha : a.lookup n.name with _ | x <;> rcases hb : b.lookup n.name with _ | y <;> simp_all

theorem finalRecord_finalRecord (nics nics' : NicMap) (machine : Machine) :
    finalRecord nics (finalRecord nics' machine) = finalRecord nics machine := rfl

theorem finalRecord_congr {nics nics' : NicMap} {machine : Machine}
    (h : machineNicStatuses nics machine.spec.networkInterfaces = machineNicStatuses nics' machine.spec.networkInterfaces) :
    finalRecord nics machine = finalRecord nics' machine := by
  simp only [finalRecord, h]

/-- A pass that attached every volume entry, none of them marked deleted, writes for each
the status its plugin reported, as `Attached`. -/
theorem filterMap_diskStatus_of_length {machine : Machine} {cur : List String} {vols : List VolumeSpec}
    (hvols : ∀ vol ∈ vols, vol.deletedAt = none) (hlen : (vols.filterMap (diskStatus machine cur)).length = vols.length) :
    vols.filterMap (diskStatus machine cur) = vols.map (fun vol => settledStatus machine.status.volumeStatus vol.name) ∧
    ∀ vol ∈ vols, (getVolumeStatus machine.status.volumeStatus vol.name).handle ∈ cur ∨
      (getVolumeStatus machine.status.volumeStatus vol.name).state = .prepared := by
  rw [List.length_filterMap_eq_countP, List.countP_eq_length] at hlen
  have hsome : ∀ vol ∈ vols, diskStatus machine cur vol = some (settledStatus machine.status.volumeStatus vol.name) ∧
      ((getVolumeStatus machine.status.volumeStatus vol.name).handle ∈ cur ∨
        (getVolumeStatus machine.status.volumeStatus vol.name).state = .prepared) := by
    intro vol hv
    have hs := hlen vol hv
    simp only [diskStatus, hvols vol hv, Option.isNone_none, if_true] at hs ⊢
    split_ifs at hs ⊢ with hskip
    · cases hs
    · exact ⟨rfl, by tauto⟩
  exact ⟨List.filterMap_eq_map_iff_forall_eq_some.mpr fun vol hv => (hsome vol hv).1, fun vol hv => (hsome vol hv).2⟩

section Settles
variable {r : MachineReconciler} {machine : Machine} {nics : NicMap} {vm : VmInfo} {s s' : World × Faults}

/-- A reconciling `reconcileVm`, handed the map of the stored NIC objects and the record
`reconcileVolumes` wrote, leaves the machine settled when none of its volume or NIC
entries and none of their objects is being deleted and it attached every volume. -/
theorem reconcileVm_settles (hrec : reconcileVm machine nics vm s = .ok .reconciled s')
    (hvm : s.1.vmAt (machine.spec.apiSocketPath.getD "") = some vm) (hnics : nics = storedNics s.1 machine)
    (hobj : ∀ n ∈ machine.spec.networkInterfaces, getNicName (getNicID machine.metadata.id n.name) = some n.name ∧
      ∃ nic, s.1.nics.get (getNicID machine.metadata.id n.name) = some nic ∧ nic.metadata.deletedAt = none)
    (hvols : ∀ vol ∈ machine.spec.volumes, vol.deletedAt = none ∧ ∃ plugin st,
      r.volumePluginManager.findPluginBySpec vol = .ok plugin ∧ plugin.apply vol machine.metadata.id = .ok st)
    (hK : List.Forall₂ (fun a b => a.name = b.name ∧ a.handle = b.handle) machine.status.volumeStatus
      (appliedStatuses r machine.metadata.id machine.spec.volumes))
    (hentries : ∀ n ∈ machine.spec.networkInterfaces, n.deletedAt = none)
    (himage : machine.spec.image.getD "" = "" ∨ machine.spec.image.getD "" ∈ s.1.images)
    (hsocket : machine.spec.apiSocketPath.isSome) (hlive : machine.metadata.deletedAt = none)
    (hfin : MachineFinalizer ∈ machine.metadata.finalizers)
    (hall : ∀ m, s'.1.machines.get machine.metadata.id = some m → m.status.volumeStatus.length = m.spec.volumes.length) :
    Settled r s'.1 (finalRecord nics { machine with
      status.volumeStatus := machine.spec.volumes.filterMap (diskStatus machine (diskIds vm)) }) := by
  obtain ⟨huuid, t₁, t₂, m₃, t₃, m₄, hp, hn, ha, hc⟩ := reconcileVm_reconciled hrec
  subst hnics
  unfold reconcileNics at hn
  obtain ⟨⟨cur, nics'⟩, t₁', hd, hadd⟩ := bind_eq_ok.mp hn
  rw [reconcileNicsDevices_nil fun _ => storedNics_live fun n hn => (hobj n hn).2] at hd
  obtain ⟨hres, rfl⟩ := EStateM.Result.ok.inj hd
  obtain ⟨hcur, rfl⟩ := Prod.mk.inj hres
  obtain ⟨rfl, hv₃⟩ := attachDetachDisks_ok ha
  have hs' := check_machinesUpdate_ok hc
  have hn₁ : t₁.1.nics = s.1.nics := (reconcilePower_keeps untouched_nics (by intros; rfl) _ _ _).of_ok hp
  have hn₃ : t₃.1.nics = t₂.1.nics := (attachDetachDisks_keeps untouched_nics (by intros; rfl) _).of_ok ha
  have hagree : NicsAgree s.1.nics s'.1.nics := by
    have := reconcileNicsAdd_agree hadd (fun _ => storedNics_stored) (hn₁ ▸ NicsAgree.refl _)
    rwa [hs', record_nics, hn₃]
  have himages : s'.1.images = s.1.images := by
    rw [hs', record_images, (attachDetachDisks_keeps untouched_images (by intros; rfl) _).of_ok ha,
      (reconcileNicsAdd_keeps untouched_images (by intros; rfl) (by intros; rfl) _ _ _).of_ok hadd,
      (reconcilePower_keeps untouched_images (by intros; rfl) _ _ _).of_ok hp]
  have hget : s'.1.machines.get machine.metadata.id = some (finalRecord (storedNics s.1 machine) { machine with
      status.volumeStatus := machine.spec.volumes.filterMap (diskStatus machine (diskIds vm)) }) := by
    rw [hs']; exact (Store.get_write_of_live _ (finalRecord _ _) hlive _).trans (if_pos rfl)
  obtain ⟨hstatus, hcovered⟩ := filterMap_diskStatus_of_length (fun v hv => (hvols v hv).1) (hall _ hget)
  -- the VM: powered as the spec asks, then given NIC devices, then disks
  have hconfig := powerChange_config machine.spec.power vm vm
  set I₁ := (storedNics s.1 machine).foldl (nicChange cur) (powerChange machine.spec.power vm vm)
  set I₂ := machine.spec.volumes.foldl (diskChange machine (diskIds vm)) I₁
  have hgrow₁ : VmGrows (powerChange machine.spec.power vm vm) I₁ :=
    foldl_vmGrows (fun p _ info => vmGrows_nicChange cur info p) _
  have hgrow₂ : VmGrows I₁ I₂ := foldl_vmGrows (fun v hv info => vmGrows_diskChange (hvols v hv).1 info) _
  have hnets : ∀ n ∈ machine.spec.networkInterfaces, ∃ d ∈ netIds I₂, getNicName d = some n.name := by
    intro n hn
    obtain ⟨hdec, obj, hobj', hd⟩ := hobj n hn
    have hmem : (n.name, obj) ∈ storedNics s.1 machine :=
      mem_of_lookup_eq_some (by rw [lookup_storedNics, if_pos (List.mem_map_of_mem _ hn), hobj'])
    obtain ⟨d, hd', hdn⟩ : ∃ d ∈ netIds I₁, getNicName d = some n.name :=
      nets_foldl_nicChange hmem hd (by rw [s.1.nics.keyed _ _ hobj']; exact hdec) fun hc => by
        rw [← hcur, List.nil_append] at hc
        simpa only [netIds, hconfig] using mem_keptNics hc
    exact ⟨d, hgrow₂.nets _ hd', hdn⟩
  have hdisks : ∀ vol ∈ machine.spec.volumes,
      (getVolumeStatus (appliedStatuses r machine.metadata.id machine.spec.volumes) vol.name).handle ∈ diskIds I₂ := by
    intro vol hv
    rw [← getVolumeStatus_handle_congr hK vol.name]
    exact mem_diskIds_foldl_diskChange hv (fun v hv => (hvols v hv).1)
      (fun d hd => hgrow₁.disks _ (by simpa only [diskIds, hconfig] using hd)) (hcovered vol hv)
  have hvs : machine.spec.volumes.filterMap (diskStatus machine (diskIds vm)) = settledStatuses r machine :=
    hstatus.trans (List.map_congr_left fun vol _ => settledStatus_congr hK vol.name)
  refine ⟨hget, hlive, hfin, hsocket, himages ▸ himage, hvols, fun n hn => ?_, ?_, ?_⟩
  · obtain ⟨-, nic, hnic, hd⟩ := hobj n hn
    obtain ⟨y, hy, -, hyd⟩ := hagree _ _ hnic
    exact ⟨hentries n hn, y, hy, hyd.trans hd⟩
  · refine ⟨_, ?_, ?_, ?_, hnets, hdisks⟩
    · rw [hs']
      exact (World.vmAt_of_processes rfl).trans (hv₃ _ (reconcileNicsAdd_ok hadd (reconcilePower_ok hp hvm)))
    · rw [hgrow₂.platform, hgrow₁.platform, hconfig]; exact huuid
    · rw [hgrow₂.state, hgrow₁.state]; exact powerChange_state _ _
  · show finalRecord _ (finalRecord _ { machine with status.volumeStatus := settledStatuses r machine }) = _
    rw [← hvs, finalRecord_finalRecord]
    refine finalRecord_congr (machineNicStatuses_congr fun n hn => ?_)
    obtain ⟨-, nic, hnic, -⟩ := hobj n hn
    obtain ⟨y, hy, hys, -⟩ := hagree _ _ hnic
    have hname : n.name ∈ machine.spec.networkInterfaces.map (·.name) := List.mem_map_of_mem _ hn
    show ((storedNics s'.1 machine).lookup n.name).map _ = ((storedNics s.1 machine).lookup n.name).map _
    rw [lookup_storedNics, lookup_storedNics, if_pos hname, if_pos hname, hnic, hy]
    exact congrArg some hys

end Settles

/-- A pass that returns at its final status write leaves its machine settled when, in
the state it started from, none of the machine's volume or NIC entries and none of their
NIC objects is marked deleted and every NIC name comes back from its object's id, and
when the pass attached every volume. -/
theorem reconcileMachine_settles {r : MachineReconciler} {id : String} {w w' : World} {fs fs' : Faults}
    {machine : Machine} (h : reconcileMachine r id (w, fs) = .ok .reconciled (w', fs'))
    (hstored : w.machines.get id = some machine)
    (hvols : ∀ vol ∈ machine.spec.volumes, vol.deletedAt = none)
    (hnics : ∀ n ∈ machine.spec.networkInterfaces, n.deletedAt = none ∧
      getNicName (getNicID id n.name) = some n.name ∧
      ∀ nic, w.nics.get (getNicID id n.name) = some nic → nic.metadata.deletedAt = none)
    (hall : ∀ m, w'.machines.get id = some m → m.status.volumeStatus.length = m.spec.volumes.length) :
    ∃ machine', machine'.metadata.id = id ∧ Settled r w' machine' := by
  obtain ⟨m, fs₀, hget, hlive, hfin, hpass⟩ := reconcileMachine_reconciled h
  cases hget.symm.trans hstored
  obtain rfl : machine.metadata.id = id := w.machines.keyed _ _ hstored
  obtain ⟨s₁, s₂, machine₃, s₃, s₄, nics, s₅, machine₆, s₆, vm, s₇, h₁, h₂, h₃, h₄, h₅, h₆, h₇, h⟩ :=
    reconcileLive_reconciled hpass
  obtain ⟨sock, rfl⟩ := assignApiSocket_ok h₃
  obtain ⟨⟨vols, K⟩, s₅', m₇, hloop, rfl, -⟩ := reconcileVolumes_ok h₆
  obtain ⟨rfl, hK, hplugins, -⟩ := reconcileVolumesLoop_ok hloop hvols
  obtain ⟨rfl, -, hback, hex⟩ := materializeNics_ok h₅ fun n hn => (hnics n hn).1
  have hs₇ : s₇.1 = s₆.1 := by simpa using call_world (fun _ => rfl) h₇
  have hn₄ : s₄.1.nics = w.nics :=
    ((keeps_check _ (untouched_nics.keeps_call (vmmPing_view (by intros; rfl) _))).of_ok h₄).trans
      (((assignApiSocket_keeps untouched_nics).of_ok h₃).trans (((reconcileImage_keeps untouched_nics).of_ok h₂).trans
        ((makeMachineDirs_keeps untouched_nics _ _).of_ok h₁)))
  have hn₇ : s₇.1.nics = s₅.1.nics := by rw [hs₇]; exact (reconcileVolumes_keeps untouched_nics).of_ok h₆
  have hi₇ : s₇.1.images = s₂.1.images := by
    rw [hs₇, (reconcileVolumes_keeps untouched_images).of_ok h₆,
      (materializeNics_keeps untouched_images (by intros; rfl) _ _).of_ok h₅,
      (keeps_check _ (untouched_images.keeps_call (vmmPing_view (by intros; rfl) _))).of_ok h₄,
      (assignApiSocket_keeps untouched_images).of_ok h₃]
  have hvm : s₇.1.vmAt sock = some vm := by
    rw [hs₇]; simpa using vmmGetVM_ok_some (call_eq_ok_ok h₇).1
  refine ⟨_, ?_, reconcileVm_settles h hvm (storedNics_of_nics hn₇).symm (fun n hn => ?_)
    (fun vol hv => ⟨hvols vol hv, hplugins vol hv⟩) hK (fun n hn => (hnics n hn).1)
    (hi₇ ▸ reconcileImage_false h₂) rfl hlive hfin hall⟩
  · rfl
  obtain ⟨nic, hnic⟩ := Option.isSome_iff_exists.mp (hex n hn)
  refine ⟨(hnics n hn).2.1, nic, hn₇ ▸ hnic, ?_⟩
  rcases hback _ _ hnic with hw | hd
  · exact (hnics n hn).2.2 nic (hn₄ ▸ hw)
  · exact hd

end CloudHypervisorProvider.Controllers
