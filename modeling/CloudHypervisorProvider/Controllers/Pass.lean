import CloudHypervisorProvider.Controllers.Effects

/-! # A pass that reconciles

A pass of `reconcileMachine` that returns at the final status write ran every
step of the convergence algorithm: the inversion lemmas below name the state
after each one. Up to `vm.info` no step changes the VM behind any socket, so
the VM that `reconcileVm` is handed is the one the pass started with.
-/

namespace CloudHypervisorProvider.Controllers
open Go Api Client

variable {r : MachineReconciler} {s s' : World × Faults}

theorem reconcileMachine_reconciled {id : String} (h : reconcileMachine r id s = .ok .reconciled s') :
    ∃ machine fs, s.1.machines.get id = some machine ∧ machine.metadata.deletedAt = none ∧
      MachineFinalizer ∈ machine.metadata.finalizers ∧ reconcileLive r machine (s.1, fs) = .ok .reconciled s' := by
  unfold reconcileMachine at h
  obtain ⟨res, s₁, hc, h⟩ := bind_eq_ok.mp h
  rcases res with err | machine
  · simp only at h
    split_ifs at h <;> cases h
  · obtain ⟨hget, hs₁⟩ := call_eq_ok_ok hc
    simp only at h
    split_ifs at h with hdel hfin
    · obtain ⟨_, _, _, h⟩ := bind_eq_ok.mp h; cases h
    · refine ⟨machine, s₁.2, ?_, by simpa using hdel, by simpa using hfin, ?_⟩
      · simp only [record_none, World.machinesGet] at hget
        split at hget <;> simp_all
      · rwa [show s₁ = (s.1, s₁.2) from Prod.ext (by simpa [World.machinesGet] using hs₁) rfl] at h
    · obtain ⟨_, _, _, h⟩ := bind_eq_ok.mp h; cases h

theorem reconcileLive_reconciled {machine : Machine} (h : reconcileLive r machine s = .ok .reconciled s') :
    ∃ s₁ s₂ machine₃ s₃ s₄ nics s₅ machine₆ s₆ vm s₇,
      makeMachineDirs r.paths machine.metadata.id s = .ok () s₁ ∧
      reconcileImage r machine s₁ = .ok false s₂ ∧
      assignApiSocket r machine s₂ = .ok machine₃ s₃ ∧
      check "failed to ping vmm"
        (call (fun _ => none) (World.vmmPing (machine₃.spec.apiSocketPath.getD ""))) s₃ = .ok () s₄ ∧
      materializeNics machine₃ machine₃.spec.networkInterfaces [] s₄ = .ok nics s₅ ∧
      reconcileVolumes r machine₃ s₅ = .ok machine₆ s₆ ∧
      call (fun _ => none) (World.vmmGetVM r (machine₃.spec.apiSocketPath.getD "")) s₆ =
        .ok (.ok (some vm)) s₇ ∧
      reconcileVm machine₆ nics vm s₇ = .ok .reconciled s' := by
  unfold reconcileLive at h
  obtain ⟨_, s₁, h₁, h⟩ := bind_eq_ok.mp h
  obtain ⟨pulling, s₂, h₂, h⟩ := bind_eq_ok.mp h
  cases pulling
  · simp only [Bool.false_eq_true, if_false] at h
    obtain ⟨machine₃, s₃, h₃, h⟩ := bind_eq_ok.mp h
    obtain ⟨_, s₄, h₄, h⟩ := bind_eq_ok.mp h
    obtain ⟨nics, s₅, h₅, h⟩ := bind_eq_ok.mp h
    obtain ⟨machine₆, s₆, h₆, h⟩ := bind_eq_ok.mp h
    obtain ⟨res, s₇, h₇, h⟩ := bind_eq_ok.mp h
    rcases res with err | _ | vm
    · simp only at h
      split_ifs at h
      · cases h
      · cases h
      · obtain ⟨_, _, _, h⟩ := bind_eq_ok.mp h
        obtain ⟨_, _, _, h⟩ := bind_eq_ok.mp h
        obtain ⟨_, _, _, h⟩ := bind_eq_ok.mp h
        cases h
    · cases h
    · exact ⟨s₁, s₂, machine₃, s₃, s₄, nics, s₅, machine₆, s₆, vm, s₇, (wrapErr_eq_ok _).mp h₁, h₂, h₃, h₄, h₅,
        (wrapErr_eq_ok _).mp h₆, h₇, h⟩
  · cases h

theorem reconcileVm_reconciled {machine : Machine} {nics : NicMap} {vm : VmInfo}
    (h : reconcileVm machine nics vm s = .ok .reconciled s') :
    (vm.config.platform.getD {}).uuid.getD "" = machine.metadata.id ∧
    ∃ s₁ s₂ machine₃ s₃ machine₄,
      reconcilePower (machine.spec.apiSocketPath.getD "") machine.spec.power vm s = .ok () s₁ ∧
      reconcileNics machine nics (vm.config.devices.getD []) s₁ = .ok () s₂ ∧
      attachDetachDisks machine vm.config s₂ = .ok machine₃ s₃ ∧
      check "failed to update machine status"
        (call (fun _ => some (.machineUpdate machine₃.metadata.id))
          (World.machinesUpdate (finalRecord nics machine₃))) s₃ = .ok machine₄ s' := by
  unfold reconcileVm at h
  split_ifs at h with hid
  · cases h
  · refine ⟨not_not.mp hid, ?_⟩
    obtain ⟨_, s₁, h₁, h⟩ := bind_eq_ok.mp h
    obtain ⟨_, s₂, h₂, h⟩ := bind_eq_ok.mp h
    obtain ⟨machine₃, s₃, h₃, h⟩ := bind_eq_ok.mp h
    obtain ⟨machine₄, s₄, h₄, h⟩ := bind_eq_ok.mp h
    cases h
    exact ⟨s₁, s₂, machine₃, s₃, machine₄, h₁, (wrapErr_eq_ok _).mp h₂, (wrapErr_eq_ok _).mp h₃, h₄⟩

end CloudHypervisorProvider.Controllers

namespace CloudHypervisorProvider.Controllers
open Go Api Client

section Prefix
variable {β : Type} {view : World → β} {r : MachineReconciler} {machine : Machine}

theorem makeMachineDirs_keeps (hv : Untouched view) (paths : Host.Paths) (uid : String) :
    Keeps view (makeMachineDirs paths uid) :=
  keeps_forM fun _ => keeps_bind (keeps_check _ (hv.keeps_call fun _ => hv.files _ _)) fun _ => keeps_pure _

theorem reconcileImage_keeps (hv : Untouched view) : Keeps view (reconcileImage r machine) := by
  unfold reconcileImage
  refine keeps_ite (keeps_pure _) (keeps_bind (keeps_pure _) fun _ =>
    keeps_bind (hv.keeps_call fun _ => rfl) fun res => ?_)
  rcases res with err | ⟨⟩
  · exact keeps_ite (keeps_pure _) (keeps_bind (keeps_pure _) fun _ => keeps_throw _)
  · refine keeps_bind (hv.keeps_call fun _ => rfl) fun res => ?_
    rcases res with err | _
    · exact keeps_throw _
    · exact keeps_ite (keeps_bind (keeps_check _ (hv.keeps_call fun _ => hv.files _ _)) fun _ =>
        keeps_bind (keeps_pure _) fun _ => keeps_pure _) (keeps_bind (keeps_pure _) fun _ => keeps_pure _)

theorem assignApiSocket_keeps (hv : Untouched view) : Keeps view (assignApiSocket r machine) :=
  keeps_ite (keeps_bind (keeps_check _ (hv.keeps_call fun _ => rfl)) fun _ =>
    keeps_check _ (hv.keeps_call (hv.machinesUpdate _))) (keeps_pure _)

theorem assignApiSocket_ok {machine' : Machine} {s s' : World × Faults}
    (h : assignApiSocket r machine s = .ok machine' s') :
    ∃ sock, machine' = { machine with spec.apiSocketPath := some sock } := by
  unfold assignApiSocket at h
  split_ifs at h with hnone
  · obtain ⟨sock, s₁, hs, h⟩ := bind_eq_ok.mp h
    obtain ⟨hsock, -⟩ := call_eq_ok_ok ((check_eq_ok _).mp hs)
    obtain ⟨hm, -⟩ := call_eq_ok_ok ((check_eq_ok _).mp h)
    simp only [World.getFreeApiSocket, Except.ok.injEq] at hsock
    simp only [World.machinesUpdate] at hm
    split at hm
    · exact ⟨_, by rw [← Except.ok.inj hm, ← hsock]⟩
    · cases hm
  · cases h
    obtain ⟨sock, hsock⟩ := Option.ne_none_iff_exists'.mp (by simpa using hnone)
    exact ⟨sock, by rw [← hsock]⟩

theorem materializeNics_keeps (hv : Untouched view) (hn : ∀ w nics, view { w with nics := nics } = view w) :
    ∀ (specs : List NetworkInterfaceSpec) (nics : NicMap), Keeps view (materializeNics machine specs nics)
  | [], _ => keeps_pure _
  | nic :: rest, nics => by
    have fetched : Keeps view (fetchNic machine nic) := by
      unfold fetchNic
      refine keeps_bind (hv.keeps_call fun _ => rfl) fun res => ?_
      rcases res with err | _
      · exact keeps_ite (keeps_throw _) (keeps_ite (keeps_pure _)
          (keeps_map _ (keeps_check _ (hv.keeps_call (nicsCreate_view hn _)))))
      · exact keeps_pure _
    unfold materializeNics
    refine keeps_bind fetched fun found => ?_
    rcases found with _ | found
    · exact materializeNics_keeps hv hn rest nics
    · exact keeps_ite (keeps_bind (keeps_check _ (hv.keeps_call (nicsDelete_view hn _))) fun _ =>
        keeps_bind (keeps_pure _) fun _ => materializeNics_keeps hv hn rest _)
        (keeps_bind (keeps_pure _) fun _ => materializeNics_keeps hv hn rest _)

theorem reconcileVolumesLoop_keeps (hv : Untouched view) :
    ∀ vols : List VolumeSpec, Keeps view (reconcileVolumesLoop r machine vols)
  | [] => keeps_pure _
  | vol :: vols => by
    have ih := reconcileVolumesLoop_keeps hv vols
    unfold reconcileVolumesLoop
    exact keeps_bind (keeps_check _ (hv.keeps_call fun _ => rfl)) fun _ =>
      keeps_ite (keeps_bind (keeps_check _ (hv.keeps_call fun _ => rfl)) fun _ => ih)
        (keeps_bind (keeps_check _ (hv.keeps_call fun _ => rfl)) fun _ => keeps_bind ih fun _ => keeps_pure _)

theorem reconcileVolumes_keeps (hv : Untouched view) : Keeps view (reconcileVolumes r machine) :=
  keeps_bind (reconcileVolumesLoop_keeps hv _) fun _ =>
    keeps_bind (keeps_check _ (hv.keeps_call (hv.machinesUpdate _))) fun _ => keeps_pure _

theorem reconcileVolumes_ok {machine' : Machine} {s s' : World × Faults}
    (h : reconcileVolumes r machine s = .ok machine' s') :
    ∃ kept s₁ m, reconcileVolumesLoop r machine machine.spec.volumes s = .ok kept s₁ ∧
      machine' = { machine with spec.volumes := kept.1, status.volumeStatus := kept.2 } ∧
      check "failed to update machine status"
        (call (fun _ => some (.machineUpdate machine.metadata.id)) (World.machinesUpdate machine')) s₁ =
        .ok m s' := by
  unfold reconcileVolumes at h
  obtain ⟨kept, s₁, hl, h⟩ := bind_eq_ok.mp h
  obtain ⟨m, s₂, hc, h⟩ := bind_eq_ok.mp h
  cases h
  exact ⟨kept, s₁, m, hl, rfl, hc⟩

theorem vmmPing_vmAt (key k : String) (w : World) : (World.vmmPing key w).2.vmAt k = w.vmAt k := by
  unfold World.vmmPing
  split_ifs with hp
  · rfl
  · by_cases hk : k = key
    · subst hk; simp_all [World.vmAt, World.setProcess]
    · exact World.vmAt_setProcess_of_ne _ _ hk

theorem vmmGetVM_ok_some {key : String} {w : World} {vm : VmInfo}
    (h : (World.vmmGetVM r key w).1 = .ok (some vm)) : w.vmAt key = some vm := by
  simp only [World.vmmGetVM, World.manager, Vmm.Manager.getVM, World.vmAt] at h ⊢
  rcases hp : w.processes key with _ | ⟨_ | info⟩ <;>
    simp_all [Process.client, Client.Response.bare, Client.Response.ok200]

end Prefix

section Suffix
variable {β : Type} {view : World → β} {machine : Machine} (hv : Untouched view)
  (hp : ∀ w processes, view { w with processes := processes } = view w)
include hv hp

theorem reconcilePower_keeps (key : String) (power : Power) (vm : VmInfo) :
    Keeps view (reconcilePower key power vm) := by
  cases power <;> exact keeps_ite (keeps_check _ (hv.keeps_call (changeVm_view hp _))) (keeps_pure _)

theorem attachDetachDisksLoop_keeps (key : String) (cur : List String) :
    ∀ vols : List VolumeSpec, Keeps view (attachDetachDisksLoop machine key cur vols)
  | [] => keeps_pure _
  | vol :: vols => by
    have ih := attachDetachDisksLoop_keeps key cur vols
    have kept : ∀ f : List VolumeStatus → List VolumeStatus,
        Keeps view (do let kept ← attachDetachDisksLoop machine key cur vols; pure (f kept)) :=
      fun _ => keeps_bind ih fun _ => keeps_pure _
    have added := fun f => keeps_bind (keeps_pure PUnit.unit) fun _ => kept f
    simp only [attachDetachDisksLoop]
    refine keeps_ite (keeps_ite ih (keeps_ite ?_ (added _))) (keeps_ite ?_ (kept _))
    · exact keeps_bind (keeps_check _ (hv.keeps_call (addToVm_view hp _))) fun _ => added _
    · exact keeps_bind (keeps_check _ (hv.keeps_call (changeVm_view hp _))) fun _ => kept _

theorem attachDetachDisks_keeps (config : VmConfig) : Keeps view (attachDetachDisks machine config) :=
  keeps_bind (attachDetachDisksLoop_keeps hv hp _ _ _) fun _ =>
    keeps_bind (keeps_check _ (hv.keeps_call (hv.machinesUpdate _))) fun _ => keeps_pure _

variable (hn : ∀ w nics, view { w with nics := nics } = view w)
include hn

theorem reconcileNicsAdd_keeps (key : String) (cur : List String) :
    ∀ nics : NicMap, Keeps view (reconcileNicsAdd key cur nics)
  | [] => keeps_pure _
  | (name, nic) :: rest => by
    simp only [reconcileNicsAdd]
    refine keeps_ite ?_ (reconcileNicsAdd_keeps key cur rest)
    exact keeps_bind (keeps_wrapErr _ (addFinalizerToNIC_keeps hv hn nic)) fun _ =>
      keeps_bind (keeps_check _ (hv.keeps_call (addToVm_view hp _))) fun _ => reconcileNicsAdd_keeps key cur rest

end Suffix

/-- A pass that reconciles hands `reconcileVm` the stored machine, with its socket
assigned and the volume entries and statuses the volume loop kept, and the VM behind
that socket as the pass found it. -/
theorem reconcileMachine_reconciled_vm {id : String} (h : reconcileMachine r id s = .ok .reconciled s') :
    ∃ stored machine nics vm s₁ s₅ s₆, s.1.machines.get id = some stored ∧
      machine.metadata.id = id ∧ machine.metadata.deletedAt = none ∧
      reconcileVolumesLoop r { stored with spec.apiSocketPath := machine.spec.apiSocketPath } stored.spec.volumes s₅ =
        .ok (machine.spec.volumes, machine.status.volumeStatus) s₆ ∧
      s.1.vmAt (machine.spec.apiSocketPath.getD "") = some vm ∧
      s₁.1.vmAt (machine.spec.apiSocketPath.getD "") = some vm ∧
      reconcileVm machine nics vm s₁ = .ok .reconciled s' := by
  obtain ⟨machine, fs, hget, hdel, -, h⟩ := reconcileMachine_reconciled h
  obtain ⟨s₁, s₂, machine₃, s₃, s₄, nics, s₅, machine₆, s₆, vm, s₇, h₁, h₂, h₃, h₄, h₅, h₆, h₇, h⟩ :=
    reconcileLive_reconciled h
  obtain ⟨sock, rfl⟩ := assignApiSocket_ok h₃
  obtain ⟨kept, s₆', -, hloop, hm₆, -⟩ := reconcileVolumes_ok h₆
  obtain ⟨hvm, hs₇⟩ := call_eq_ok_ok h₇
  have hproc : s₃.1.processes = (s.1, fs).1.processes :=
    ((assignApiSocket_keeps untouched_processes).of_ok h₃).trans
      (((reconcileImage_keeps untouched_processes).of_ok h₂).trans
        ((makeMachineDirs_keeps untouched_processes _ _).of_ok h₁))
  have hping : s₄.1.vmAt sock = s₃.1.vmAt sock := by
    obtain ⟨-, hs₄⟩ := call_eq_ok_ok ((check_eq_ok _).mp h₄)
    rw [hs₄, vmmPing_vmAt]; rfl
  have h₆₄ : s₆.1.processes = s₄.1.processes :=
    ((reconcileVolumes_keeps untouched_processes).of_ok h₆).trans
      ((materializeNics_keeps untouched_processes (fun _ _ => rfl) _ _).of_ok h₅)
  have hvm' : s₆.1.vmAt sock = some vm := by simpa using vmmGetVM_ok_some hvm
  refine ⟨machine, machine₆, nics, vm, s₇, s₅, s₆', hget, ?_, ?_, ?_, ?_, ?_, h⟩ <;> subst hm₆
  · exact s.1.machines.keyed id machine hget
  · exact hdel
  · exact hloop
  · show s.1.vmAt sock = some vm
    exact ((World.vmAt_of_processes (congrFun hproc sock)).symm.trans hping.symm).trans
      ((World.vmAt_of_processes (congrFun h₆₄ sock)).symm.trans hvm')
  · simpa [hs₇, World.vmmGetVM] using hvm'

theorem check_machinesUpdate_ok {m m' : Machine} {msg : String} {request : World → Option Call}
    (h : check msg (call request (World.machinesUpdate m)) s = .ok m' s') :
    s'.1 = { s.1.record request with machines := s.1.machines.write m } := by
  obtain ⟨hm, hs⟩ := call_eq_ok_ok ((check_eq_ok _).mp h)
  unfold World.machinesUpdate at hm hs
  split_ifs at hm hs
  exact hs

/-- The entries `filterMap` keeps pair in order with the inputs it keeps. -/
theorem forall₂_filter_filterMap {α β : Type} (f : α → Option β) :
    ∀ l : List α, List.Forall₂ (fun a b => a ∈ l ∧ f a = some b) (l.filter fun a => (f a).isSome) (l.filterMap f)
  | [] => .nil
  | a :: l => by
    have ih : List.Forall₂ (fun x y => x ∈ a :: l ∧ f x = some y) (l.filter fun a => (f a).isSome) (l.filterMap f) :=
      (forall₂_filter_filterMap f l).imp fun _ _ h => ⟨List.mem_cons_of_mem a h.1, h.2⟩
    cases ha : f a with
    | none => simpa [ha] using ih
    | some b => simpa [ha] using List.Forall₂.cons ⟨List.mem_cons_self a l, ha⟩ ih

/-- A reconciling `reconcileVm` writes the statuses `attachDetachDisks` keeps for the
machine's volumes against the disks `vm.info` reported, and leaves the VM with the
loop's changes made to a VM with those same disks. -/
theorem reconcileVm_disks {machine : Machine} {nics : NicMap} {vm : VmInfo}
    (hrec : reconcileVm machine nics vm s = .ok .reconciled s')
    (hvm : s.1.vmAt (machine.spec.apiSocketPath.getD "") = some vm) (hunique : (deviceIds vm).Nodup)
    (hdel : machine.metadata.deletedAt = none) :
    ∃ info, diskIds info = diskIds vm ∧
      s'.1.machines.get machine.metadata.id = some (finalRecord nics { machine with
        status.volumeStatus := machine.spec.volumes.filterMap (diskStatus machine (diskIds vm)) }) ∧
      s'.1.vmAt (machine.spec.apiSocketPath.getD "") =
        some (machine.spec.volumes.foldl (diskChange machine (diskIds vm)) info) := by
  obtain ⟨-, s₁, s₂, machine₃, s₃, machine₄, hp, hn, ha, hc⟩ := reconcileVm_reconciled hrec
  unfold reconcileNics at hn
  obtain ⟨⟨cur, nics'⟩, s₁', hd, hadd⟩ := bind_eq_ok.mp hn
  obtain ⟨info, hi, hdisk⟩ := reconcileNicsDevices_diskIds hd (reconcilePower_ok hp hvm)
    fun d hd i hi hmem => (List.nodup_append.mp hunique).2.2 (by simpa using hmem)
      (List.mem_filterMap.mpr ⟨d, hd, hi⟩)
  obtain ⟨rfl, hv⟩ := attachDetachDisks_ok ha
  have hs' := check_machinesUpdate_ok hc
  refine ⟨nics'.foldl (nicChange cur) info, by simpa using hdisk, ?_, ?_⟩
  · rw [hs']
    exact (Store.get_write_of_live _ (finalRecord nics _) hdel _).trans (if_pos rfl)
  · rw [hs']
    exact hv _ (reconcileNicsAdd_ok hadd hi)

end CloudHypervisorProvider.Controllers
