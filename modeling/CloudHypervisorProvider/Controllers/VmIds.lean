import CloudHypervisorProvider.Controllers.Pass

/-! # Device ids stay unique

cloud-hypervisor refuses to hot-plug a disk or a device under an id the VM
already uses, and `RemoveDevice` only drops ids. Every pass of the controller,
whether it returns or fails, therefore keeps the ids of every VM of the host
unique.
-/

namespace CloudHypervisorProvider.Controllers
open Go Api Client

namespace World

/-- Every VM of the host has unique disk and device ids. -/
def VmIdsUnique (w : World) : Prop := ∀ key info, w.vmAt key = some info → (deviceIds info).Nodup

variable {w w' : World}

theorem VmIdsUnique.of_vmAt (hw : w.VmIdsUnique) (h : ∀ k, w'.vmAt k = w.vmAt k) : w'.VmIdsUnique :=
  fun key info hi => hw key info ((h key).symm.trans hi)

theorem VmIdsUnique.of_processes (hw : w.VmIdsUnique) (h : w'.processes = w.processes) : w'.VmIdsUnique :=
  hw.of_vmAt fun _ => vmAt_of_processes (congrFun h _)

theorem VmIdsUnique.setVm (hw : w.VmIdsUnique) (key : String) {info : VmInfo} (hi : (deviceIds info).Nodup) :
    (w.setProcess key (some ⟨some info⟩)).VmIdsUnique := by
  intro k i h
  by_cases hk : k = key
  · subst hk
    simp only [vmAt_setProcess_self, Option.some.injEq] at h
    exact h ▸ hi
  · exact hw k i (by rwa [vmAt_setProcess_of_ne _ _ hk] at h)

theorem VmIdsUnique.setNoVm (hw : w.VmIdsUnique) (key : String) {p : Option Process}
    (hp : ∀ q, p = some q → q.vm = none) : (w.setProcess key p).VmIdsUnique := by
  intro k i h
  by_cases hk : k = key
  · subst hk
    rcases p with _ | q
    · simp [vmAt, setProcess] at h
    · simp [hp q rfl] at h
  · exact hw k i (by rwa [vmAt_setProcess_of_ne _ _ hk] at h)

end World

section Transforms
variable {id : String} {info : VmInfo}

theorem nodup_withoutDevice (h : (deviceIds info).Nodup) : (deviceIds (withoutDevice id info)).Nodup := by
  simpa [deviceIds, List.filter_append] using h.filter (· ≠ id)

theorem nodup_withDisk (hid : id ∉ deviceIds info) (h : (deviceIds info).Nodup) :
    (deviceIds (withDisk id info)).Nodup := by
  simp only [deviceIds, diskIds_withDisk, netIds_withDisk, List.append_assoc, List.singleton_append] at *
  exact List.nodup_middle.mpr (List.nodup_cons.mpr ⟨hid, h⟩)

theorem nodup_withNet (hid : id ∉ deviceIds info) (h : (deviceIds info).Nodup) :
    (deviceIds (withNet id info)).Nodup := by
  simp only [deviceIds, diskIds_withNet, netIds_withNet, ← List.append_assoc] at *
  exact List.nodup_append.mpr ⟨h, List.nodup_singleton id, List.disjoint_singleton.mpr hid⟩

end Transforms

namespace World
variable {w : World} {key : String}

theorem VmIdsUnique.changeVm {f : VmInfo → VmInfo} (hw : w.VmIdsUnique)
    (hf : ∀ info, (deviceIds info).Nodup → (deviceIds (f info)).Nodup) : (changeVm key f w).2.VmIdsUnique := by
  unfold World.changeVm
  split
  · exact hw
  · exact hw
  · next info hp => exact hw.setVm key (hf info (hw key info (by simp [vmAt, hp])))

theorem VmIdsUnique.addToVm {id : String} {f : VmInfo → VmInfo} (hw : w.VmIdsUnique)
    (hf : ∀ info, id ∉ deviceIds info → (deviceIds info).Nodup → (deviceIds (f info)).Nodup) :
    (addToVm key id f w).2.VmIdsUnique := by
  unfold World.addToVm
  split
  · next info hp =>
    split_ifs with hid
    · exact hw
    · unfold World.changeVm
      rw [hp]
      exact hw.setVm key (hf info hid (hw key info (by simp [vmAt, hp])))
  · next hp =>
    unfold World.changeVm
    split
    · exact hw
    · exact hw
    · next info hp' => exact absurd hp' (hp info)

theorem VmIdsUnique.vmmCreateVM {r : MachineReconciler} {machine : Machine} (hw : w.VmIdsUnique) :
    (vmmCreateVM r machine w).2.VmIdsUnique := by
  unfold World.vmmCreateVM
  dsimp only
  split
  · exact hw
  · exact hw
  · refine hw.setVm _ ?_
    simp only [deviceIds, diskIds, netIds, Vmm.Manager.createVMPayload]
    split <;> simp

theorem VmIdsUnique.vmmDelete (hw : w.VmIdsUnique) : (vmmDelete key w).2.VmIdsUnique := by
  unfold World.vmmDelete
  split
  · exact hw
  · exact hw.setNoVm key fun _ h => nomatch h

end World

section Passes
variable {r : MachineReconciler} {machine : Machine}

theorem Keeps.vmIdsUnique {α : Type} {x : Pass α} (hx : Keeps (·.processes) x) : Preserves World.VmIdsUnique x :=
  hx.preserves fun _ _ h hw => hw.of_processes h

theorem keeps_processes {α : Type} {x : Pass α} (hx : ∀ k, Keeps (·.processes k) x) : Keeps (·.processes) x :=
  fun s => funext fun k => hx k s

theorem preserves_call_vmIds {α : Type} {request : World → Option Call} {act : World → Except Err α × World}
    (hact : ∀ w, w.VmIdsUnique → (act w).2.VmIdsUnique) : Preserves World.VmIdsUnique (call request act) :=
  preserves_call (fun _ hw => hw.of_vmAt fun _ => rfl) hact

theorem machinesUpdate_vmIds (m : Machine) : Preserves World.VmIdsUnique
    (call (fun _ => some (.machineUpdate m.metadata.id)) (World.machinesUpdate m)) :=
  preserves_call_vmIds fun _ hw => hw.of_processes (machinesUpdate_processes _ _)

theorem reconcilePower_vmIds (key : String) (power : Power) (vm : VmInfo) :
    Preserves World.VmIdsUnique (reconcilePower key power vm) := by
  cases power <;> simp only [reconcilePower] <;>
    exact preserves_ite (preserves_check _ (preserves_call_vmIds fun _ hw => hw.changeVm fun _ h => h))
      (preserves_pure _)

theorem reconcileNicsDevices_vmIds (key : String) :
    ∀ (devices : List DeviceConfig) (nics : NicMap) (cur : List String),
      Preserves World.VmIdsUnique (reconcileNicsDevices key devices nics cur)
  | [], _, _ => preserves_pure _
  | d :: ds, nics, cur => by
    simp only [reconcileNicsDevices]
    rcases getNicName (d.id.getD "") with _ | name
    · exact reconcileNicsDevices_vmIds key ds nics cur
    dsimp only
    rcases nics.lookup name with _ | nic
    · exact reconcileNicsDevices_vmIds key ds nics cur
    dsimp only
    refine preserves_ite (reconcileNicsDevices_vmIds key ds nics _) ?_
    refine preserves_bind (preserves_check _ (preserves_call_vmIds fun _ hw => hw.changeVm fun _ => nodup_withoutDevice))
      fun _ => preserves_bind ?_ fun _ => reconcileNicsDevices_vmIds key ds _ cur
    exact preserves_wrapErr _ (removeFinalizerFromNIC_keeps untouched_processes (fun _ _ => rfl) nic).vmIdsUnique

theorem reconcileNicsAdd_vmIds (key : String) (cur : List String) :
    ∀ nics : NicMap, Preserves World.VmIdsUnique (reconcileNicsAdd key cur nics)
  | [] => preserves_pure _
  | (name, nic) :: rest => by
    simp only [reconcileNicsAdd]
    refine preserves_ite ?_ (reconcileNicsAdd_vmIds key cur rest)
    refine preserves_bind (preserves_wrapErr _ (addFinalizerToNIC_keeps untouched_processes (fun _ _ => rfl) nic).vmIdsUnique)
      fun _ => preserves_bind ?_ fun _ => reconcileNicsAdd_vmIds key cur rest
    exact preserves_check _ (preserves_call_vmIds fun _ hw => hw.addToVm fun _ => nodup_withNet)

theorem reconcileNics_vmIds (nics : NicMap) (devices : List DeviceConfig) :
    Preserves World.VmIdsUnique (reconcileNics machine nics devices) :=
  preserves_bind (reconcileNicsDevices_vmIds _ _ _ _) fun p => reconcileNicsAdd_vmIds _ p.1 p.2

theorem attachDetachDisksLoop_vmIds (key : String) (cur : List String) :
    ∀ vols : List VolumeSpec, Preserves World.VmIdsUnique (attachDetachDisksLoop machine key cur vols)
  | [] => preserves_pure _
  | vol :: vols => by
    have ih := attachDetachDisksLoop_vmIds key cur vols
    have kept : ∀ f : List VolumeStatus → List VolumeStatus, Preserves World.VmIdsUnique
        (do let kept ← attachDetachDisksLoop machine key cur vols; pure (f kept)) :=
      fun _ => preserves_bind ih fun _ => preserves_pure _
    have added := fun f => preserves_bind (preserves_pure PUnit.unit) fun _ => kept f
    simp only [attachDetachDisksLoop]
    refine preserves_ite (preserves_ite ih (preserves_ite ?_ (added _))) (preserves_ite ?_ (kept _))
    · exact preserves_bind (preserves_check _ (preserves_call_vmIds fun _ hw => hw.addToVm fun _ => nodup_withDisk))
        fun _ => added _
    · exact preserves_bind (preserves_check _ (preserves_call_vmIds fun _ hw => hw.changeVm fun _ => nodup_withoutDevice))
        fun _ => kept _

theorem attachDetachDisks_vmIds (config : VmConfig) :
    Preserves World.VmIdsUnique (attachDetachDisks machine config) :=
  preserves_bind (attachDetachDisksLoop_vmIds _ _ _) fun _ =>
    preserves_bind (preserves_check _ (machinesUpdate_vmIds _)) fun _ => preserves_pure _

theorem reconcileVm_vmIds (nics : NicMap) (vm : VmInfo) : Preserves World.VmIdsUnique (reconcileVm machine nics vm) := by
  unfold reconcileVm
  refine preserves_ite (preserves_throw _) ?_
  exact preserves_bind (reconcilePower_vmIds _ _ _) fun _ =>
    preserves_bind (preserves_wrapErr _ (reconcileNics_vmIds _ _)) fun _ =>
    preserves_bind (preserves_wrapErr _ (attachDetachDisks_vmIds _)) fun _ =>
    preserves_bind (preserves_check _ (machinesUpdate_vmIds _)) fun _ => preserves_pure _

theorem reconcileLive_vmIds : Preserves World.VmIdsUnique (reconcileLive r machine) := by
  unfold reconcileLive
  dsimp only
  refine preserves_bind (preserves_wrapErr _ (makeMachineDirs_keeps untouched_processes _ _).vmIdsUnique) fun _ =>
    preserves_bind (reconcileImage_keeps untouched_processes).vmIdsUnique fun _ => preserves_ite (preserves_pure _) ?_
  refine preserves_bind (assignApiSocket_keeps untouched_processes).vmIdsUnique fun _ => ?_
  refine preserves_bind (preserves_check _ (preserves_call_vmIds fun w hw => hw.of_vmAt (vmmPing_vmAt _ · w)))
    fun _ => preserves_bind (materializeNics_keeps untouched_processes (fun _ _ => rfl) _ _).vmIdsUnique fun _ => ?_
  refine preserves_bind (preserves_wrapErr _ (reconcileVolumes_keeps untouched_processes).vmIdsUnique) fun _ =>
    preserves_bind (preserves_call_vmIds fun _ hw => hw) fun res => ?_
  rcases res with err | _ | vm
  · refine preserves_ite (preserves_throw _) (preserves_ite (preserves_pure _) ?_)
    refine preserves_bind (preserves_check _ (preserves_call_vmIds fun _ hw => hw.vmmCreateVM)) fun _ =>
      preserves_bind (preserves_forM fun p => preserves_wrapErr _
        (addFinalizerToNIC_keeps untouched_processes (fun _ _ => rfl) p.2).vmIdsUnique) fun _ =>
      preserves_bind (fun _ hs => hs.of_processes rfl) fun _ => preserves_pure _
  · exact preserves_throw _
  · exact reconcileVm_vmIds _ _

theorem deleteMachine_vmIds : Preserves World.VmIdsUnique (deleteMachine r machine) := by
  unfold deleteMachine
  lift_lets
  intro _ _ _ updated nicsDeleted vmmDeleted
  have h₃ (u : PUnit) : Preserves World.VmIdsUnique (updated u) :=
    preserves_bind (preserves_check _ (preserves_call_vmIds fun _ hw => hw.of_processes rfl)) fun _ =>
      preserves_bind (machinesUpdate_vmIds _) fun _ => by
        split
        · exact preserves_throw _
        · exact preserves_pure _
  have h₂ (u : PUnit) : Preserves World.VmIdsUnique (nicsDeleted u) :=
    preserves_bind (keeps_processes fun _ => deleteMachineNics_keeps machine _ _).vmIdsUnique fun _ =>
      preserves_ite (preserves_pure _) (preserves_bind (preserves_pure _) h₃)
  have h₁ (u : PUnit) : Preserves World.VmIdsUnique (vmmDeleted u) :=
    preserves_bind (preserves_call_vmIds fun _ hw => hw.vmmDelete) fun _ =>
      preserves_ite (preserves_bind (preserves_throw _) h₂) (preserves_bind (preserves_pure _) h₂)
  exact preserves_bind (keeps_processes fun _ => getMachineState_keeps r machine).vmIdsUnique fun _ =>
    preserves_ite (preserves_bind (preserves_call_vmIds fun _ hw => hw.changeVm fun _ h => h) fun _ =>
      preserves_ite (preserves_bind (preserves_throw _) h₁) (preserves_bind (preserves_pure _) h₁))
      (preserves_bind (preserves_pure _) h₁)

theorem reconcileMachine_vmIds (r : MachineReconciler) (id : String) :
    Preserves World.VmIdsUnique (reconcileMachine r id) := by
  unfold reconcileMachine
  refine preserves_bind (preserves_call_vmIds fun _ hw => hw) fun res => ?_
  rcases res with err | machine
  · exact preserves_ite (preserves_throw _) (preserves_pure _)
  · refine preserves_ite (preserves_bind (preserves_wrapErr _ deleteMachine_vmIds) fun _ => preserves_pure _)
      (preserves_ite ?_ reconcileLive_vmIds)
    exact preserves_bind (preserves_check _ (machinesUpdate_vmIds _)) fun _ => preserves_pure _

/-- Whatever its collaborators answer, a worker's pass keeps every VM's ids unique. -/
theorem processNextWorkItem_vmIds (r : MachineReconciler) (id : String) :
    Preserves World.VmIdsUnique (processNextWorkItem r id) := by
  intro s hs
  have := reconcileMachine_vmIds r id s hs
  rw [processNextWorkItem_eq]
  rcases h : reconcileMachine r id s with ⟨_, s'⟩ | ⟨_ | _, s'⟩ <;> rw [h] at this
  · exact this
  · exact this.of_processes rfl
  · exact this

end Passes

end CloudHypervisorProvider.Controllers
