import Mathlib.Tactic.LiftLets
import CloudHypervisorProvider.Controllers.Machine
import CloudHypervisorProvider.Controllers.Calls

/-! # Teardown

`deleteMachine` powers off and deletes the VMM under the machine id, while
`reconcileMachine` creates and drives the VM behind the machine's API socket.
The teardown therefore never reaches a VM behind a socket other than the id:
it strips the finalizer with that VM still running. A NIC lookup of the
teardown that fails with anything but not-found dereferences a nil NIC.
-/

namespace CloudHypervisorProvider.Controllers
open Go Api Client

@[simp] theorem record_none (w : World) : w.record (fun _ => none) = w := by
  simp [World.record]

section ProcessFrame
variable {k : String}

theorem changeVm_processes_of_ne {key : String} (f : VmInfo → VmInfo) (w : World) (h : k ≠ key) :
    (World.changeVm key f w).2.processes k = w.processes k := by
  unfold World.changeVm
  split <;> simp [World.setProcess, h]

theorem vmmDelete_processes_of_ne {key : String} (w : World) (h : k ≠ key) :
    (World.vmmDelete key w).2.processes k = w.processes k := by
  unfold World.vmmDelete
  split <;> simp [World.setProcess, h]

theorem nicsDelete_processes (id : String) (w : World) :
    (World.nicsDelete id w).2.processes = w.processes := by
  unfold World.nicsDelete; split <;> rfl

theorem machinesUpdate_processes (m : Machine) (w : World) :
    (World.machinesUpdate m w).2.processes = w.processes := by
  unfold World.machinesUpdate; split <;> rfl

theorem getMachineState_keeps (r : MachineReconciler) (machine : Machine) :
    Keeps (·.processes k) (getMachineState r machine) := by
  refine keeps_bind (keeps_call (fun _ => rfl) fun _ => rfl) fun res => ?_
  rcases res with err | _ | vm
  · exact keeps_ite (keeps_pure _) (keeps_throw _)
  · exact keeps_throw _
  · exact keeps_pure _

theorem removeFinalizerFromNIC_keeps {β : Type} {view : World → β} (hv : Untouched view)
    (hn : ∀ w nics, view { w with nics := nics } = view w) (nic : NetworkInterface) :
    Keeps view (removeFinalizerFromNIC nic) :=
  keeps_ite (keeps_pure _) (keeps_bind (keeps_check _ (hv.keeps_call (nicsUpdate_view hn _))) fun _ => keeps_pure _)

theorem deleteMachineNics_keeps (machine : Machine) (nics : List NetworkInterfaceSpec) (b : Bool) :
    Keeps (·.processes k) (deleteMachineNics machine nics b) := by
  induction nics generalizing b with
  | nil => exact keeps_pure _
  | cons nic rest ih =>
    refine keeps_bind (keeps_call (fun _ => rfl) fun _ => rfl) fun res => keeps_ite (ih b) ?_
    rcases res with e | found
    · exact keeps_throw _
    · refine keeps_bind (keeps_wrapErr _ (removeFinalizerFromNIC_keeps (untouched_process k) (fun _ _ => rfl) _))
        fun _ => ?_
      refine keeps_bind (keeps_call (fun _ => rfl) fun w => congrFun (nicsDelete_processes _ w) k) fun err => ?_
      rcases ignoreErrNotFound err with _ | e
      · exact ih false
      · exact keeps_throw _

/-- Teardown leaves the process behind every key but the machine id as it found
it, under any answers of its collaborators. -/
theorem deleteMachine_keeps_process (r : MachineReconciler) (machine : Machine)
    (hk : k ≠ machine.metadata.id) : Keeps (·.processes k) (deleteMachine r machine) := by
  unfold deleteMachine
  lift_lets
  intro _ _ _ updated nicsDeleted vmmDeleted
  have h₃ (u : PUnit) : Keeps (·.processes k) (updated u) :=
    keeps_bind (keeps_check _ (keeps_call (fun _ => rfl) fun _ => rfl)) fun _ =>
      keeps_bind (keeps_call (fun _ => rfl) fun w => congrFun (machinesUpdate_processes _ w) k) fun _ => by
        split
        · exact keeps_throw _
        · exact keeps_pure _
  have h₂ (u : PUnit) : Keeps (·.processes k) (nicsDeleted u) :=
    keeps_bind (deleteMachineNics_keeps machine _ _) fun _ => keeps_ite (keeps_pure _) (keeps_bind (keeps_pure _) h₃)
  have h₁ (u : PUnit) : Keeps (·.processes k) (vmmDeleted u) :=
    keeps_bind (keeps_call (fun _ => rfl) fun w => vmmDelete_processes_of_ne w hk) fun _ =>
      keeps_ite (keeps_bind (keeps_throw _) h₂) (keeps_bind (keeps_pure _) h₂)
  exact keeps_bind (getMachineState_keeps r machine) fun _ =>
    keeps_ite (keeps_bind (keeps_call (fun _ => rfl) fun w => changeVm_processes_of_ne _ w hk) fun _ =>
      keeps_ite (keeps_bind (keeps_throw _) h₁) (keeps_bind (keeps_pure _) h₁)) (keeps_bind (keeps_pure _) h₁)

end ProcessFrame

theorem getMachineState_nil (r : MachineReconciler) (machine : Machine) (w : World) :
    ∃ st, getMachineState r machine (w, []) = .ok st (w, []) := by
  unfold getMachineState
  simp only [bind, EStateM.bind, call_nil, record_none, World.vmmGetVM, World.manager, Vmm.Manager.getVM]
  rcases w.processes (machine.spec.apiSocketPath.getD "") with _ | ⟨_ | info⟩
  all_goals simp [Process.client, Response.bare, Response.ok200]

/-- The power state the teardown reads: running exactly when the VM behind the
machine's API socket runs. -/
theorem getMachineState_eq (r : MachineReconciler) (machine : Machine) (w : World) :
    getMachineState r machine (w, []) = .ok (if (w.vmAt (machine.spec.apiSocketPath.getD "")).map (·.state) =
      some .running then .running else .shutdown) (w, []) := by
  rcases hp : w.processes (machine.spec.apiSocketPath.getD "") with _ | ⟨_ | info⟩ <;>
    simp [getMachineState, bind, EStateM.bind, World.vmmGetVM, World.manager, Vmm.Manager.getVM, World.vmAt, hp,
      Process.client, Response.bare, Response.ok200]

theorem deleteMachineNics_absent {machine : Machine} {store : Store NetworkInterface NetworkInterface.metadata}
    {nics : List NetworkInterfaceSpec} (h : ∀ n ∈ nics, store.get (getNicID machine.metadata.id n.name) = none)
    {w : World} (hw : w.nics = store) (b : Bool) :
    deleteMachineNics machine nics b (w, []) = .ok b (w, []) := by
  induction nics generalizing b with
  | nil => rfl
  | cons n rest ih =>
    simp only [List.mem_cons, forall_eq_or_imp] at h
    simp [deleteMachineNics, bind, EStateM.bind, World.nicsGet, hw, h.1, isErr, ih h.2]

/-- The last teardown pass of a machine whose API socket is not its id, once its NIC
objects are gone: the pass writes the machine back without the finalizer, the store
drops it, and the process behind the socket, with the VM `reconcileMachine` created
and drove there, is as the pass found it. -/
theorem deleteMachine_completes_leaving_vm (r : MachineReconciler) (machine : Machine) (w : World)
    (hne : machine.spec.apiSocketPath.getD "" ≠ machine.metadata.id) (hdel : machine.metadata.deletedAt.isSome) (hfin : machine.metadata.finalizers = [MachineFinalizer])
    (hstored : (w.machines.get machine.metadata.id).isSome)
    (hnics : ∀ n ∈ machine.spec.networkInterfaces, w.nics.get (getNicID machine.metadata.id n.name) = none)
    (hid : w.processes machine.metadata.id = none) :
    ∃ w', deleteMachine r machine (w, []) = .ok () (w', []) ∧
      .machineUpdate machine.metadata.id ∈ w'.calls ∧
      w'.machines.get machine.metadata.id = none ∧
      w'.processes (machine.spec.apiSocketPath.getD "") = w.processes (machine.spec.apiSocketPath.getD "") := by
  obtain ⟨w', hrun, hupd, hgone⟩ : ∃ w', deleteMachine r machine (w, []) = .ok () (w', []) ∧
      .machineUpdate machine.metadata.id ∈ w'.calls ∧ w'.machines.get machine.metadata.id = none := by
    obtain ⟨st, hst⟩ := getMachineState_nil r machine w
    unfold deleteMachine
    cases st <;>
    simp [bind, EStateM.bind, hst, World.vmmPowerOff, World.changeVm, hid, World.vmmDelete, isErr,
      deleteMachineNics_absent hnics, check, World.removeAll, World.machinesUpdate, hstored,
      Store.write, hdel, hfin, MachineFinalizer, ignoreErrNotFound]
  refine ⟨w', hrun, hupd, hgone, ?_⟩
  simpa [hrun, resultWorld] using deleteMachine_keeps_process r machine hne (w, [])

def deletedMachine : Machine where
  metadata := { id := "m1", deletedAt := some 1, finalizers := [MachineFinalizer] }
  spec := { power := .powerOn, apiSocketPath := some "/run/chp/0" }

def runningVm : Process := { vm := some { config := { platform := some { uuid := some "m1" } }, state := .running } }

def deletingWorld : World where
  machines := Store.empty.put deletedMachine
  nics := .empty
  processes k := if k = "/run/chp/0" then some runningVm else none
  files := []
  images := []
  queue := []
  calls := []

theorem deleteMachine_completes_leaving_vm_example :
    deletingWorld.processes "/run/chp/0" = some runningVm ∧
    ∃ w', deleteMachine exampleReconciler deletedMachine (deletingWorld, []) = .ok () (w', []) ∧
      .machineUpdate "m1" ∈ w'.calls ∧ w'.machines.get "m1" = none ∧
      w'.processes "/run/chp/0" = deletingWorld.processes "/run/chp/0" :=
  ⟨rfl, deleteMachine_completes_leaving_vm exampleReconciler deletedMachine deletingWorld (by decide) rfl rfl
    (by simp [deletingWorld, deletedMachine]) (by simp [deletedMachine]) (by decide)⟩

/-- A `PowerOff` or VMM `Delete` that succeeds is reported as a failure:
`errors.Is(nil, vmm.ErrNotFound)` is false, so with a VMM under the machine id that
hosts a VM, and every collaborator answering, the teardown stops with the message of
the step it reached wrapping a nil error. -/
theorem deleteMachine_fails_on_success (r : MachineReconciler) (machine : Machine) (w : World) {info : VmInfo}
    (hvm : w.vmAt machine.metadata.id = some info) :
    ∃ w', deleteMachine r machine (w, []) = .error (.error (.other
      ((if (w.vmAt (machine.spec.apiSocketPath.getD "")).map (·.state) = some .running then
        "failed to power off machine" else "failed to kill VMM") ++ ": %!w(<nil>)"))) (w', []) := by
  have hp : w.processes machine.metadata.id = some ⟨some info⟩ := by
    unfold World.vmAt at hvm
    split at hvm
    · next p hp => cases p; simp_all
    · cases hvm
  unfold deleteMachine
  by_cases hrun : (w.vmAt (machine.spec.apiSocketPath.getD "")).map (·.state) = some .running <;>
    simp [bind, EStateM.bind, getMachineState_eq, hrun, World.vmmPowerOff, World.changeVm, World.vmmDelete, hp,
      isErr, errorf]

theorem deleteMachine_fails_on_success_m1 :
    ∃ w', deleteMachine exampleReconciler deletedMachine
      ({ deletingWorld with processes := fun k => if k = "m1" then some runningVm else none }, []) =
      .error (.error (.other "failed to kill VMM: %!w(<nil>)")) (w', []) := by
  simpa [deletedMachine, World.vmAt] using
    @deleteMachine_fails_on_success exampleReconciler deletedMachine
      { deletingWorld with processes := fun k => if k = "m1" then some runningVm else none } _
      (by simp [World.vmAt, deletedMachine, runningVm]; rfl)

/-- A lookup of the teardown's NIC loop that fails with anything but not-found
leaves `nic` nil, and `removeFinalizerFromNIC` dereferences it. -/
theorem deleteMachineNics_nilDereference (machine : Machine) (nic : NetworkInterfaceSpec)
    (rest : List NetworkInterfaceSpec) (b : Bool) (w : World) {e : Err} (fs : Faults)
    (he : e.is .notFound = false) :
    deleteMachineNics machine (nic :: rest) b (w, some e :: fs) = .error .nilDereference (w, fs) := by
  simp [deleteMachineNics, bind, EStateM.bind, isErr, he]

/-- `processNextWorkItem` re-queues the id of a pass that failed and passes a panic on. -/
theorem processNextWorkItem_eq (r : MachineReconciler) (id : String) (s : World × Faults) :
    processNextWorkItem r id s = match reconcileMachine r id s with
      | .ok _ s' => .ok () s'
      | .error (.error _) s' => enqueue id s'
      | .error .nilDereference s' => .error .nilDereference s' := by
  unfold processNextWorkItem
  rcases h : reconcileMachine r id s with ⟨_, s'⟩ | ⟨_ | _, s'⟩ <;>
    simp [tryCatch, tryCatchThe, MonadExceptOf.tryCatch, EStateM.tryCatch, bind, EStateM.bind, h] <;> rfl

/-- A worker that pops a deleted machine with a NIC, whose VMM is gone, panics when
the NIC store answers the lookup with an error other than not-found. -/
theorem processNextWorkItem_panics_on_nic_lookup_error (r : MachineReconciler) (machine : Machine)
    (w : World) {e : Err} (hstored : w.machines.get machine.metadata.id = some machine)
    (hdel : machine.metadata.deletedAt.isSome) (hnics : machine.spec.networkInterfaces ≠ [])
    (hsock : w.processes (machine.spec.apiSocketPath.getD "") = none)
    (hid : w.processes machine.metadata.id = none) (he : e.is .notFound = false) :
    ∃ s, processNextWorkItem r machine.metadata.id (w, [none, none, none, some e]) =
      .error .nilDereference s := by
  obtain ⟨nic, rest, hnr⟩ := List.exists_cons_of_ne_nil hnics
  simp [processNextWorkItem_eq, reconcileMachine, bind, EStateM.bind,
    World.machinesGet, hstored, hdel, wrapErr, EStateM.adaptExcept, deleteMachine, getMachineState,
    World.vmmGetVM, World.manager, Vmm.Manager.getVM, hsock, World.vmmDelete, hid, isErr, hnr,
    deleteMachineNics_nilDereference _ _ _ _ _ _ he]


def deletedMachineWithNic : Machine where
  metadata := { id := "m1", deletedAt := some 1, finalizers := [MachineFinalizer] }
  spec := { power := .powerOn, networkInterfaces := [{ name := "eth0" }], apiSocketPath := some "/run/chp/0" }

theorem processNextWorkItem_panics_on_nic_lookup_error_example :
    ∃ s, processNextWorkItem exampleReconciler "m1"
      ({ deletingWorld with machines := Store.empty.put deletedMachineWithNic, processes := fun _ => none },
        [none, none, none, some (.other "i/o timeout")]) = .error .nilDereference s :=
  processNextWorkItem_panics_on_nic_lookup_error exampleReconciler deletedMachineWithNic _
    (by simp [deletedMachineWithNic]) rfl (by simp [deletedMachineWithNic]) rfl rfl rfl

end CloudHypervisorProvider.Controllers
