import CloudHypervisorProvider.Controllers.VmIds

/-! # Runs of the provider

The provider as a whole: workers running reconcile passes, each of which may
meet a fault at any collaborator call, interleaved in any order with the gRPC
layer's writes to the machine store, the NIC plugin's own reconciler and the
image cache. A daemon that panics restarts with the stores, the host files and
the detached cloud-hypervisor processes as it left them.
-/

namespace CloudHypervisorProvider.System
open Go Api Client Controllers

/-- What can happen next on the host. -/
inductive Event where
  /-- A worker runs `processNextWorkItem` for `id`; the collaborators answer
  according to `faults`. -/
  | reconcile (id : String) (faults : Faults)
  /-- Modelled from the spec: `CreateMachine` stores a new machine. -/
  | createMachine (machine : Machine)
  /-- Modelled from the spec: an external update replaces a machine's spec; the API
  socket the reconciler assigned stays. -/
  | updateMachineSpec (id : String) (spec : MachineSpec)
  /-- Modelled from the spec: `DeleteMachine` sets `DeletedAt`, and the store drops a
  machine with no finalizer at once. -/
  | deleteMachine (id : String)
  /-- Modelled from the spec: the NIC plugin attaches a NIC object under its own finalizer. -/
  | nicAttached (id handle finalizer : String)
  /-- Modelled from the spec: the NIC plugin releases a NIC object marked deleted by
  stripping its own finalizer. -/
  | nicReleased (id finalizer : String)
  /-- Modelled from the spec: the image cache finishes a pull. -/
  | imagePulled (image : String)

def initial : World := ⟨.empty, .empty, fun _ => none, [], [], [], []⟩

def step (r : MachineReconciler) (w : World) : Event → World
  | .reconcile id faults => resultWorld (processNextWorkItem r id (w, faults))
  | .createMachine m =>
    if (w.machines.get m.metadata.id).isSome then w else { w with machines := w.machines.put m }
  | .updateMachineSpec id spec =>
    match w.machines.get id with
    | some m =>
      let m := { m with spec := { spec with apiSocketPath := m.spec.apiSocketPath } }
      { w with machines := w.machines.put m }
    | none => w
  | .deleteMachine id =>
    match w.machines.get id with
    | some m =>
      let m := { m with metadata.deletedAt := m.metadata.deletedAt.or (some 0) }
      { w with machines := w.machines.write m }
    | none => w
  | .nicAttached id handle finalizer =>
    match w.nics.get id with
    | some nic =>
      if nic.metadata.deletedAt.isSome then w else
      let finalizers := if finalizer ∈ nic.metadata.finalizers then nic.metadata.finalizers
        else nic.metadata.finalizers ++ [finalizer]
      let nic := { nic with metadata.finalizers := finalizers, status := { state := .attached, handle := handle } }
      { w with nics := w.nics.put nic }
    | none => w
  | .nicReleased id finalizer =>
    match w.nics.get id with
    | some nic =>
      if nic.metadata.deletedAt.isNone then w else
      let nic := { nic with metadata.finalizers := nic.metadata.finalizers.erase finalizer }
      { w with nics := w.nics.write nic }
    | none => w
  | .imagePulled image => { w with images := w.images ++ [image] }

def run (r : MachineReconciler) (events : List Event) (w : World) : World :=
  events.foldl (step r) w

inductive Reachable (r : MachineReconciler) : World → Prop
  | initial : Reachable r initial
  | step {w : World} (e : Event) : Reachable r w → Reachable r (step r w e)

theorem reachable_run {r : MachineReconciler} {w : World} (h : Reachable r w) (events : List Event) :
    Reachable r (run r events w) := by
  induction events generalizing w with
  | nil => exact h
  | cons e es ih => exact ih (.step e h)

/-- In every state the host can reach, the ids of each VM's disks and devices are unique. -/
theorem vmIdsUnique_of_reachable {r : MachineReconciler} {w : World} (h : Reachable r w) : w.VmIdsUnique := by
  induction h with
  | initial => intro key info hi; simp [initial, World.vmAt] at hi
  | step e _ ih =>
    cases e with
    | reconcile id faults => exact processNextWorkItem_vmIds r id (_, faults) ih
    | _ => exact ih.of_processes (by simp only [step]; all_goals ((repeat' split) <;> rfl))

/-- A record `m'` that an event other than a worker's pass left in place of `m`: the
same finalizers and API socket, and not marked deleted unless `m` was. -/
structure RecordKept (m m' : Machine) : Prop where
  finalizers : m'.metadata.finalizers = m.metadata.finalizers
  socket : m'.spec.apiSocketPath = m.spec.apiSocketPath
  deleted : m'.metadata.deletedAt = none → m.metadata.deletedAt = none

theorem RecordKept.refl (m : Machine) : RecordKept m m := ⟨rfl, rfl, fun h => h⟩

/-- An event other than a worker's pass leaves the host files and the processes as they
are. A record it stores is the machine it creates or one it kept from
the record stored under that id before; and every record with a finalizer stays. -/
theorem step_external {r : MachineReconciler} {w : World} {e : Event} (he : ∀ id faults, e ≠ .reconcile id faults) :
    (step r w e).files = w.files ∧ (step r w e).processes = w.processes ∧
    (∀ j m', (step r w e).machines.get j = some m' → e = .createMachine m' ∨
      ∃ m, w.machines.get j = some m ∧ RecordKept m m') ∧
    (∀ j m, w.machines.get j = some m → m.metadata.finalizers ≠ [] →
      ∃ m', (step r w e).machines.get j = some m' ∧ RecordKept m m') := by
  have hsame : ∀ j m, w.machines.get j = some m → ∃ m', w.machines.get j = some m' ∧ RecordKept m' m :=
    fun _ m hm => ⟨m, hm, .refl m⟩
  have hsame' : ∀ j m, w.machines.get j = some m → m.metadata.finalizers ≠ [] →
      ∃ m', w.machines.get j = some m' ∧ RecordKept m m' := fun _ m hm _ => ⟨m, hm, .refl m⟩
  cases e
  case reconcile id faults => exact absurd rfl (he id faults)
  case createMachine m₁ =>
    simp only [step]
    split
    · exact ⟨rfl, rfl, fun j m hm => .inr (hsame j m hm), hsame'⟩
    · next hnew =>
      refine ⟨rfl, rfl, fun j m hm => ?_, fun j m hm _ => ⟨m, ?_, .refl m⟩⟩
      · rw [Store.get_put] at hm
        split_ifs at hm
        · cases hm; exact .inl rfl
        · exact .inr (hsame j m hm)
      · rw [Store.get_put, if_neg fun hj => hnew (by rw [← hj, hm]; rfl)]
        exact hm
  case updateMachineSpec id spec =>
    simp only [step]
    split
    · next m₀ hm₀ =>
      have hid := w.machines.keyed id m₀ hm₀
      refine ⟨rfl, rfl, fun j m hm => .inr ?_, fun j m hm _ => ?_⟩
      · rw [Store.get_put] at hm
        split_ifs at hm with hj
        · cases hm; exact ⟨m₀, by rw [hj.trans hid]; exact hm₀, rfl, rfl, fun h => h⟩
        · exact hsame j m hm
      · rw [Store.get_put]
        split_ifs with hj
        · rw [hj.trans hid, hm₀] at hm
          cases hm
          exact ⟨_, rfl, rfl, rfl, fun h => h⟩
        · exact ⟨m, hm, .refl m⟩
    · exact ⟨rfl, rfl, fun j m hm => .inr (hsame j m hm), hsame'⟩
  case deleteMachine id =>
    simp only [step]
    split
    · next m₀ hm₀ =>
      have hid := w.machines.keyed id m₀ hm₀
      have hmark : m₀.metadata.deletedAt.or (some 0) ≠ none := by cases m₀.metadata.deletedAt <;> simp
      refine ⟨rfl, rfl, fun j m hm => .inr ?_, fun j m hm hne => ?_⟩
      · rw [Store.get_write] at hm
        split_ifs at hm with hj
        · cases hm
          exact ⟨m₀, by rw [hj.trans hid]; exact hm₀, rfl, rfl, fun h => absurd h hmark⟩
        · exact hsame j m hm
      · rw [Store.get_write]
        split_ifs with hj hdrop
        · rw [hj.trans hid, hm₀] at hm
          cases hm
          exact absurd hdrop.2 hne
        · rw [hj.trans hid, hm₀] at hm
          cases hm
          exact ⟨_, rfl, rfl, rfl, fun h => absurd h hmark⟩
        · exact ⟨m, hm, .refl m⟩
    · exact ⟨rfl, rfl, fun j m hm => .inr (hsame j m hm), hsame'⟩
  all_goals
    simp only [step]
    repeat' split
    all_goals exact ⟨by trivial, by trivial, fun j m hm => .inr (hsame j m hm), hsame'⟩

section Plumbing
variable {α β : Type}

theorem pass_bind (x : Pass α) (f : α → Pass β) : x >>= f = EStateM.bind x f := rfl

theorem pass_map (f : α → β) (x : Pass α) : f <$> x = EStateM.map f x := rfl

theorem pass_modify (f : World × Faults → World × Faults) :
    (modify f : Pass Unit) = EStateM.modifyGet fun s => ((), f s) := rfl

end Plumbing

theorem toString_zero : toString (0 : Nat) = "0" := rfl

end CloudHypervisorProvider.System
