import Mathlib.Data.List.Nodup

/-! # The machine class registry

`NewRegistry` indexes the configured machine classes by name and refuses a list in
which two classes share one; `Get` and `List` read the index back. The index is a Go
map. It is modelled as an association list in insertion order, and a `range` over it
as a walk of its keys in an order the runtime chooses, so that what is proved of
`List` holds for every such order.
-/

namespace CloudHypervisorProvider.MachineClasses

structure MachineClass where
  name : String
  cpu : Int
  memoryBytes : Int
  nvidiaGpu : Int
  deriving DecidableEq, Inhabited, Repr

/-- `MachineClassRegistry`: the map `classes` from a class name to its class. -/
structure MachineClassRegistry where
  classes : List (String × MachineClass)
  deriving DecidableEq, Repr

/-- The loop of `NewRegistry` over the classes still to index. The name is absent
when the map is written, so the write appends its entry. -/
def newRegistryLoop (registry : MachineClassRegistry) :
    List MachineClass → Except String MachineClassRegistry
  | [] => .ok registry
  | machineClass :: classes =>
    if (registry.classes.lookup machineClass.name).isSome then
      .error ("multiple classes with same name (" ++ machineClass.name ++ ") found")
    else
      newRegistryLoop { classes := registry.classes ++ [(machineClass.name, machineClass)] } classes

def newRegistry (classes : List MachineClass) : Except String MachineClassRegistry :=
  newRegistryLoop { classes := [] } classes

namespace MachineClassRegistry

/-- `Get(machineClassName)`: the class and whether the map holds the name. A missing
name reads the zero class. -/
def get (m : MachineClassRegistry) (machineClassName : String) : MachineClass × Bool :=
  match m.classes.lookup machineClassName with
  | some c => (c, true)
  | none => (default, false)

def keys (m : MachineClassRegistry) : List String := m.classes.map Prod.fst

/-- `List()`, given the order in which the runtime's `range` visits the keys. -/
def list (m : MachineClassRegistry) (order : List String) : List MachineClass :=
  order.map fun name => (m.get name).1

end MachineClassRegistry

def entry (c : MachineClass) : String × MachineClass := (c.name, c)

theorem lookup_isSome_iff {β : Type} (a : String) :
    ∀ l : List (String × β), (l.lookup a).isSome ↔ a ∈ l.map Prod.fst
  | [] => by simp
  | (k, b) :: l => by
    by_cases h : a = k
    · simp [List.lookup_cons, h]
    · simp [List.lookup_cons, h, beq_eq_false_iff_ne.mpr h, lookup_isSome_iff a l]

/-- The loop succeeds exactly when no name repeats one indexed before or after it,
and then appends one entry per class, in order. -/
theorem newRegistryLoop_eq_ok :
    ∀ (acc : List (String × MachineClass)) (classes : List MachineClass) (m : MachineClassRegistry),
    (acc.map Prod.fst).Nodup →
    (newRegistryLoop ⟨acc⟩ classes = .ok m ↔
      (acc.map Prod.fst ++ classes.map MachineClass.name).Nodup ∧ m = ⟨acc ++ classes.map entry⟩)
  | acc, [], m, hacc => by simp [newRegistryLoop, hacc, eq_comm]
  | acc, c :: classes, m, hacc => by
    simp only [newRegistryLoop, lookup_isSome_iff]
    split_ifs with hc
    · simp [List.nodup_append, hc]
    · rw [newRegistryLoop_eq_ok _ classes m (by simpa [List.nodup_append] using And.intro hacc hc)]
      simp [entry]

theorem lookup_entries_of_mem : ∀ {classes : List MachineClass},
    (classes.map MachineClass.name).Nodup → ∀ {c}, c ∈ classes → (classes.map entry).lookup c.name = some c
  | [], _, _, hc => nomatch hc
  | d :: ds, hnd, c, hc => by
    rw [List.map_cons, List.nodup_cons] at hnd
    rcases List.mem_cons.mp hc with rfl | hc
    · simp [entry]
    · have hne : c.name ≠ d.name := fun h => hnd.1 (h ▸ List.mem_map_of_mem _ hc)
      simp [entry, List.lookup_cons, beq_eq_false_iff_ne.mpr hne, lookup_entries_of_mem hnd.2 hc]

theorem lookup_entries_of_forall_ne {classes : List MachineClass} {x : String}
    (h : ∀ c ∈ classes, c.name ≠ x) : (classes.map entry).lookup x = none := by
  rw [← Option.not_isSome_iff_eq_none, lookup_isSome_iff]
  simpa [entry] using h

/-- `NewRegistry` fails exactly when two classes share a name. Once it succeeds, `Get`
finds every class under its name and nothing under any other, and `List`, in every
order the runtime may visit the map, returns the classes it was given, each once. -/
theorem newRegistry_spec (classes : List MachineClass) :
    ((∃ err, newRegistry classes = .error err) ↔ ¬ (classes.map MachineClass.name).Nodup) ∧
    ∀ registry, newRegistry classes = .ok registry →
      (∀ x, (∀ c ∈ classes, c.name = x → registry.get x = (c, true)) ∧
        ((∀ c ∈ classes, c.name ≠ x) → registry.get x = (default, false))) ∧
      ∀ order, order.Perm registry.keys → (registry.list order).Perm classes := by
  have hok (m) : newRegistry classes = .ok m ↔
      (classes.map MachineClass.name).Nodup ∧ m = ⟨classes.map entry⟩ := by
    simpa using newRegistryLoop_eq_ok [] classes m List.nodup_nil
  refine ⟨⟨fun ⟨err, he⟩ hnd => ?_, fun hnd => ?_⟩, fun registry h => ?_⟩
  · cases he.symm.trans ((hok _).mpr ⟨hnd, rfl⟩)
  · cases h : newRegistry classes with
    | error err => exact ⟨err, rfl⟩
    | ok m => exact absurd ((hok m).mp h).1 hnd
  · obtain ⟨hnd, rfl⟩ := (hok registry).mp h
    have hget : ∀ c ∈ classes, MachineClassRegistry.get ⟨classes.map entry⟩ c.name = (c, true) :=
      fun c hc => by simp [MachineClassRegistry.get, lookup_entries_of_mem hnd hc]
    refine ⟨fun x => ⟨fun c hc hx => hx ▸ hget c hc, fun hx => ?_⟩, fun order horder => ?_⟩
    · simp [MachineClassRegistry.get, lookup_entries_of_forall_ne hx]
    · have hkeys : MachineClassRegistry.keys ⟨classes.map entry⟩ = classes.map MachineClass.name := by
        simp [MachineClassRegistry.keys, entry, Function.comp_def]
      calc List.Perm (MachineClassRegistry.list ⟨classes.map entry⟩ order)
            ((classes.map MachineClass.name).map fun name =>
              (MachineClassRegistry.get ⟨classes.map entry⟩ name).1) := (hkeys ▸ horder).map _
        _ = classes := by
          rw [List.map_map]
          exact (List.map_congr_left fun c hc => by simp [hget c hc]).trans (List.map_id _)

example : newRegistry [⟨"small", 1, 1, 0⟩, ⟨"small", 2, 2, 0⟩] =
    .error "multiple classes with same name (small) found" := rfl

end CloudHypervisorProvider.MachineClasses
