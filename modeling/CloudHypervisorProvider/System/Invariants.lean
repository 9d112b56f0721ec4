import Mathlib.Data.String.Basic
import CloudHypervisorProvider.Go.Filepath
import CloudHypervisorProvider.System.Run
import CloudHypervisorProvider.Controllers.ApiSockets

/-! # Machine records and host files over runs

Over any run, whatever the collaborators answer: a stored machine that holds an API
socket and is not marked deleted carries the reconciler's finalizer, and the socket
stays while the machine is stored. A directory `MakeMachineDirs` made leaves the host
only in its own machine's teardown, and every such directory lies below a machine the
store holds with the finalizer.
-/

namespace CloudHypervisorProvider.System
open Go Api Controllers

section Prefix

theorem pos_add_char (p : List Char) (c : Char) :
    (⟨String.utf8Len p⟩ : String.Pos) + c = ⟨String.utf8Len (p ++ [c])⟩ := by
  simp [String.Pos.addChar_eq]

theorem pos_cons (p q : List Char) (c : Char) :
    (⟨String.utf8Len p + String.utf8Len (c :: q)⟩ : String.Pos) = ⟨String.utf8Len (p ++ [c]) + String.utf8Len q⟩ := by
  simp only [String.Pos.ext_iff, String.utf8Len_cons, String.utf8Len_append, String.utf8Len_nil]; omega

theorem get_utf8Len {s : String} {p r : List Char} {c : Char} (h : s = ⟨p ++ c :: r⟩) :
    s.get ⟨String.utf8Len p⟩ = c := by
  rw [h, String.get_of_valid]; rfl

theorem utf8Len_lt_cons (p q : List Char) (c : Char) :
    String.utf8Len p < String.utf8Len p + String.utf8Len (c :: q) := by
  simp only [String.utf8Len_cons]; have := Char.utf8Size_pos c; omega

theorem substrEq_loop_sound (s₁ s₂ : String) :
    ∀ (q p₁ r₁ p₂ r₂ : List Char), s₁ = ⟨p₁ ++ (q ++ r₁)⟩ → s₂ = ⟨p₂ ++ r₂⟩ →
      String.utf8Len q ≤ String.utf8Len r₂ →
      String.substrEq.loop s₁ s₂ ⟨String.utf8Len p₁⟩ ⟨String.utf8Len p₂⟩
        ⟨String.utf8Len p₁ + String.utf8Len q⟩ = true → q <+: r₂
  | [], _, _, _, _, _, _, _, _ => List.nil_prefix
  | c :: q, p₁, r₁, p₂, r₂, h₁, h₂, hlen, h => by
    rcases r₂ with _ | ⟨c', r₂⟩
    · simp only [String.utf8Len_cons, String.utf8Len_nil] at hlen; have := Char.utf8Size_pos c; omega
    rw [String.substrEq.loop, dif_pos (utf8Len_lt_cons p₁ q c)] at h
    simp only [get_utf8Len h₁, get_utf8Len h₂, Bool.and_eq_true, beq_iff_eq] at h
    obtain ⟨rfl, h⟩ := h
    rw [pos_add_char, pos_add_char, pos_cons] at h
    exact (List.prefix_cons_inj c).mpr (substrEq_loop_sound s₁ s₂ q (p₁ ++ [c]) r₁ (p₂ ++ [c]) r₂
      (by rw [h₁]; simp) (by rw [h₂]; simp) (by simp only [String.utf8Len_cons] at hlen; omega) h)

theorem prefix_of_isPrefixOf {p s : String} (h : p.isPrefixOf s = true) : p.data <+: s.data := by
  obtain ⟨q⟩ := p
  obtain ⟨t⟩ := s
  simp only [String.isPrefixOf, String.substrEq, String.endPos_eq, Bool.and_eq_true, decide_eq_true_eq] at h
  obtain ⟨⟨-, hlen⟩, h⟩ := h
  exact substrEq_loop_sound ⟨q⟩ ⟨t⟩ q [] [] [] t (by simp) (by simp) (by simpa using hlen) (by simpa using h)

/-- A name with no separator, then a separator, is a prefix of another such name
followed by nothing or by a separator only when the two names agree. -/
theorem names_eq_of_sep : ∀ {a b tail : List Char}, '/' ∉ a → '/' ∉ b → (∀ c ∈ tail.head?, c = '/') →
    a ++ ['/'] <+: b ++ tail → a = b
  | [], [], _, _, _, _, _ => rfl
  | [], c :: b, _, _, hb, _, h => by
    simp only [List.nil_append, List.cons_append, List.cons_prefix_cons] at h
    exact absurd (h.1 ▸ List.mem_cons_self _ _) hb
  | x :: a, [], tail, ha, _, ht, h => by
    rcases tail with _ | ⟨y, tail⟩
    · simp at h
    · simp only [List.cons_append, List.nil_append, List.cons_prefix_cons] at h
      exact absurd (h.1 ▸ ht y rfl ▸ List.mem_cons_self _ _) ha
  | x :: a, y :: b, _, ha, hb, ht, h => by
    simp only [List.cons_append, List.cons_prefix_cons] at h
    rw [h.1, names_eq_of_sep (fun h' => ha (List.mem_cons_of_mem _ h')) (fun h' => hb (List.mem_cons_of_mem _ h'))
      ht h.2]

end Prefix

/-- The directories `MakeMachineDirs` makes for `j` lie neither at nor below the
directory of another machine, when neither id holds a separator. -/
theorem machineDirs_not_under (rootDir : String) {j id dir : String} (hj : '/' ∉ j.data) (hid : '/' ∉ id.data)
    (hne : id ≠ j) (hdir : dir ∈ (Host.machineDirs (Host.pathsAt rootDir) j).map Prod.fst) :
    ¬ (dir = (Host.pathsAt rootDir).machineDir id ∨
      ((Host.pathsAt rootDir).machineDir id ++ "/").isPrefixOf dir) := by
  have hsep : "/".data = ['/'] := rfl
  obtain ⟨tail, htail, hdata⟩ : ∃ tail : List Char, (∀ c ∈ tail.head?, c = '/') ∧
      dir.data = (Host.join rootDir "machines").data ++ '/' :: (j.data ++ tail) := by
    simp only [Host.machineDirs, Host.pathsAt, List.map_cons, List.map_nil, List.mem_cons, List.mem_singleton,
      List.not_mem_nil, or_false] at hdir
    rcases hdir with rfl | rfl | rfl | rfl | rfl
    · exact ⟨[], by simp, by simp [Host.join, hsep]⟩
    · exact ⟨'/' :: "rootfs".data, by simp, by simp [Host.join, hsep]⟩
    · exact ⟨'/' :: "volumes".data, by simp, by simp [Host.join, hsep]⟩
    · exact ⟨'/' :: "ignitions".data, by simp, by simp [Host.join, hsep]⟩
    · exact ⟨'/' :: "networkinterfaces".data, by simp, by simp [Host.join, hsep]⟩
  have hne' : id.data ≠ j.data := fun h => hne (String.ext h)
  rintro (heq | hpre)
  · have h := congrArg String.data heq
    simp only [hdata, Host.pathsAt, Host.join, String.data_append, hsep, List.append_assoc, List.singleton_append,
      List.append_cancel_left_eq, List.cons.injEq, true_and] at h
    rcases tail with _ | ⟨c, tail⟩
    · exact hne' (by simpa using h.symm)
    · exact hid (h ▸ htail c rfl ▸ List.mem_append_right _ (List.mem_cons_self _ _))
  · have h := prefix_of_isPrefixOf hpre
    simp only [hdata, Host.pathsAt, Host.join, String.data_append, hsep, List.append_assoc, List.singleton_append,
      List.cons_append, List.prefix_append_right_inj, List.prefix_cons_inj] at h
    exact hne' (names_eq_of_sep hid hj htail h)

def RecordsGuarded (w : World) : Prop := ∀ id m, w.machines.get id = some m → Guarded m

theorem recordsGuarded_initial : RecordsGuarded initial := fun _ _ h => by simp [initial] at h

/-- One event keeps every record guarded, when a machine it creates carries no socket:
`reconcileMachine` adds its finalizer before it assigns a socket, and only the teardown
of a machine marked deleted takes it away. -/
theorem step_recordsGuarded {r : MachineReconciler} {w : World} (h : RecordsGuarded w) (e : Event)
    (he : ∀ m, e = .createMachine m → m.spec.apiSocketPath = none) : RecordsGuarded (step r w e) := by
  by_cases hpass : ∃ id faults, e = .reconcile id faults
  · obtain ⟨id, faults, rfl⟩ := hpass
    obtain ⟨_, _, _, hw⟩ := processNextWorkItem_frame r id (w, faults)
    intro j m hm
    by_cases hj : j = id
    · subst hj; exact hw.guarded (h j) m hm
    · exact h j m (by rw [← hw.others j hj]; exact hm)
  obtain ⟨-, -, hback, -⟩ := step_external (r := r) (w := w) fun id faults h => hpass ⟨id, faults, h⟩
  intro j m hm hk hd
  rcases hback j m hm with hc | ⟨m₀, hm₀, hkept⟩
  · rw [he m hc] at hk; cases hk
  · exact hkept.finalizers ▸ h j m₀ hm₀ (hkept.socket ▸ hk) (hkept.deleted hd)

theorem run_recordsGuarded_of {r : MachineReconciler} : ∀ (events : List Event) {w : World}, RecordsGuarded w →
    (∀ m, Event.createMachine m ∈ events → m.spec.apiSocketPath = none) → RecordsGuarded (run r events w)
  | [], _, h, _ => h
  | e :: es, _, h, he =>
    run_recordsGuarded_of es (step_recordsGuarded h e fun m hm => he m (hm ▸ List.mem_cons_self _ _))
      fun m hm => he m (List.mem_cons_of_mem _ hm)

/-- In every state of a run from the empty host whose created machines carry no API
socket, whatever the collaborators answer, a stored machine that holds an API socket and
is not marked deleted carries the reconciler's finalizer; so `DeleteMachine` keeps its
record, marked deleted and with its socket, for the teardown of a later pass. -/
theorem run_finalizer_guards (r : MachineReconciler) (events : List Event)
    (hcreate : ∀ m, Event.createMachine m ∈ events → m.spec.apiSocketPath = none)
    (id : String) (m : Machine) (hm : (run r events initial).machines.get id = some m)
    (hk : m.spec.apiSocketPath.isSome) (hd : m.metadata.deletedAt = none) :
    MachineFinalizer ∈ m.metadata.finalizers ∧
      ∃ m', (step r (run r events initial) (.deleteMachine id)).machines.get id = some m' ∧
        m'.metadata.deletedAt.isSome ∧ m'.spec.apiSocketPath = m.spec.apiSocketPath := by
  have hfin := run_recordsGuarded_of events recordsGuarded_initial hcreate id m hm hk hd
  have hid := (run r events initial).machines.keyed id m hm
  refine ⟨hfin, { m with metadata.deletedAt := m.metadata.deletedAt.or (some 0) }, ?_, by rw [hd]; rfl, rfl⟩
  simp only [step, hm, Store.get_write, hid, List.ne_nil_of_mem hfin, and_false, if_false, if_true]

def HoldsSocket (id key : String) (w : World) : Prop :=
  ∀ m, w.machines.get id = some m → m.spec.apiSocketPath = some key

theorem step_holdsSocket {r : MachineReconciler} {w : World} {id key : String} (h : HoldsSocket id key w)
    (e : Event) (he : ∀ m, e = .createMachine m → m.metadata.id ≠ id) : HoldsSocket id key (step r w e) := by
  by_cases hpass : ∃ j faults, e = .reconcile j faults
  · obtain ⟨j, faults, rfl⟩ := hpass
    obtain ⟨d, k, hdk, hw⟩ := processNextWorkItem_frame r j (w, faults)
    intro m (hm : (resultWorld (processNextWorkItem r j (w, faults))).machines.get id = some m)
    by_cases hj : id = j
    · subst hj
      rcases hget : w.machines.get id with _ | m₀
      · rw [hw.fresh hget] at hm; cases hm
      · exact (hw.stored m hm).2.trans ((hdk m₀ hget).2 key (h m₀ hget))
    · exact h m (by rw [← hw.others id hj]; exact hm)
  obtain ⟨-, -, hback, -⟩ := step_external (r := r) (w := w) fun j faults h => hpass ⟨j, faults, h⟩
  intro m hm
  rcases hback id m hm with hc | ⟨m₀, hm₀, hkept⟩
  · exact absurd ((step r w e).machines.keyed id m hm) (he m hc)
  · exact hkept.socket.trans (h m₀ hm₀)

theorem run_holdsSocket_of {r : MachineReconciler} {id key : String} : ∀ (events : List Event) {w : World},
    HoldsSocket id key w → (∀ m, Event.createMachine m ∈ events → m.metadata.id ≠ id) →
    HoldsSocket id key (run r events w)
  | [], _, h, _ => h
  | e :: es, _, h, he =>
    run_holdsSocket_of es (step_holdsSocket h e fun m hm => he m (hm ▸ List.mem_cons_self _ _))
      fun m hm => he m (List.mem_cons_of_mem _ hm)

/-- A machine's API socket, once assigned, stays for its lifetime: over any run from
any host state, whatever the collaborators answer and whatever `GetFreeApiSocket`
returns, a machine stored with socket `key` holds `key` whenever it is stored later,
as long as the gRPC layer creates no machine under its id. -/
theorem apiSocket_stable (r : MachineReconciler) (w : World) (events : List Event) (id key : String)
    (hcreate : ∀ m, Event.createMachine m ∈ events → m.metadata.id ≠ id) (m m' : Machine)
    (hm : w.machines.get id = some m) (hk : m.spec.apiSocketPath = some key)
    (hm' : (run r events w).machines.get id = some m') : m'.spec.apiSocketPath = some key :=
  run_holdsSocket_of events (fun _ hm₀ => (Option.some.inj (hm.symm.trans hm₀)) ▸ hk) hcreate m' hm'

/-- An event that removes a host file is a worker's pass for a machine the store held
marked deleted, and the file lay at or below that machine's directory. -/
theorem step_removes_files {r : MachineReconciler} {w : World} {e : Event} {f : String}
    (hf : f ∈ w.files) (hgone : f ∉ (step r w e).files) :
    ∃ id faults m, e = .reconcile id faults ∧ w.machines.get id = some m ∧ m.metadata.deletedAt.isSome ∧
      (f = r.paths.machineDir id ∨ (r.paths.machineDir id ++ "/").isPrefixOf f) := by
  by_cases hpass : ∃ id faults, e = .reconcile id faults
  · obtain ⟨id, faults, rfl⟩ := hpass
    obtain ⟨_, _, _, hw⟩ := processNextWorkItem_frame r id (w, faults)
    obtain ⟨⟨m, hm, hdel⟩, hunder⟩ := hw.removed f hf hgone
    exact ⟨id, faults, m, rfl, hm, hdel, hunder⟩
  · exact (hgone ((step_external (r := r) (w := w) fun id faults h => hpass ⟨id, faults, h⟩).1 ▸ hf)).elim

theorem run_removes_files (r : MachineReconciler) : ∀ (events : List Event) (w : World) (f : String),
    f ∈ w.files → f ∉ (run r events w).files →
    ∃ pre id faults post m, events = pre ++ .reconcile id faults :: post ∧
      (run r pre w).machines.get id = some m ∧ m.metadata.deletedAt.isSome ∧
      (f = r.paths.machineDir id ∨ (r.paths.machineDir id ++ "/").isPrefixOf f)
  | [], _, _, hf, hgone => absurd hf hgone
  | e :: es, w, f, hf, hgone => by
    by_cases hstep : f ∈ (step r w e).files
    · obtain ⟨pre, id, faults, post, m, rfl, hm, hdel, hunder⟩ := run_removes_files r es (step r w e) f hstep hgone
      exact ⟨e :: pre, id, faults, post, m, rfl, hm, hdel, hunder⟩
    · obtain ⟨id, faults, m, rfl, hm, hdel, hunder⟩ := step_removes_files hf hstep
      exact ⟨[], id, faults, es, m, rfl, hm, hdel, hunder⟩

/-- With the directories of `PathsAt` and machine ids that are single path elements, a
directory `MakeMachineDirs` makes for machine `j` leaves the host, in any run from any
world and whatever the collaborators answer, only in a worker's pass for `j` that began
with `j` stored and marked deleted: the teardown of another machine never removes it. -/
theorem machineDirs_removed_only_by_own_teardown (rootDir : String) (r : MachineReconciler)
    (hpaths : r.paths = Host.pathsAt rootDir) (events : List Event) (w : World) (j dir : String)
    (hj : Go.Filepath.Normal j.data) (hids : ∀ id faults, Event.reconcile id faults ∈ events → Go.Filepath.Normal id.data)
    (hdir : dir ∈ (Host.machineDirs r.paths j).map Prod.fst)
    (hin : dir ∈ w.files) (hgone : dir ∉ (run r events w).files) :
    ∃ pre faults post m, events = pre ++ .reconcile j faults :: post ∧
      (run r pre w).machines.get j = some m ∧ m.metadata.deletedAt.isSome := by
  obtain ⟨pre, id, faults, post, m, hev, hm, hdel, hunder⟩ := run_removes_files r events w dir hin hgone
  by_cases hne : id = j
  · subst hne
    exact ⟨pre, faults, post, m, hev, hm, hdel⟩
  · have hid := hids id faults (hev ▸ List.mem_append_right _ (List.mem_cons_self _ _))
    rw [hpaths] at hunder hdir
    exact absurd hunder (machineDirs_not_under rootDir hj.2.2.2 hid.2.2.2 hne hdir)

section Runs

attribute [local simp] run step initial resultWorld processNextWorkItem_eq reconcileMachine reconcileLive
  reconcileVm assignApiSocket finalRecord reconcilePower deleteMachine getMachineState deleteMachineNics
  makeMachineDirs reconcileImage materializeNics reconcileVolumes fetchNic reconcileVolumesLoop reconcileNics
  reconcileNicsDevices reconcileNicsAdd attachDetachDisks attachDetachDisksLoop machineNicStatuses
  addFinalizerToNIC removeFinalizerFromNIC nicsReady setNic enqueue check wrapErr isErr errorf
  ignoreErrNotFound getVolumeStatus MachineFinalizer getNicID World.machinesGet World.machinesUpdate
  World.nicsGet World.nicsCreate World.nicsUpdate World.nicsDelete World.getFreeApiSocket firstFreeSocket
  World.vmmPing World.vmmGetVM World.manager World.vmmCreateVM World.changeVm World.addToVm deviceIds diskIds
  netIds withState withDisk withNet withoutDevice World.vmmPowerOn World.vmmPowerOff World.vmmAddDisk
  World.vmmAddNIC World.vmmRemoveDevice World.vmmDelete World.mkdirAll World.removeAll World.regularFileExists
  World.rawCreate World.imageGet World.setProcess World.liveDisks World.liveDevices Store.write Process.client
  Client.Response.bare Client.Response.ok200 Vmm.Manager.getVM Vmm.Manager.createVMPayload Host.machineDirs
  Host.pathsAt Host.join EStateM.bind EStateM.map EStateM.adaptExcept EStateM.modifyGet pass_bind pass_map
  pass_modify toString_zero

/-- Two machines created, each reconciled to its VM. -/
def twoMachines : List Event :=
  [.createMachine ⟨{ id := "m1" }, { power := .powerOn }, {}⟩,
   .createMachine ⟨{ id := "m2" }, { power := .powerOn }, {}⟩,
   .reconcile "m1" [], .reconcile "m2" [], .reconcile "m1" [], .reconcile "m2" []]

theorem twoMachines_created : ∀ m, Event.createMachine m ∈ twoMachines → m.spec.apiSocketPath = none := by
  intro m hm
  simp only [twoMachines, List.mem_cons, Event.createMachine.injEq, List.mem_singleton] at hm
  rcases hm with rfl | rfl | hm <;> simp_all

theorem twoMachines_m1 : ∃ m, (run exampleReconciler twoMachines initial).machines.get "m1" = some m ∧
    m.spec.apiSocketPath = some "/run/chp/0" ∧ m.metadata.deletedAt = none := by
  have hsock : ("/run/chp/" ++ toString 1 = "/run/chp/0") = False := by decide
  simp [twoMachines, exampleReconciler, hsock]

theorem run_finalizer_guards_twoMachines :
    ∃ m, (run exampleReconciler twoMachines initial).machines.get "m1" = some m ∧
      m.spec.apiSocketPath.isSome ∧ m.metadata.deletedAt = none ∧
      MachineFinalizer ∈ m.metadata.finalizers ∧
      ∃ m', (step exampleReconciler (run exampleReconciler twoMachines initial) (.deleteMachine "m1")).machines.get
          "m1" = some m' ∧ m'.metadata.deletedAt.isSome ∧ m'.spec.apiSocketPath = m.spec.apiSocketPath := by
  obtain ⟨m, hm, hsock, hd⟩ := twoMachines_m1
  have hk : m.spec.apiSocketPath.isSome := by rw [hsock]; rfl
  exact ⟨m, hm, hk, hd, run_finalizer_guards exampleReconciler twoMachines twoMachines_created "m1" m hm hk hd⟩

def updateThenReconcile : List Event := [.updateMachineSpec "m1" { power := .powerOff }, .reconcile "m1" []]

theorem apiSocket_stable_m1 :
    ∃ m m', (run exampleReconciler twoMachines initial).machines.get "m1" = some m ∧
      m.spec.apiSocketPath = some "/run/chp/0" ∧
      (run exampleReconciler updateThenReconcile (run exampleReconciler twoMachines initial)).machines.get "m1" =
        some m' ∧ m'.spec.apiSocketPath = some "/run/chp/0" := by
  obtain ⟨m, hm, hk, -⟩ := twoMachines_m1
  obtain ⟨m', hm'⟩ : ∃ m', (run exampleReconciler updateThenReconcile
      (run exampleReconciler twoMachines initial)).machines.get "m1" = some m' := by
    have hsock : ("/run/chp/" ++ toString 1 = "/run/chp/0") = False := by decide
    have hsock' : ("/run/chp/0" = "/run/chp/" ++ toString 1) = False := by decide
    simp [updateThenReconcile, twoMachines, exampleReconciler, hsock, hsock']
  exact ⟨m, m', hm, hk, hm', apiSocket_stable exampleReconciler _ updateThenReconcile "m1" "/run/chp/0"
    (fun _ h => by simp [updateThenReconcile] at h) m m' hm hk hm'⟩

/-- Machine `m1` reconciled to its VM. -/
def oneMachine : List Event :=
  [.createMachine ⟨{ id := "m1" }, { power := .powerOn }, {}⟩, .reconcile "m1" [], .reconcile "m1" []]

theorem oneMachine_files : (run exampleReconciler oneMachine initial).files =
    ["/var/lib/chp/machines/m1", "/var/lib/chp/machines/m1/rootfs", "/var/lib/chp/machines/m1/volumes",
      "/var/lib/chp/machines/m1/ignitions", "/var/lib/chp/machines/m1/networkinterfaces"] := by
  simp [oneMachine, exampleReconciler]

theorem machineDirs_removed_only_by_own_teardown_m1 :
    let w := run exampleReconciler oneMachine initial
    let events : List Event := [.deleteMachine "m1", .reconcile "m1" []]
    "/var/lib/chp/machines/m1" ∈ w.files ∧ "/var/lib/chp/machines/m1" ∉ (run exampleReconciler events w).files ∧
    ∃ pre faults post m, events = pre ++ .reconcile "m1" faults :: post ∧
      (run exampleReconciler pre w).machines.get "m1" = some m ∧ m.metadata.deletedAt.isSome := by
  intro w events
  have hin : "/var/lib/chp/machines/m1" ∈ w.files := by rw [oneMachine_files]; exact List.mem_cons_self _ _
  have hgone : "/var/lib/chp/machines/m1" ∉ (run exampleReconciler events w).files := by
    simp [w, events, oneMachine, exampleReconciler]
  exact ⟨hin, hgone, machineDirs_removed_only_by_own_teardown "/var/lib/chp" exampleReconciler rfl events w "m1"
    "/var/lib/chp/machines/m1" (by decide) (fun id faults h => by simp [events] at h; rw [h.1]; decide)
    (by simp [exampleReconciler]) hin hgone⟩

end Runs

end CloudHypervisorProvider.System
