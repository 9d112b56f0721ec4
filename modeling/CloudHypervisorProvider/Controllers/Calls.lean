import CloudHypervisorProvider.Controllers.World

/-! # Reasoning about passes

What a pass can do, said once for the monad and for a collaborator call: the
equations that evaluate a pass step by step, the inversions of its ok path, and
frame lemmas. A pass whose every call leaves some view of the world unchanged
leaves it unchanged, whether it returns or fails.
-/

namespace CloudHypervisorProvider.Controllers
open Go

def resultWorld {α : Type} : EStateM.Result Abort (World × Faults) α → World
  | .ok _ s => s.1
  | .error _ s => s.1

section Record
variable (w : World) (request : World → Option Call)

@[simp] theorem record_machines : (w.record request).machines = w.machines := rfl
@[simp] theorem record_nics : (w.record request).nics = w.nics := rfl
@[simp] theorem record_processes : (w.record request).processes = w.processes := rfl
@[simp] theorem record_files : (w.record request).files = w.files := rfl
@[simp] theorem record_images : (w.record request).images = w.images := rfl
@[simp] theorem record_queue : (w.record request).queue = w.queue := rfl
@[simp] theorem record_calls : (w.record request).calls = w.calls ++ (request w).toList := rfl

end Record

section Monad
variable {α β : Type} {x : Pass α} {f : α → Pass β} {s : World × Faults}

@[simp] theorem pure_apply (a : α) : (pure a : Pass α) s = .ok a s := rfl

@[simp] theorem throw_apply (e : Abort) : (throw e : Pass α) s = .error e s := rfl

theorem bind_ok {a : α} {s' : World × Faults} (h : x s = .ok a s') : (x >>= f) s = f a s' := by
  simp only [bind, EStateM.bind, h]

theorem bind_error {e : Abort} {s' : World × Faults} (h : x s = .error e s') :
    (x >>= f) s = .error e s' := by
  simp only [bind, EStateM.bind, h]

theorem bind_eq_ok {b : β} {s'' : World × Faults} :
    (x >>= f) s = .ok b s'' ↔ ∃ a s', x s = .ok a s' ∧ f a s' = .ok b s'' := by
  rcases h : x s with ⟨a, s'⟩ | ⟨e, s'⟩
  · rw [bind_ok h]
    exact ⟨fun hf => ⟨a, s', rfl, hf⟩, fun ⟨_, _, he, hf⟩ => by cases he; exact hf⟩
  · rw [bind_error h]
    exact ⟨fun hf => (nomatch hf), fun ⟨_, _, he, _⟩ => nomatch he⟩

theorem bind_eq_error {e : Abort} {s'' : World × Faults} :
    (x >>= f) s = .error e s'' ↔ x s = .error e s'' ∨ ∃ a s', x s = .ok a s' ∧ f a s' = .error e s'' := by
  rcases h : x s with ⟨a, s'⟩ | ⟨e', s'⟩
  · rw [bind_ok h]
    exact ⟨fun hf => .inr ⟨a, s', rfl, hf⟩, fun
      | .inl h' => nomatch h'
      | .inr ⟨_, _, he, hf⟩ => by cases he; exact hf⟩
  · rw [bind_error h]
    simp

@[simp] theorem pure_bind_apply (a : α) : ((pure a : Pass α) >>= f) s = f a s := rfl

theorem bind_pure_eq_ok {g : α → β} {b : β} {s' : World × Faults} :
    (x >>= fun a => pure (g a)) s = .ok b s' ↔ ∃ a, x s = .ok a s' ∧ b = g a := by
  rw [bind_eq_ok]
  constructor
  · rintro ⟨a, s₁, hx, hp⟩
    cases hp
    exact ⟨a, hx, rfl⟩
  · rintro ⟨a, hx, rfl⟩
    exact ⟨a, s', hx, rfl⟩

theorem map_eq_ok {g : α → β} {b : β} {s' : World × Faults} :
    (g <$> x) s = .ok b s' ↔ ∃ a, x s = .ok a s' ∧ b = g a :=
  bind_pure_eq_ok

end Monad

section Call
variable {α : Type} {request : World → Option Call} {act : World → Except Err α × World}
  {w : World} {fs : Faults}

@[simp] theorem call_nil :
    call request act (w, []) = .ok (act (w.record request)).1 ((act (w.record request)).2, []) := rfl

@[simp] theorem call_none :
    call request act (w, none :: fs) = .ok (act (w.record request)).1 ((act (w.record request)).2, fs) := rfl

@[simp] theorem call_some {e : Err} :
    call request act (w, some e :: fs) = .ok (.error e) (w.record request, fs) := rfl

/-- A call never fails as a computation: it returns the collaborator's answer, which
is either a scripted fault, with nothing changed but the log, or what the
collaborator did. -/
theorem call_cases (request : World → Option Call) (act : World → Except Err α × World)
    (s : World × Faults) : ∃ s',
    (∃ e, call request act s = .ok (.error e) s' ∧ s'.1 = s.1.record request) ∨
    (call request act s = .ok (act (s.1.record request)).1 s' ∧ s'.1 = (act (s.1.record request)).2) := by
  obtain ⟨w, _ | ⟨_ | e, fs⟩⟩ := s
  · exact ⟨_, .inr ⟨rfl, rfl⟩⟩
  · exact ⟨_, .inr ⟨rfl, rfl⟩⟩
  · exact ⟨_, .inl ⟨e, rfl, rfl⟩⟩

/-- A call that answered with a result acted: a fault answers with an error. -/
theorem call_eq_ok_ok {a : α} {s s' : World × Faults} (h : call request act s = .ok (.ok a) s') :
    (act (s.1.record request)).1 = .ok a ∧ s'.1 = (act (s.1.record request)).2 := by
  obtain ⟨s'', ⟨e, hc, -⟩ | ⟨hc, hs⟩⟩ := call_cases request act s
  · rw [hc] at h; cases h
  · rw [hc] at h
    obtain ⟨ha, rfl⟩ := EStateM.Result.ok.inj h
    exact ⟨ha, hs⟩

theorem call_world {r : Except Err α} {s s' : World × Faults} (hact : ∀ w, (act w).2 = w)
    (h : call request act s = .ok r s') : s'.1 = s.1.record request := by
  obtain ⟨s'', ⟨e, hc, hs⟩ | ⟨hc, hs⟩⟩ := call_cases request act s <;> rw [hc] at h <;> cases h
  · exact hs
  · exact hs.trans (hact _)

end Call

section Check
variable {α : Type} {x : Pass (Except Err α)} {s s' : World × Faults} {a : α} (msg : String)

theorem check_eq_ok : check msg x s = .ok a s' ↔ x s = .ok (.ok a) s' := by
  simp only [check, bind_eq_ok]
  constructor
  · rintro ⟨r, s'', hx, hr⟩
    rcases r with e | b
    · cases hr
    · cases hr; exact hx
  · exact fun hx => ⟨_, _, hx, rfl⟩

theorem wrapErr_eq_ok {y : Pass α} : wrapErr msg y s = .ok a s' ↔ y s = .ok a s' := by
  simp only [wrapErr, EStateM.adaptExcept]
  split <;> simp_all

end Check

section Frame
variable {β α γ : Type} (view : World → β)

/-- `x` leaves `view` of the world as it found it, whether it returns or fails. -/
def Keeps (x : Pass α) : Prop := ∀ s, view (resultWorld (x s)) = view s.1

variable {view}

theorem Keeps.of_ok {x : Pass α} (hx : Keeps view x) {s s' : World × Faults} {a : α} (h : x s = .ok a s') :
    view s'.1 = view s.1 := by
  simpa [h, resultWorld] using hx s

theorem keeps_pure (a : α) : Keeps view (pure a) := fun _ => rfl

theorem keeps_throw (e : Abort) : Keeps view (throw e : Pass α) := fun _ => rfl

theorem keeps_bind {x : Pass α} {f : α → Pass γ} (hx : Keeps view x) (hf : ∀ a, Keeps view (f a)) :
    Keeps view (x >>= f) := by
  intro s
  have := hx s
  rcases h : x s with ⟨a, s'⟩ | ⟨e, s'⟩
  · rw [bind_ok h, hf a s', ← this, h]; rfl
  · rw [bind_error h, ← this, h]; rfl

theorem keeps_map {x : Pass α} (f : α → γ) (hx : Keeps view x) : Keeps view (f <$> x) := by
  rw [map_eq_pure_bind]; exact keeps_bind hx fun _ => keeps_pure _

theorem keeps_call {request : World → Option Call} {act : World → Except Err α × World}
    (hrecord : ∀ w, view (w.record request) = view w) (hact : ∀ w, view (act w).2 = view w) :
    Keeps view (call request act) := by
  intro s
  obtain ⟨s', ⟨e, hc, hs⟩ | ⟨hc, hs⟩⟩ := call_cases request act s
  · rw [hc]; exact (congrArg view hs).trans (hrecord s.1)
  · rw [hc]; exact (congrArg view hs).trans ((hact _).trans (hrecord s.1))

theorem keeps_check (msg : String) {x : Pass (Except Err α)} (hx : Keeps view x) :
    Keeps view (check msg x) :=
  keeps_bind hx fun r => by cases r <;> first | exact keeps_pure _ | exact keeps_throw _

theorem keeps_wrapErr (msg : String) {x : Pass α} (hx : Keeps view x) : Keeps view (wrapErr msg x) := by
  intro s
  have := hx s
  simp only [wrapErr, EStateM.adaptExcept]
  split <;> simp_all [resultWorld]

theorem keeps_forM {l : List γ} {f : γ → Pass PUnit} (hf : ∀ a, Keeps view (f a)) :
    Keeps view (l.forM f) := by
  induction l with
  | nil => exact keeps_pure _
  | cons a l ih => exact keeps_bind (hf a) fun _ => ih

theorem keeps_ite {c : Prop} [Decidable c] {x y : Pass α} (hx : Keeps view x) (hy : Keeps view y) :
    Keeps view (if c then x else y) := by
  split <;> assumption

end Frame

section Untouched
open Api Client
variable {β α : Type} {view : World → β}

/-- `view` ignores the request log, the host files and the machine store, as the VMs, the
NIC store and the image cache do: the frame lemmas of the passes are stated once for
every such view. -/
structure Untouched (view : World → β) : Prop where
  calls : ∀ w calls, view { w with calls := calls } = view w
  files : ∀ w files, view { w with files := files } = view w
  machines : ∀ w machines, view { w with machines := machines } = view w

theorem untouched_processes : Untouched (·.processes) := ⟨fun _ _ => rfl, fun _ _ => rfl, fun _ _ => rfl⟩

theorem untouched_process (k : String) : Untouched (·.processes k) :=
  ⟨fun _ _ => rfl, fun _ _ => rfl, fun _ _ => rfl⟩

theorem untouched_nics : Untouched (·.nics) := ⟨fun _ _ => rfl, fun _ _ => rfl, fun _ _ => rfl⟩

theorem untouched_images : Untouched (·.images) := ⟨fun _ _ => rfl, fun _ _ => rfl, fun _ _ => rfl⟩

theorem Untouched.keeps_call (hv : Untouched view) {request : World → Option Call}
    {act : World → Except Err α × World} (hact : ∀ w, view (act w).2 = view w) : Keeps view (call request act) :=
  Controllers.keeps_call (fun w => hv.calls w _) hact

theorem Untouched.machinesUpdate (hv : Untouched view) (m : Machine) (w : World) :
    view (World.machinesUpdate m w).2 = view w := by
  unfold World.machinesUpdate; split
  · exact hv.machines _ _
  · rfl

variable (hn : ∀ w nics, view { w with nics := nics } = view w)
  (hp : ∀ w processes, view { w with processes := processes } = view w)
include hn

theorem nicsCreate_view (nic : NetworkInterface) (w : World) : view (World.nicsCreate nic w).2 = view w := by
  unfold World.nicsCreate; split
  · rfl
  · exact hn _ _

theorem nicsUpdate_view (nic : NetworkInterface) (w : World) : view (World.nicsUpdate nic w).2 = view w := by
  unfold World.nicsUpdate; split
  · exact hn _ _
  · rfl

theorem nicsDelete_view (id : String) (w : World) : view (World.nicsDelete id w).2 = view w := by
  unfold World.nicsDelete; split
  · rfl
  · exact hn _ _

omit hn
include hp

theorem changeVm_view {key : String} (f : VmInfo → VmInfo) (w : World) :
    view (World.changeVm key f w).2 = view w := by
  unfold World.changeVm; split
  · rfl
  · rfl
  · exact hp _ _

theorem addToVm_view {key id : String} (f : VmInfo → VmInfo) (w : World) :
    view (World.addToVm key id f w).2 = view w := by
  unfold World.addToVm; split
  · split
    · rfl
    · exact changeVm_view hp f w
  · exact changeVm_view hp f w

theorem vmmPing_view (key : String) (w : World) : view (World.vmmPing key w).2 = view w := by
  unfold World.vmmPing; split
  · rfl
  · exact hp _ _

end Untouched

section Preserve
variable {α γ : Type} {P : World → Prop}

/-- `x` keeps the property `P` of the world, whether it returns or fails. -/
def Preserves (P : World → Prop) (x : Pass α) : Prop := ∀ s, P s.1 → P (resultWorld (x s))

theorem Keeps.preserves {β : Type} {view : World → β} {x : Pass α} (hx : Keeps view x)
    (hP : ∀ w w', view w' = view w → P w → P w') : Preserves P x :=
  fun s hs => hP _ _ (hx s) hs

theorem preserves_pure (a : α) : Preserves P (pure a) := fun _ h => h

theorem preserves_throw (e : Abort) : Preserves P (throw e : Pass α) := fun _ h => h

theorem preserves_bind {x : Pass α} {f : α → Pass γ} (hx : Preserves P x) (hf : ∀ a, Preserves P (f a)) :
    Preserves P (x >>= f) := by
  intro s hs
  have := hx s hs
  rcases h : x s with ⟨a, s'⟩ | ⟨e, s'⟩
  · rw [bind_ok h]; rw [h] at this; exact hf a s' this
  · rw [bind_error h]; rw [h] at this; exact this

theorem preserves_call {request : World → Option Call} {act : World → Except Err α × World}
    (hrecord : ∀ w, P w → P (w.record request)) (hact : ∀ w, P w → P (act w).2) :
    Preserves P (call request act) := by
  intro s hs
  obtain ⟨s', ⟨e, hc, he⟩ | ⟨hc, he⟩⟩ := call_cases request act s
  · rw [hc]; show P s'.1; rw [he]; exact hrecord _ hs
  · rw [hc]; show P s'.1; rw [he]; exact hact _ (hrecord _ hs)

theorem preserves_check (msg : String) {x : Pass (Except Err α)} (hx : Preserves P x) :
    Preserves P (check msg x) :=
  preserves_bind hx fun r => by cases r <;> first | exact preserves_pure _ | exact preserves_throw _

theorem preserves_wrapErr (msg : String) {x : Pass α} (hx : Preserves P x) : Preserves P (wrapErr msg x) := by
  intro s hs
  have := hx s hs
  simp only [wrapErr, EStateM.adaptExcept]
  split <;> simp_all [resultWorld]

theorem preserves_ite {c : Prop} [Decidable c] {x y : Pass α} (hx : Preserves P x) (hy : Preserves P y) :
    Preserves P (if c then x else y) := by
  split <;> assumption

theorem preserves_forM {l : List γ} {f : γ → Pass PUnit} (hf : ∀ a, Preserves P (f a)) :
    Preserves P (l.forM f) := by
  induction l with
  | nil => exact preserves_pure _
  | cons a l ih => exact preserves_bind (hf a) fun _ => ih

end Preserve

end CloudHypervisorProvider.Controllers
