import CloudHypervisorProvider.Go
import CloudHypervisorProvider.Host.Layout

/-! # The operating system as the ceph volume plugins use it

The host holds the files (as bytes), the sockets, the processes, the signals sent and
the QMP monitor's block nodes and exports. Each call either fails with no effect, as
the next entry of a fault script says, or is answered by the host.
-/

namespace CloudHypervisorProvider.Plugins.Ceph
open Go

/-- `[]byte(s)`: the UTF-8 encoding of a string. -/
def bytes (s : String) : List UInt8 := s.data.flatMap String.utf8EncodeChar

@[simp] theorem bytes_append (s t : String) : bytes (s ++ t) = bytes s ++ bytes t := by
  simp [bytes, List.flatMap_append]

/-- `fmt.Sprintf("%s", n)` of an `int`: the verb does not apply, and Go prints it as such. -/
def sprintfS (n : Nat) : String := "%!s(int=" ++ toString n ++ ")"

def isDigit (c : UInt8) : Bool := 48 ≤ c && c ≤ 57

def digitsValue (ds : List UInt8) : Nat := ds.foldl (fun n c => 10 * n + (c.toNat - 48)) 0

/-- `strconv.Atoi(string(s))`: an optional sign, then one or more decimal digits, of a
value in the range of a 64-bit `int`. The error leaves out the quoted input. -/
def atoi (s : List UInt8) : Except Err Int :=
  let (neg, ds) : Bool × List UInt8 := match s with
    | c :: ds => if c = 45 then (true, ds) else if c = 43 then (false, ds) else (false, s)
    | [] => (false, [])
  if ds = [] ∨ ds.any (fun c => !isDigit c) then .error (.other "strconv.Atoi: invalid syntax")
  else
    let n : Int := if neg then -(digitsValue ds : Int) else digitsValue ds
    -- the range of a 64-bit int, from -2^63 to 2^63 - 1
    if n < -9223372036854775808 ∨ 9223372036854775808 ≤ n then .error (.other "strconv.Atoi: value out of range")
    else .ok n

theorem atoi_of_head {c : UInt8} (rest : List UInt8) (hc : c ≠ 45 ∧ c ≠ 43 ∧ isDigit c = false) :
    atoi (c :: rest) = .error (.other "strconv.Atoi: invalid syntax") := by
  simp [atoi, hc.1, hc.2.1, hc.2.2]

structure BlockDevice where
  nodeName : String
  deriving DecidableEq, Repr

structure BlockExportNode where
  nodeName : String
  id : String
  deriving DecidableEq, Repr

structure Monitor where
  nodes : List BlockDevice
  exports : List BlockExportNode
  deriving DecidableEq, Repr

/-- The host: file contents, the Unix sockets with whether a daemon listens on each,
the running processes, every pid `SIGKILL` was sent to, in order, and the monitor. -/
structure Host where
  files : String → Option (List UInt8)
  sockets : String → Option Bool
  processes : List Nat
  nextPid : Nat
  kills : List Int
  monitor : Monitor

def Host.write (h : Host) (path : String) (content : List UInt8) : Host :=
  { h with files := fun p => if p = path then some content else h.files p }

def Host.setSocket (h : Host) (path : String) (listening : Option Bool) : Host :=
  { h with sockets := fun p => if p = path then listening else h.sockets p }

@[simp] theorem Host.write_files (h : Host) (path : String) (content : List UInt8) (p : String) :
    (h.write path content).files p = if p = path then some content else h.files p := rfl

abbrev Faults := List (Option Err)

abbrev Op := EStateM Err (Host × Faults)

def resultHost {α : Type} : EStateM.Result Err (Host × Faults) α → Host
  | .ok _ s => s.1
  | .error _ s => s.1

def resultState {α : Type} : EStateM.Result Err (Host × Faults) α → Host × Faults
  | .ok _ s => s
  | .error _ s => s

def liftExcept {α : Type} : Except Err α → Op α
  | .ok a => pure a
  | .error e => throw e

/-- One call into the operating system. The next scripted fault, if any, makes it fail
with no effect; otherwise the host answers. -/
def sys {α : Type} (act : Host → Except Err α × Host) : Op α := fun (h, fs) =>
  match fs with
  | some e :: rest => .error e (h, rest)
  | none :: rest => match act h with
    | (.ok a, h') => .ok a (h', rest)
    | (.error e, h') => .error e (h', rest)
  | [] => match act h with
    | (.ok a, h') => .ok a (h', [])
    | (.error e, h') => .error e (h', [])

/-- `fmt.Errorf("msg: %w", err)` around a computation that fails. -/
def errorf {α : Type} (msg : String) (x : Op α) : Op α := fun s =>
  match x s with
  | .ok a s' => .ok a s'
  | .error e s' => .error (.wrap msg e) s'

/-- `os.MkdirAll(path, perm)`; directories are not modelled, so it only may fail. -/
def mkdirAll (_path : String) : Op Unit := sys fun h => (.ok (), h)

def isSocketPresent (path : String) : Op Bool := sys fun h => (.ok (h.sockets path).isSome, h)

def isSocketActive (path : String) : Op Bool := sys fun h => (.ok (h.sockets path = some true), h)

def cleanupSocketIfExists (path : String) : Op Unit := sys fun h => (.ok (), h.setSocket path none)

/-- `process.Start()` of `qemu-storage-daemon`: the new process's pid. -/
def startProcess : Op Nat :=
  sys fun h => (.ok h.nextPid, { h with processes := h.nextPid :: h.processes, nextPid := h.nextPid + 1 })

/-- `waitForSocketWithTimeout(ctx, 2*time.Second, path)`: the daemon has bound the
socket and listens on it. -/
def waitForSocketWithTimeout (path : String) : Op Unit := sys fun h => (.ok (), h.setSocket path (some true))

/-- `os.OpenFile(path, os.O_CREATE|os.O_WRONLY, perm)`: the file, created empty when
missing. -/
def openFile (path : String) : Op Unit := sys fun h => (.ok (), h.write path ((h.files path).getD []))

/-- What writing a text at the start of a file leaves in it: the text's bytes, then what
the old file held beyond them. -/
def overwrite (data : String) (old : Option (List UInt8)) : List UInt8 :=
  bytes data ++ (old.getD []).drop (bytes data).length

/-- `f.WriteString(data)` on a file just opened without `O_TRUNC`. -/
def writeString (path data : String) : Op Unit :=
  sys fun h => (.ok (), h.write path (overwrite data (h.files path)))

def readFile (path : String) : Op (List UInt8) :=
  sys fun h => (match h.files path with
    | some content => .ok content
    | none => .error (.other "no such file or directory"), h)

/-- `syscall.Kill(pid, syscall.SIGKILL)`: the signal is sent, and a process with that
pid ends. -/
def kill (pid : Int) : Op Unit :=
  sys fun h =>
    let h := { h with kills := h.kills ++ [pid] }
    if pid ∈ h.processes.map Int.ofNat then (.ok (), { h with processes := h.processes.filter (fun n => (n : Int) ≠ pid) })
    else (.error (.other "no such process"), h)

section Monad
variable {α β : Type} {x : Op α} {f : α → Op β} {s : Host × Faults}

@[simp] theorem op_pure_apply (a : α) : (pure a : Op α) s = .ok a s := rfl

@[simp] theorem op_throw_apply (e : Err) : (throw e : Op α) s = .error e s := rfl

theorem op_bind_ok {a : α} {s' : Host × Faults} (h : x s = .ok a s') : (x >>= f) s = f a s' := by
  simp only [bind, EStateM.bind, h]

theorem op_bind_error {e : Err} {s' : Host × Faults} (h : x s = .error e s') :
    (x >>= f) s = .error e s' := by
  simp only [bind, EStateM.bind, h]

theorem op_bind_eq_ok {b : β} {s'' : Host × Faults} :
    (x >>= f) s = .ok b s'' ↔ ∃ a s', x s = .ok a s' ∧ f a s' = .ok b s'' := by
  rcases h : x s with ⟨a, s'⟩ | ⟨e, s'⟩
  · rw [op_bind_ok h]
    exact ⟨fun hf => ⟨a, s', rfl, hf⟩, fun ⟨_, _, he, hf⟩ => by cases he; exact hf⟩
  · rw [op_bind_error h]
    simp

theorem errorf_eq_ok {msg : String} {a : α} {s' : Host × Faults} : errorf msg x s = .ok a s' ↔ x s = .ok a s' := by
  unfold errorf
  split <;> simp_all

theorem sys_eq_ok {act : Host → Except Err α × Host} {a : α} {s' : Host × Faults} (h : sys act s = .ok a s') :
    (act s.1).1 = .ok a ∧ s'.1 = (act s.1).2 := by
  obtain ⟨host, fs⟩ := s
  rcases hact : act host with ⟨_ | a', host'⟩ <;> rcases fs with _ | ⟨_ | e, fs⟩ <;>
    simp only [sys, hact] at h <;> cases h <;> simp [hact]

theorem sys_host (act : Host → Except Err α × Host) (s : Host × Faults) :
    resultHost (sys act s) = s.1 ∨ resultHost (sys act s) = (act s.1).2 := by
  obtain ⟨host, _ | ⟨_ | e, fs⟩⟩ := s <;> simp only [sys] <;>
    rcases act host with ⟨_ | _, _⟩ <;> simp [resultHost]

end Monad

section Preserves
variable {α β : Type} (P : Host → Prop)

/-- `x` keeps `P` of the host, whether it returns or fails. -/
def Preserves (x : Op α) : Prop := ∀ s, P s.1 → P (resultHost (x s))

variable {P}

theorem preserves_pure (a : α) : Preserves P (pure a) := fun _ h => h

theorem preserves_throw (e : Err) : Preserves P (throw e : Op α) := fun _ h => h

theorem preserves_bind {x : Op α} {f : α → Op β} (hx : Preserves P x) (hf : ∀ a, Preserves P (f a)) :
    Preserves P (x >>= f) := by
  intro s hs
  have := hx s hs
  rcases h : x s with ⟨a, s'⟩ | ⟨e, s'⟩
  · rw [op_bind_ok h]; rw [h] at this; exact hf a s' this
  · rw [op_bind_error h]; rw [h] at this; exact this

theorem preserves_sys {act : Host → Except Err α × Host} (hact : ∀ h, P h → P (act h).2) :
    Preserves P (sys act) := by
  intro s hs
  rcases sys_host act s with h | h <;> rw [h]
  · exact hs
  · exact hact _ hs

theorem preserves_errorf (msg : String) {x : Op α} (hx : Preserves P x) : Preserves P (errorf msg x) := by
  intro s hs
  have := hx s hs
  simp only [errorf]
  split <;> simp_all [resultHost]

theorem preserves_ite {c : Prop} [Decidable c] {x y : Op α} (hx : Preserves P x) (hy : Preserves P y) :
    Preserves P (if c then x else y) := by
  split
  · exact hx
  · exact hy

section Result
variable {x : Op α} {s s' : Host × Faults}

theorem Preserves.of_ok {a : α} (hx : Preserves P x) (h : x s = .ok a s') (hs : P s.1) : P s'.1 := by
  simpa [h, resultHost] using hx s hs

theorem Preserves.of_error {e : Err} (hx : Preserves P x) (h : x s = .error e s') (hs : P s.1) : P s'.1 := by
  simpa [h, resultHost] using hx s hs

end Result

theorem preserves_read {act : Host → Except Err α × Host} (hact : ∀ h, (act h).2 = h) : Preserves P (sys act) :=
  preserves_sys fun h hh => (hact h).symm ▸ hh

end Preserves

/-- The first byte of the file at a path, once written. -/
def FirstByte (c : UInt8) (path : String) (h : Host) : Prop := ∃ rest, h.files path = some (c :: rest)

section FirstByte
variable {c : UInt8} {path : String}

theorem openFile_firstByte (p : String) : Preserves (FirstByte c path) (openFile p) :=
  preserves_sys fun h ⟨rest, hr⟩ => ⟨rest, by by_cases hp : path = p <;> simp_all [FirstByte]⟩

theorem writeString_firstByte {p data : String} (hp : p ≠ path ∨ (bytes data).head? = some c) :
    Preserves (FirstByte c path) (writeString p data) := by
  refine preserves_sys fun h ⟨rest, hr⟩ => ?_
  by_cases hpath : path = p
  · subst hpath
    obtain ⟨d, ds, hd⟩ := List.exists_cons_of_ne_nil (fun hnil : bytes data = [] => by simp_all)
    simp only [hd, List.head?_cons, Option.some.injEq] at hp
    obtain rfl : d = c := hp.resolve_left (not_not.mpr rfl)
    exact ⟨ds ++ ((h.files path).getD []).drop (bytes data).length, by simp [overwrite, hd]⟩
  · exact ⟨rest, by simp [hpath, hr]⟩

theorem sys_firstByte {α : Type} {act : Host → Except Err α × Host} (hact : ∀ h, (act h).2.files = h.files) :
    Preserves (FirstByte c path) (sys act) :=
  preserves_sys fun h ⟨rest, hr⟩ => ⟨rest, by rw [hact]; exact hr⟩

end FirstByte

end CloudHypervisorProvider.Plugins.Ceph
