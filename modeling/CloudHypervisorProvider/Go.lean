import Mathlib.Data.List.Infix

/-! # The Go runtime and standard library as the provider uses them

Error values compared with `errors.Is`, the two ways a Go call ends other than
by returning nil, the conversion of an `int64` to `float64`, and `strings.Split`
on the `"--"` separator of NIC ids, with the join that inverts it.
-/

namespace CloudHypervisorProvider.Go

/-- Error values as the provider builds and compares them. `wrap msg e` is
`fmt.Errorf("msg: %w", e)`; `other msg` is an error that wraps no sentinel. -/
inductive Err where
  | notFound
  | alreadyExists
  | vmmNotFound
  | vmNotCreated
  | imagePulling
  | other (msg : String)
  | wrap (msg : String) (cause : Err)
  deriving Repr, DecidableEq

namespace Err

/-- `errors.Is(e, target)`: `e` or an error it wraps equals `target`. -/
def is : Err → Err → Bool
  | wrap msg cause, target => decide (wrap msg cause = target) || cause.is target
  | e, target => decide (e = target)

@[simp] theorem is_self (e : Err) : e.is e = true := by
  cases e <;> simp [is]

end Err

/-- How a Go call ends when it does not return normally: with a non-nil error,
or with the runtime panic of a nil pointer dereference. -/
inductive Abort where
  | error (e : Err)
  | nilDereference
  deriving Repr, DecidableEq

/-- `float64(n)` of an `int64` `n`, as the integer it denotes: `n` rounded to a 53-bit
significand, ties to even. -/
def float64OfInt (n : Int) : Int :=
  let k := n.natAbs.log2 - 52
  let m := n.natAbs / Nat.pow 2 k
  let r := n.natAbs % Nat.pow 2 k
  let a := (if Nat.pow 2 k < 2 * r ∨ (2 * r = Nat.pow 2 k ∧ m % 2 = 1) then m + 1 else m) * Nat.pow 2 k
  if n < 0 then -a else a

/-- Below 2^53 the conversion is exact. -/
theorem float64OfInt_of_natAbs_lt {n : Int} (h : n.natAbs < 9007199254740992) : float64OfInt n = n := by
  have hk : n.natAbs.log2 - 52 = 0 := by
    rcases Nat.eq_zero_or_pos n.natAbs with h0 | h0
    · simp [h0]
    · have := (Nat.log2_lt (k := 53) h0.ne').mpr h
      omega
  have hone : Nat.pow 2 0 = 1 := rfl
  simp only [float64OfInt, hk, hone, Nat.div_one, Nat.mod_one, Nat.mul_zero, Nat.mul_one]
  split_ifs with hn hc hc
  · simp at hc
  · rw [Int.ofNat_natAbs_of_nonpos (Int.le_of_lt hn), Int.neg_neg]
  · simp at hc
  · exact Int.natAbs_of_nonneg (Int.not_lt.mp hn)

namespace Strings

def consHead (c : Char) : List (List Char) → List (List Char)
  | [] => [[c]]
  | p :: ps => (c :: p) :: ps

/-- The cutting loop of `strings.Split(s, "--")` on the characters of `s`:
each leftmost non-overlapping `"--"` ends a part. -/
def splitData : List Char → List (List Char)
  | '-' :: '-' :: s => [] :: splitData s
  | c :: s => consHead c (splitData s)
  | [] => [[]]

/-- `strings.Split(s, "--")`. -/
def split (s : String) : List String := (splitData s.data).map String.mk

/-- `strings.Join(parts, "--")`. -/
def join : List (List Char) → List Char
  | [] => []
  | [p] => p
  | p :: q :: ps => p ++ '-' :: '-' :: join (q :: ps)

theorem splitData_cons {c : Char} {s : List Char} (h : ∀ t, c = '-' → s ≠ '-' :: t) :
    splitData (c :: s) = consHead c (splitData s) :=
  splitData.eq_2 c s h

theorem splitData_ne_nil (s : List Char) : splitData s ≠ [] := by
  induction s using splitData.induct with
  | case1 s _ => simp [splitData]
  | case2 c s hc _ =>
    rw [splitData_cons hc]
    cases splitData s <;> simp [consHead]
  | case3 => simp [splitData]

theorem join_consHead (c : Char) {ps : List (List Char)} (h : ps ≠ []) :
    join (consHead c ps) = c :: join ps := by
  match ps, h with
  | [p], _ => rfl
  | p :: q :: ps, _ => rfl

theorem join_splitData (s : List Char) : join (splitData s) = s := by
  induction s using splitData.induct with
  | case1 s ih =>
    obtain ⟨p, ps, hs⟩ := List.exists_cons_of_ne_nil (splitData_ne_nil s)
    simp only [splitData, hs, join] at ih ⊢
    rw [ih]; rfl
  | case2 c s hc ih => rw [splitData_cons hc, join_consHead c (splitData_ne_nil s), ih]
  | case3 => rfl

theorem join_split (s : String) : join ((split s).map String.data) = s.data := by
  simp [split, Function.comp_def, join_splitData]

theorem splitData_of_not_infix {s : List Char} (h : ¬ ['-', '-'] <:+: s) :
    splitData s = [s] := by
  induction s with
  | nil => rfl
  | cons c s ih =>
    have hc : ∀ t, c = '-' → s ≠ '-' :: t := by
      rintro t rfl rfl
      exact h (List.prefix_iff_eq_take.mpr rfl).isInfix
    rw [splitData_cons hc, ih (fun hi => h (hi.trans (List.suffix_cons c s).isInfix))]
    rfl

/-- A part with no `"--"` that does not end in `'-'` is cut exactly at the
separator that follows it. -/
theorem splitData_append_sep {m : List Char} (r : List Char) (hm : ¬ ['-', '-'] <:+: m)
    (hlast : m.getLast? ≠ some '-') : splitData (m ++ '-' :: '-' :: r) = m :: splitData r := by
  induction m with
  | nil => rfl
  | cons c m ih =>
    have hc : ∀ t, c = '-' → m ++ '-' :: '-' :: r ≠ '-' :: t := by
      rintro t rfl hs
      cases m with
      | nil => simp at hlast
      | cons d m =>
        obtain rfl : d = '-' := (List.cons.inj hs).1
        exact hm (List.prefix_iff_eq_take.mpr rfl).isInfix
    have hm' : ¬ ['-', '-'] <:+: m := fun hi => hm (hi.trans (List.suffix_cons c m).isInfix)
    have hlast' : m.getLast? ≠ some '-' := by
      cases m with
      | nil => simp
      | cons d m => rwa [List.getLast?_cons_cons] at hlast
    rw [List.cons_append, splitData_cons hc, ih hm' hlast']
    rfl

end Strings

end CloudHypervisorProvider.Go
