import Mathlib.Data.List.Basic

/-! # Go's path/filepath on a Unix host

`filepath.Clean` is the loop it runs over a path's elements, on the stack of the
elements it has kept, and `filepath.Join` cleans its arguments joined by separators.
Over it, a `CleanPath` is a path as `Clean` returns it; `clean_eq` and `join_text`
connect the two layers.
-/

namespace CloudHypervisorProvider.Go.Filepath

def dotdot : List Char := ['.', '.']

/-- The elements of a path: the texts between its separators. -/
def elements (path : List Char) : List (List Char) := path.splitOn '/'

def joinElems : List (List Char) → List Char
  | [] => []
  | [e] => e
  | e :: es => e ++ '/' :: joinElems es

def isRooted (path : List Char) : Bool := path.head? == some '/'

/-- Whether `..` can remove the last kept element: there is one, and it is not `..`. -/
def canBacktrack : List (List Char) → Bool
  | e :: _ => e ≠ dotdot
  | [] => false

/-- One element in the loop of `Clean`, on the elements kept so far, the last first. -/
def cleanStep (rooted : Bool) (kept : List (List Char)) (elem : List Char) : List (List Char) :=
  if elem = [] ∨ elem = ['.'] then kept
  else if elem = dotdot then
    if canBacktrack kept then kept.tail else if rooted then kept else elem :: kept
  else elem :: kept

/-- The text `Clean` returns for the kept elements: `.` for none in a relative path. -/
def render (rooted : Bool) (kept : List (List Char)) : List Char :=
  if rooted then '/' :: joinElems kept.reverse
  else if kept = [] then ['.'] else joinElems kept.reverse

/-- `filepath.Clean`. -/
def clean (path : List Char) : List Char :=
  if path = [] then ['.']
  else render (isRooted path) ((elements path).foldl (cleanStep (isRooted path)) [])

/-- `filepath.Join(elem...)`: the elements from the first non-empty one on, joined by
separators and cleaned; empty when every element is. -/
def join (elem : List (List Char)) : List Char :=
  match elem.dropWhile List.isEmpty with
  | [] => []
  | rest => clean (joinElems rest)

/-- An element `Clean` keeps as it is: non-empty, neither `.` nor `..`, no separator. -/
def Normal (e : List Char) : Prop := e ≠ [] ∧ e ≠ ['.'] ∧ e ≠ dotdot ∧ '/' ∉ e

instance : DecidablePred Normal := fun _ => inferInstanceAs (Decidable (_ ∧ _ ∧ _ ∧ _))

@[simp] theorem elements_nil : elements [] = [[]] := rfl

theorem elements_cons_sep (s : List Char) : elements ('/' :: s) = [] :: elements s := by
  simp [elements, List.splitOn]

theorem elements_ne_nil (path : List Char) : elements path ≠ [] := List.splitOnP_ne_nil _ _

theorem elements_of_not_mem {e : List Char} (h : '/' ∉ e) : elements e = [e] :=
  List.splitOnP_eq_single _ _ fun _ hc hs => h (eq_of_beq hs ▸ hc)

theorem elements_append_sep : ∀ (a b : List Char), elements (a ++ '/' :: b) = elements a ++ elements b
  | [], b => elements_cons_sep b
  | c :: a, b => by
    have ih := elements_append_sep a b
    obtain ⟨e, es, he⟩ := List.exists_cons_of_ne_nil (elements_ne_nil a)
    by_cases hc : c = '/'
    · subst hc
      simp only [List.cons_append, elements_cons_sep, ih, List.cons_append]
    · simp only [elements, List.splitOn, List.cons_append, List.splitOnP_cons, beq_iff_eq, hc,
        if_false] at ih he ⊢
      rw [ih, he]
      rfl

theorem not_mem_of_mem_elements : ∀ {path e : List Char}, e ∈ elements path → '/' ∉ e
  | [], e, he => by simp_all
  | c :: path, e, he => by
    obtain ⟨d, ds, hd⟩ := List.exists_cons_of_ne_nil (elements_ne_nil path)
    by_cases hc : c = '/'
    · subst hc
      rw [elements_cons_sep] at he
      rcases List.mem_cons.mp he with rfl | he
      · simp
      · exact not_mem_of_mem_elements he
    · have hsplit : elements (c :: path) = (c :: d) :: ds := by
        simp only [elements, List.splitOn, List.splitOnP_cons, beq_iff_eq, hc, if_false] at hd ⊢
        rw [hd]; rfl
      rw [hsplit] at he
      rcases List.mem_cons.mp he with rfl | he
      · have := not_mem_of_mem_elements (hd ▸ List.mem_cons_self d ds)
        simp [hc, Ne.symm hc, this]
      · exact not_mem_of_mem_elements (hd ▸ List.mem_cons_of_mem d he)

theorem elements_dotdot_sep (s : List Char) : elements ('.' :: '.' :: '/' :: s) = dotdot :: elements s :=
  (elements_append_sep ['.', '.'] s).trans (by rw [elements_of_not_mem (by decide)]; rfl)

theorem elements_joinElems : ∀ {es : List (List Char)}, es ≠ [] → (∀ e ∈ es, '/' ∉ e) →
    elements (joinElems es) = es
  | [e], _, h => elements_of_not_mem (h e (List.mem_singleton_self e))
  | e :: e' :: es, _, h => by
    show elements (e ++ '/' :: joinElems (e' :: es)) = _
    rw [elements_append_sep, elements_of_not_mem (h e (List.mem_cons_self _ _)),
      elements_joinElems (List.cons_ne_nil e' es) fun x hx => h x (List.mem_cons_of_mem _ hx)]
    rfl

theorem isRooted_append {a : List Char} (b : List Char) (ha : a ≠ []) : isRooted (a ++ b) = isRooted a := by
  obtain ⟨c, a, rfl⟩ := List.exists_cons_of_ne_nil ha
  rfl

theorem joinElems_append_singleton : ∀ {es : List (List Char)} (e : List Char), es ≠ [] →
    joinElems (es ++ [e]) = joinElems es ++ '/' :: e
  | [_], _, _ => rfl
  | x :: y :: es, e, _ => by
    show x ++ '/' :: joinElems ((y :: es) ++ [e]) = (x ++ '/' :: joinElems (y :: es)) ++ '/' :: e
    rw [joinElems_append_singleton e (List.cons_ne_nil y es)]
    simp

theorem joinElems_cons (e : List Char) : ∀ es : List (List Char), ∃ rest, joinElems (e :: es) = e ++ rest
  | [] => ⟨[], (List.append_nil e).symm⟩
  | _ :: _ => ⟨_, rfl⟩

theorem Normal.isRooted {e : List Char} (h : Normal e) : isRooted e = false := by
  obtain ⟨c, e, rfl⟩ := List.exists_cons_of_ne_nil h.1
  have hc : c ≠ '/' := fun hc => h.2.2.2 (hc ▸ List.mem_cons_self _ _)
  simp [Filepath.isRooted, hc]

/-- A path as `Clean` returns it: `up` elements `..` (never at the root), then names. -/
@[ext]
structure CleanPath where
  rooted : Bool
  up : Nat
  names : List (List Char)
  names_normal : ∀ e ∈ names, Normal e
  up_of_rooted : rooted = true → up = 0

namespace CleanPath

def empty (rooted : Bool) : CleanPath := ⟨rooted, 0, [], (fun _ h => nomatch h), fun _ => rfl⟩

def ups (k : Nat) : CleanPath := ⟨false, k, [], (fun _ h => nomatch h), fun h => nomatch h⟩

@[simp] theorem ups_rooted (k : Nat) : (ups k).rooted = false := rfl
@[simp] theorem ups_up (k : Nat) : (ups k).up = k := rfl
@[simp] theorem ups_names (k : Nat) : (ups k).names = [] := rfl

def parts (p : CleanPath) : List (List Char) := List.replicate p.up dotdot ++ p.names

def text (p : CleanPath) : List Char := render p.rooted p.parts.reverse

/-- What cleaning does with one more element, one with no separator. -/
def push (p : CleanPath) (elem : List Char) : CleanPath :=
  if h : Normal elem then
    ⟨p.rooted, p.up, p.names ++ [elem],
      fun e he => (List.mem_append.mp he).elim (p.names_normal e) fun he => List.eq_of_mem_singleton he ▸ h,
      p.up_of_rooted⟩
  else if elem = dotdot then
    if p.names ≠ [] then
      ⟨p.rooted, p.up, p.names.dropLast, fun e he => p.names_normal e (List.dropLast_subset _ he),
        p.up_of_rooted⟩
    else if p.rooted then p
    else ups (p.up + 1)
  else p

theorem parts_wf (p : CleanPath) {e : List Char} (he : e ∈ p.parts) :
    e ≠ [] ∧ isRooted e = false ∧ '/' ∉ e := by
  rcases List.mem_append.mp he with he | he
  · rw [List.eq_of_mem_replicate he]; decide
  · have h := p.names_normal e he
    exact ⟨h.1, h.isRooted, h.2.2.2⟩

/-- The cleaned path of a text: cleaning each of its elements in turn. -/
def ofPath (path : List Char) : CleanPath := (elements path).foldl push (empty (isRooted path))

@[simp] theorem push_rooted (p : CleanPath) (elem : List Char) : (p.push elem).rooted = p.rooted := by
  unfold push
  split_ifs <;> simp_all

theorem push_of_normal (p : CleanPath) {elem : List Char} (h : Normal elem) :
    (p.push elem).up = p.up ∧ (p.push elem).names = p.names ++ [elem] := by
  simp [push, h]

theorem push_dotdot (p : CleanPath) (h : p.names ≠ []) :
    (p.push dotdot).up = p.up ∧ (p.push dotdot).names = p.names.dropLast := by
  have : ¬ Normal dotdot := by decide
  simp [push, this, h]

theorem push_of_skip (p : CleanPath) {elem : List Char} (h : elem = [] ∨ elem = ['.']) : p.push elem = p := by
  rcases h with rfl | rfl <;> rfl

theorem foldl_push_of_normal : ∀ {es : List (List Char)} (p : CleanPath), (∀ e ∈ es, Normal e) →
    (es.foldl push p).rooted = p.rooted ∧ (es.foldl push p).up = p.up ∧ (es.foldl push p).names = p.names ++ es
  | [], _, _ => by simp
  | e :: es, p, h => by
    obtain ⟨hr, hu, hn⟩ := foldl_push_of_normal (p.push e) fun x hx => h x (List.mem_cons_of_mem _ hx)
    obtain ⟨hu', hn'⟩ := p.push_of_normal (h e (List.mem_cons_self _ _))
    simp [hr, hu, hn, hu', hn']

theorem foldl_push_dotdot {p : CleanPath} (hr : p.rooted = false) (hn : p.names = []) :
    ∀ k, (List.replicate k dotdot).foldl push p = ups (p.up + k)
  | 0 => by ext <;> simp [hr, hn]
  | k + 1 => by
    have hnd : ¬ Normal dotdot := by decide
    have hstep : p.push dotdot = ups (p.up + 1) := by simp [push, hnd, hn, hr]
    rw [List.replicate_succ, List.foldl_cons, hstep, foldl_push_dotdot rfl rfl k]
    ext <;> simp [Nat.add_right_comm, Nat.add_assoc]

/-- One element of the loop of `Clean` on the kept elements of a cleaned path is the
path's `push`. -/
theorem cleanStep_parts (p : CleanPath) {elem : List Char} (h : '/' ∉ elem) :
    cleanStep p.rooted p.parts.reverse elem = (p.push elem).parts.reverse := by
  by_cases hn : Normal elem
  · obtain ⟨hu, hnames⟩ := p.push_of_normal hn
    have : ¬ (elem = [] ∨ elem = ['.']) := by rintro (rfl | rfl) <;> simp [Normal] at hn
    simp [cleanStep, parts, hu, hnames, this, hn.2.2.1]
  by_cases hd : elem = dotdot
  · subst hd
    have hnd : ¬ Normal dotdot := by decide
    simp only [cleanStep, show ¬ (dotdot = [] ∨ dotdot = ['.']) by decide, if_false, if_true]
    by_cases hnil : p.names = []
    · have hkept : p.parts.reverse = List.replicate p.up dotdot := by simp [parts, hnil]
      have hback : canBacktrack (List.replicate p.up dotdot) = false := by
        rcases p.up with _ | k <;> simp [canBacktrack, List.replicate_succ]
      rw [hkept, hback]
      cases hr : p.rooted
      · simp [push, hnd, hnil, hr, parts]
        rfl
      · simp [push, hnd, hnil, hr, hkept]
    · obtain ⟨hu, hnames⟩ := p.push_dotdot hnil
      obtain ⟨l, x, hx⟩ := (List.eq_nil_or_concat p.names).resolve_left hnil
      have hxn : x ≠ dotdot := (p.names_normal x (by simp [hx])).2.2.1
      simp [parts, hu, hnames, hx, canBacktrack, hxn]
  · have hskip : elem = [] ∨ elem = ['.'] := by
      by_contra hs
      exact hn ⟨fun he => hs (.inl he), fun he => hs (.inr he), hd, h⟩
    simp [cleanStep, hskip, p.push_of_skip hskip]

/-- The loop of `Clean` over elements with no separator is the fold of `push`. -/
theorem foldl_cleanStep : ∀ {es : List (List Char)} (p : CleanPath), (∀ e ∈ es, '/' ∉ e) →
    es.foldl (cleanStep p.rooted) p.parts.reverse = (es.foldl push p).parts.reverse
  | [], _, _ => rfl
  | e :: es, p, h => by
    rw [List.foldl_cons, cleanStep_parts p (h e (List.mem_cons_self _ _)), List.foldl_cons,
      ← foldl_cleanStep (p.push e) fun x hx => h x (List.mem_cons_of_mem _ hx), push_rooted]

theorem foldl_push_rooted : ∀ (es : List (List Char)) (p : CleanPath), (es.foldl push p).rooted = p.rooted
  | [], _ => rfl
  | e :: es, p => by rw [List.foldl_cons, foldl_push_rooted es, push_rooted]

/-- `Clean` returns the text of the cleaned path. -/
theorem clean_eq (path : List Char) : clean path = (ofPath path).text := by
  by_cases hp : path = []
  · subst hp; rfl
  · have h := foldl_cleanStep (empty (isRooted path)) fun e he => @not_mem_of_mem_elements path e he
    simp only [empty, parts, List.replicate_zero, List.nil_append, List.reverse_nil] at h
    simp only [clean, hp, if_false, h, text, ofPath, foldl_push_rooted]
    rfl

theorem ofPath_append_sep {a : List Char} (b : List Char) (ha : a ≠ []) :
    ofPath (a ++ '/' :: b) = (elements b).foldl push (ofPath a) := by
  simp only [ofPath, elements_append_sep, List.foldl_append, isRooted_append _ ha]

theorem text_ne_nil (p : CleanPath) : p.text ≠ [] ∧ isRooted p.text = p.rooted := by
  unfold text render
  split_ifs with hr hk
  · simp [isRooted, hr]
  · simp [isRooted, hr]
  · have hne : p.parts ≠ [] := fun h => hk (by simp [h])
    obtain ⟨e, es, he⟩ := List.exists_cons_of_ne_nil hne
    obtain ⟨he₁, he₂, -⟩ := p.parts_wf (he ▸ List.mem_cons_self e es)
    obtain ⟨rest, hj⟩ := joinElems_cons e es
    rw [List.reverse_reverse, he, hj, isRooted_append _ he₁, he₂]
    simp [he₁, hr]

theorem text_of_parts_ne_nil (p : CleanPath) (h : p.parts ≠ []) :
    p.text = (if p.rooted then ['/'] else []) ++ joinElems p.parts := by
  cases hr : p.rooted <;> simp [text, render, hr, h]

theorem elements_text (p : CleanPath) (h : p.parts ≠ []) :
    elements p.text = (if p.rooted then [[]] else []) ++ p.parts := by
  have hj := elements_joinElems h fun e he => (p.parts_wf he).2.2
  cases hr : p.rooted <;> simp [text_of_parts_ne_nil p h, hr, elements_cons_sep, hj]

theorem text_push (p : CleanPath) {e : List Char} (hp : p.parts ≠ []) (h : Normal e) :
    (p.push e).text = p.text ++ '/' :: e := by
  obtain ⟨hu, hn⟩ := p.push_of_normal h
  have hparts : (p.push e).parts = p.parts ++ [e] := by simp [parts, hu, hn]
  rw [text_of_parts_ne_nil _ (by simp [hparts]), text_of_parts_ne_nil _ hp, hparts, push_rooted,
    joinElems_append_singleton _ hp, List.append_assoc]

theorem push_parts_ne_nil (p : CleanPath) {e : List Char} (h : Normal e) : (p.push e).parts ≠ [] := by
  simp [parts, (p.push_of_normal h).2]

theorem push_normal_dotdot (p : CleanPath) {e : List Char} (h : Normal e) : (p.push e).push dotdot = p := by
  obtain ⟨hu, hn⟩ := p.push_of_normal h
  obtain ⟨hu', hn'⟩ := (p.push e).push_dotdot (by simp [hn])
  exact CleanPath.ext (by simp) (hu'.trans hu) (by rw [hn', hn, List.dropLast_concat])

/-- Cleaning the text of a cleaned path gives the path back. -/
theorem ofPath_text (p : CleanPath) : ofPath p.text = p := by
  have hfold := @foldl_push_of_normal p.names
  cases hr : p.rooted
  · by_cases hparts : p.parts = []
    · obtain ⟨hu, hn⟩ : p.up = 0 ∧ p.names = [] := by simpa [parts] using hparts
      ext <;> simp [ofPath, text, render, hr, hparts, hu, hn, push_of_skip, empty, elements_of_not_mem,
        isRooted]
    · have htext : p.text = joinElems p.parts := by simp [text, render, hr, hparts]
      have hsplit : elements p.text = p.parts := by simpa [hr] using p.elements_text hparts
      have hdots : (List.replicate p.up dotdot).foldl push (empty false) =
          ups p.up := by
        rw [foldl_push_dotdot rfl rfl]; ext <;> simp [empty]
      obtain ⟨h₁, h₂, h₃⟩ := hfold (ups p.up) p.names_normal
      rw [ofPath, hsplit, (text_ne_nil p).2, hr, parts, List.foldl_append, hdots]
      ext <;> simp [h₁, h₂, h₃, hr]
  · have hu := p.up_of_rooted hr
    have htext : p.text = '/' :: joinElems p.names := by simp [text, render, hr, parts, hu]
    by_cases hn : p.names = []
    · ext <;> simp [ofPath, htext, hn, hr, hu, elements_cons_sep, joinElems, push_of_skip, empty, isRooted]
    · have hsplit : elements p.text = [] :: p.names := by
        simpa [hr, parts, hu] using p.elements_text (by simpa [parts, hu] using hn)
      obtain ⟨h₁, h₂, h₃⟩ := hfold (empty true) p.names_normal
      rw [ofPath, hsplit, (text_ne_nil p).2, hr, List.foldl_cons, push_of_skip _ (.inl rfl)]
      exact CleanPath.ext (h₁.trans hr.symm) (h₂.trans hu.symm) h₃

theorem join_pair {a : List Char} (elem : List Char) (ha : a ≠ []) :
    join [a, elem] = ((elements elem).foldl push (ofPath a)).text := by
  have hdrop : [a, elem].dropWhile List.isEmpty = [a, elem] := by
    simp [List.dropWhile_cons, List.isEmpty_iff, ha]
  rw [join, hdrop]
  show clean (a ++ '/' :: elem) = _
  rw [clean_eq, ofPath_append_sep _ ha]

theorem join_normal (a : List Char) {elem : List Char} (h : Normal elem) :
    join [a, elem] = ((ofPath a).push elem).text := by
  by_cases ha : a = []
  · subst ha
    have hdrop : [[], elem].dropWhile List.isEmpty = [elem] := by
      simp [List.dropWhile_cons, List.isEmpty_iff, h.1]
    rw [join, hdrop]
    show clean elem = _
    rw [clean_eq, ofPath, elements_of_not_mem h.2.2.2, h.isRooted]
    rfl
  · rw [join_pair _ ha, elements_of_not_mem h.2.2.2]
    rfl

theorem join_text (p : CleanPath) (elem : List Char) :
    join [p.text, elem] = ((elements elem).foldl push p).text := by
  rw [join_pair _ p.text_ne_nil.1, ofPath_text]

end CleanPath

end CloudHypervisorProvider.Go.Filepath
