import CloudHypervisorProvider.Api

/-! # NIC ids

A NIC object of machine `m` for the interface `n` has the id `NIC--m--n`. The
reconciler and the NIC event handler decode such ids with `strings.Split` on
`"--"`: decoding then encoding gives back every id that decodes, while encoding
then decoding gives back `(m, n)` only when the cut falls where the encoder put
it, which a trailing `'-'` on `m` prevents.
-/

namespace CloudHypervisorProvider.Controllers
open Go

/-- `getNicID`: `fmt.Sprintf("%s--%s--%s", "NIC", machineID, nicName)`. -/
def getNicID (machineID nicName : String) : String :=
  "NIC" ++ "--" ++ machineID ++ "--" ++ nicName

def getNicName (id : String) : Option String :=
  match Strings.split id with
  | [p0, _, p2] => if p0 = "NIC" then some p2 else none
  | _ => none

def getMachineNameFromNicID (id : String) : Option String :=
  match Strings.split id with
  | [p0, p1, _] => if p0 = "NIC" then some p1 else none
  | _ => none

theorem getNicID_data (machineID nicName : String) :
    (getNicID machineID nicName).data =
      "NIC".data ++ '-' :: '-' :: (machineID.data ++ '-' :: '-' :: nicName.data) := by
  simp [getNicID, String.data_append]

theorem split_getNicID {m n : String} (hm : ¬ ['-', '-'] <:+: m.data)
    (hn : ¬ ['-', '-'] <:+: n.data) (hlast : m.data.getLast? ≠ some '-') :
    Strings.split (getNicID m n) = ["NIC", m, n] := by
  rw [Strings.split, getNicID_data, Strings.splitData_append_sep _ (by decide) (by decide),
    Strings.splitData_append_sep _ hm hlast, Strings.splitData_of_not_infix hn]
  rfl

theorem getNicID_of_decode (id m n : String) (hm : getMachineNameFromNicID id = some m)
    (hn : getNicName id = some n) : getNicID m n = id := by
  have hjoin := Strings.join_split id
  unfold getMachineNameFromNicID at hm
  unfold getNicName at hn
  rcases hs : Strings.split id with _ | ⟨p0, _ | ⟨p1, _ | ⟨p2, _ | _⟩⟩⟩ <;>
    simp only [hs, reduceCtorEq] at hm hn
  split_ifs at hm hn with h0
  cases hm; cases hn; subst h0
  rw [hs] at hjoin
  exact String.ext (by simpa [getNicID_data, Strings.join] using hjoin)

theorem getNicID_of_decode_example :
    getMachineNameFromNicID "NIC--m1--eth0" = some "m1" ∧ getNicName "NIC--m1--eth0" = some "eth0" ∧
      getNicID "m1" "eth0" = "NIC--m1--eth0" :=
  ⟨by decide, by decide, getNicID_of_decode _ _ _ (by decide) (by decide)⟩

/-- A machine id ending in `'-'` moves the cut: `NIC--a---b` decodes to `a` and `-b`. -/
theorem nicID_decode_trailing_dash :
    getMachineNameFromNicID (getNicID "a-" "b") = some "a" ∧
      getNicName (getNicID "a-" "b") = some "-b" ∧ getNicID "-" "x" = getNicID "" "-x" := by
  decide

/-- Encoding then decoding returns both parts when neither holds `"--"` and the
machine id does not end in `'-'`. -/
theorem getNicID_decode (m n : String) (hm : ¬ ['-', '-'] <:+: m.data)
    (hn : ¬ ['-', '-'] <:+: n.data) (hlast : m.data.getLast? ≠ some '-') :
    getMachineNameFromNicID (getNicID m n) = some m ∧ getNicName (getNicID m n) = some n := by
  simp [getMachineNameFromNicID, getNicName, split_getNicID hm hn hlast]

theorem getNicID_decode_example :
    (¬ ['-', '-'] <:+: "m1".data ∧ ¬ ['-', '-'] <:+: "eth-0".data ∧ "m1".data.getLast? ≠ some '-') ∧
      getMachineNameFromNicID (getNicID "m1" "eth-0") = some "m1" ∧
      getNicName (getNicID "m1" "eth-0") = some "eth-0" :=
  ⟨⟨by decide, by decide, by decide⟩, getNicID_decode _ _ (by decide) (by decide) (by decide)⟩

theorem getNicID_injOn {m n m' n' : String} (hm : ¬ ['-', '-'] <:+: m.data)
    (hn : ¬ ['-', '-'] <:+: n.data) (hlast : m.data.getLast? ≠ some '-')
    (hm' : ¬ ['-', '-'] <:+: m'.data) (hn' : ¬ ['-', '-'] <:+: n'.data)
    (hlast' : m'.data.getLast? ≠ some '-') (h : getNicID m n = getNicID m' n') :
    m = m' ∧ n = n' := by
  have := split_getNicID hm hn hlast
  rw [h, split_getNicID hm' hn' hlast'] at this
  simp_all

end CloudHypervisorProvider.Controllers
