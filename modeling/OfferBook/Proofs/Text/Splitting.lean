import OfferBook.Text.Blank

/-! # Texts that are split

* `split_eq_splitOn` — splitting is that of lists.
* `split_of_notMem`, `split_append` — the parts, one after the other.
* `intercalate_split`, `notMem_of_mem_split` — the parts are what stands between the separators.
-/

namespace OfferBook.Text

variable {separator : Char} {part : List Char}

theorem split_eq_splitOn (separator : Char) (cs : List Char) :
    split separator cs = cs.splitOn separator := by
  induction cs with
  | nil => rfl
  | cons c r ih =>
    rw [split, ih, List.splitOn_cons_eq_if_modifyHead]
    cases parts : r.splitOn separator with
    | nil => exact absurd parts (List.splitOn_ne_nil separator r)
    | cons part parts => simp

theorem split_of_notMem (h : separator ∉ part) : split separator part = [part] := by
  rw [split_eq_splitOn, List.splitOn_eq_singleton h]

theorem split_append {rest : List Char} (h : separator ∉ part) :
    split separator (part ++ separator :: rest) = part :: split separator rest := by
  rw [split_eq_splitOn, List.splitOn_append_cons_self_of_not_mem h, split_eq_splitOn]

theorem split_ne_nil (separator : Char) (cs : List Char) : split separator cs ≠ [] := by
  rw [split_eq_splitOn]
  exact List.splitOn_ne_nil separator cs

theorem intercalate_split (separator : Char) (cs : List Char) :
    [separator].intercalate (split separator cs) = cs := by
  rw [split_eq_splitOn, List.intercalate_splitOn]

theorem notMem_of_mem_split {cs : List Char} : ∀ part ∈ split separator cs, separator ∉ part := by
  induction cs with
  | nil => simp [split]
  | cons c r ih =>
    by_cases h : c = separator
    · simpa [split, h] using ih
    · cases parts : split separator r with
      | nil => simp [split, h, parts, Ne.symm h]
      | cons part parts' =>
        rw [parts, List.forall_mem_cons] at ih
        simpa [split, h, parts, Ne.symm h] using ih

end OfferBook.Text
