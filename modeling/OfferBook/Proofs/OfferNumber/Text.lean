import OfferBook.OfferNumber

/-! # Offer numbers as text

* `intText_injective`, `padded_injective` — digits tell integers apart, padded ones too.
* `OfferNumber.splitLastDot?_text` — a number is cut where its version begins.
* `OfferNumber.text_injective`, `OfferNumber.rebase_text` — so the text shows base and version,
  and another version keeps the base.
* `OfferNumber.ofCounter_base_iff` — bases tell years and counters apart, however long they get.
-/

namespace OfferBook

/-- Lists are cut alike after the last place of an element. -/
theorem append_cons_inj_of_notMem_right {α : Type} {a : α} {before before' after after' : List α}
    (h : a ∉ after) (h' : a ∉ after')
    (same : before ++ a :: after = before' ++ a :: after') : before = before' ∧ after = after' := by
  have inside {u v l : List α} (notin : a ∉ u) (split : a :: u = l ++ a :: v) :
      l = [] ∧ u = v := by
    cases l with
    | nil => exact ⟨rfl, (List.cons.inj split).2⟩
    | cons b rest =>
      rw [(List.cons.inj split).2] at notin
      exact absurd (List.mem_append_right rest List.mem_cons_self) notin
  rcases List.append_eq_append_iff.mp same with ⟨l, rfl, split⟩ | ⟨l, rfl, split⟩
  · obtain ⟨rfl, rfl⟩ := inside h split
    exact ⟨(List.append_nil _).symm, rfl⟩
  · obtain ⟨rfl, rfl⟩ := inside h' split
    exact ⟨List.append_nil _, rfl⟩

/-! ## Digits -/

theorem toDigits_injective : Function.Injective (Nat.toDigits 10) := by
  intro a b same
  rw [← @Nat.ofDigitChars_ten_toDigits a, same, Nat.ofDigitChars_ten_toDigits]

theorem notMem_toDigits {c : Char} (h : c.isDigit = false) (n : Nat) :
    c ∉ Nat.toDigits 10 n := by
  intro mem
  have := Nat.isDigit_of_mem_toDigits (by decide) (by decide) mem
  rw [h] at this
  exact absurd this Bool.false_ne_true

theorem intChars_injective : Function.Injective intChars := by
  intro a b same
  unfold intChars at same
  have minus (n : Nat) : ∀ r : List Char, Nat.toDigits 10 n ≠ '-' :: r := by
    intro r eq
    exact notMem_toDigits (by decide) n (eq ▸ List.mem_cons_self)
  have magnitude (h : Nat.toDigits 10 a.natAbs = Nat.toDigits 10 b.natAbs) :
      a.natAbs = b.natAbs := toDigits_injective h
  -- A sign in front tells negative integers from the others.
  by_cases ha : a < 0 <;> by_cases hb : b < 0
  · have := magnitude (by simpa [ha, hb] using same)
    omega
  · simp only [ha, hb, if_true, if_false, List.nil_append, List.singleton_append] at same
    exact absurd same.symm (minus _ _)
  · simp only [ha, hb, if_true, if_false, List.nil_append, List.singleton_append] at same
    exact absurd same (minus _ _)
  · have := magnitude (by simpa [ha, hb] using same)
    omega

theorem intText_injective : Function.Injective intText := fun _ _ same =>
  intChars_injective (String.ofList_injective same)

theorem dot_notMem_intChars (n : Int) : '.' ∉ intChars n := by
  have digits := notMem_toDigits (c := '.') (by decide) n.natAbs
  unfold intChars
  split <;> simp [digits]

namespace OfferNumber

theorem toList_padded (n : Nat) :
    (padded n).toList =
      List.replicate (4 - (Nat.toDigits 10 n).length) '0' ++ Nat.toDigits 10 n := by
  have natural : ¬ (n : Int) < 0 := by omega
  simp [padded, natural]

theorem padded_injective {a b : Nat} (same : padded a = padded b) : a = b := by
  -- Zeros in front do not change what digits say.
  have value (n : Nat) : Nat.ofDigitChars 10 (padded n).toList 0 = n := by
    rw [toList_padded, Nat.ofDigitChars_append, Nat.ofDigitChars_replicate_zero, Nat.mul_zero,
      Nat.ofDigitChars_ten_toDigits]
  rw [← value a, same, value b]

theorem dash_notMem_padded (n : Nat) : '-' ∉ (padded n).toList := by
  have digits := notMem_toDigits (c := '-') (by decide) n
  rw [toList_padded]
  simp [digits]

/-! ## Bases and versions -/

theorem splitLastDot?_append {after : List Char} (h : '.' ∉ after) (before : List Char) :
    splitLastDot? (before ++ '.' :: after) = some (before, after) := by
  -- Nothing is cut after the last dot, and before it the cut moves along.
  have none_left : splitLastDot? after = none := by
    clear before
    induction after with
    | nil => rfl
    | cons c rest ih =>
      simp only [List.mem_cons, not_or] at h
      rw [splitLastDot?, ih h.2]
      exact if_neg (Ne.symm h.1)
  induction before with
  | nil => rw [List.nil_append, splitLastDot?, none_left]; rfl
  | cons c rest ih => rw [List.cons_append, splitLastDot?, ih]

theorem text_ne_empty (n : OfferNumber) : n.text ≠ "" := by
  simp [text]

theorem toList_text (n : OfferNumber) :
    n.text.toList = n.base.toList ++ '.' :: intChars n.version := by
  simp [text, intText]

theorem splitLastDot?_text (n : OfferNumber) :
    splitLastDot? n.text.toList = some (n.base.toList, intChars n.version) := by
  rw [toList_text]
  exact splitLastDot?_append (dot_notMem_intChars n.version) _

theorem text_injective : Function.Injective text := by
  intro n n' same
  have parts := n.splitLastDot?_text
  rw [same, splitLastDot?_text] at parts
  obtain ⟨bases, versions⟩ := Prod.mk.inj (Option.some.inj parts)
  cases n
  cases n'
  exact congr (congrArg mk (String.toList_injective bases).symm) (intChars_injective versions).symm

theorem rebase_text {n : OfferNumber} (h : n.base ≠ "") (version : Int) :
    rebase n.text version = n.withVersion version := by
  have filled : n.base.toList ≠ [] := by simpa using h
  rw [rebase, splitLastDot?_text]
  simp only [filled, if_false, String.ofList_toList]
  rfl

variable {officePrefix : String} {year year' : Int} {counter counter' : Nat} {version : Int}

theorem toList_ofCounter_base :
    (ofCounter officePrefix year counter version).base.toList =
      (officePrefix.toList ++ intChars year) ++ '-' :: (padded counter).toList := by
  simp [ofCounter, intText]

theorem ofCounter_base_ne_empty : (ofCounter officePrefix year counter version).base ≠ "" := by
  intro empty
  have := congrArg String.toList empty
  rw [toList_ofCounter_base] at this
  simp at this

/-- The last dash stands between year and counter, even where the year has a sign. -/
theorem ofCounter_base_iff {version' : Int} :
    (ofCounter officePrefix year counter version).base =
        (ofCounter officePrefix year' counter' version').base ↔
      year = year' ∧ counter = counter' := by
  constructor
  · intro same
    have same := congrArg String.toList same
    rw [toList_ofCounter_base, toList_ofCounter_base] at same
    -- Digits have no dash, so the last one stands before the counter.
    obtain ⟨years, counters⟩ := append_cons_inj_of_notMem_right (dash_notMem_padded counter)
      (dash_notMem_padded counter') same
    exact ⟨intChars_injective (List.append_cancel_left years),
      padded_injective (String.toList_injective counters)⟩
  · rintro ⟨rfl, rfl⟩
    rfl

theorem counterKey_injective : Function.Injective counterKey := by
  intro y y' same
  have same := congrArg String.toList same
  simp only [counterKey, String.toList_append] at same
  exact intText_injective (String.toList_injective (List.append_cancel_left same))

end OfferNumber

end OfferBook
