import Mathlib.Data.List.DropRight
import OfferBook.Json.Printer
import OfferBook.Number.Reading
import OfferBook.Text.Blank

/-! # Characters of a kind

* `exists_code_of_isBlank`, `forall_isAsciiDigit` — blanks and digits, one by one, so that what holds
  of all of them can be computed.
* `all_isAsciiDigit_toDigits`, `natOfDigits_toDigits` — the digits of an integer.
* `trimChars_of_ink`, `trim_trim` — what has no blanks to lose; `filter_trimChars` — trimming takes
  away nothing but blanks.
* `splitSign_of_head` — what begins with a digit has no sign; `parseSigned?_intText` — the text of
  an integer.
* `span_append`, `span_of_all` — the characters of a kind at the front of a text, with something
  behind it that is not of the kind.
-/

namespace OfferBook

namespace Text

/-- The code points of the blanks. -/
def blankCodes : List Nat :=
  [9, 10, 11, 12, 13, 0x20, 0x85, 0xA0, 0x1680, 0x2000, 0x2001, 0x2002, 0x2003, 0x2004, 0x2005,
   0x2006, 0x2007, 0x2008, 0x2009, 0x200A, 0x2028, 0x2029, 0x202F, 0x205F, 0x3000]

theorem exists_code_of_isBlank {c : Char} (h : isBlank c) : ∃ n ∈ blankCodes, c = Char.ofNat n := by
  refine ⟨c.toNat, ?_, (Char.ofNat_toNat c).symm⟩
  simp only [isBlank, Bool.or_eq_true, Bool.and_eq_true, decide_eq_true_eq, beq_iff_eq] at h
  simp only [blankCodes, List.mem_cons, List.not_mem_nil, or_false]
  omega

theorem trimChars_of_ink {cs : List Char} (ink : ∀ c ∈ cs, isBlank c = false) :
    trimChars cs = cs := by
  have kept (cs : List Char) (ink : ∀ c ∈ cs, isBlank c = false) : cs.dropWhile isBlank = cs :=
    List.dropWhile_eq_self_iff.mpr fun some => by simp [ink _ (List.getElem_mem some)]
  rw [trimChars, trimLeft, kept cs ink, trimRight,
    kept cs.reverse fun c mem => ink c (List.mem_reverse.mp mem), List.reverse_reverse]

theorem trimChars_trimChars (cs : List Char) : trimChars (trimChars cs) = trimChars cs := by
  have left : trimLeft (trimChars cs) = trimChars cs := by
    refine List.dropWhile_eq_self_iff.mpr fun some => ?_
    -- What is left begins as the text did once its front was trimmed.
    have front : trimChars cs <+: trimLeft cs := List.rdropWhile_prefix isBlank (trimLeft cs)
    have some' : 0 < (trimLeft cs).length := Nat.lt_of_lt_of_le some front.length_le
    rw [front.getElem some]
    exact List.dropWhile_get_zero_not isBlank cs some'
  rw [trimChars, left]
  exact List.rdropWhile_idempotent isBlank (trimLeft cs)

theorem trim_trim (s : String) : trim (trim s) = trim s := by
  simp only [trim, String.toList_ofList, trimChars_trimChars]

theorem filter_dropWhile {p q : Char → Bool} {cs : List Char} (h : ∀ c ∈ cs, q c → p c = false) :
    (cs.dropWhile q).filter p = cs.filter p := by
  induction cs with
  | nil => rfl
  | cons c cs ih =>
    rw [List.forall_mem_cons] at h
    by_cases dropped : q c
    · rw [List.dropWhile_cons_of_pos dropped, ih h.2, List.filter_cons_of_neg]
      simp [h.1 dropped]
    · rw [List.dropWhile_cons_of_neg dropped]

theorem filter_trimChars {p : Char → Bool} {cs : List Char}
    (h : ∀ c ∈ cs, isBlank c → p c = false) : (trimChars cs).filter p = cs.filter p := by
  have left : (trimLeft cs).filter p = cs.filter p := filter_dropWhile h
  have right : ∀ c ∈ (trimLeft cs).reverse, isBlank c → p c = false := by
    intro c mem
    exact h c ((List.dropWhile_sublist _).subset (List.mem_reverse.mp mem))
  rw [trimChars, trimRight, List.filter_reverse, filter_dropWhile right, List.filter_reverse,
    List.reverse_reverse, left]

/-- What holds of the ten digits holds of each. -/
@[elab_as_elim]
theorem forall_isAsciiDigit {motive : Char → Prop} {c : Char} (h : isAsciiDigit c)
    (codes : ∀ n ∈ List.range' 48 10, motive (Char.ofNat n)) : motive c := by
  simp only [isAsciiDigit, Bool.and_eq_true, decide_eq_true_eq, Char.le_def] at h
  have low : 48 ≤ c.toNat := h.1
  have high : c.toNat ≤ 57 := h.2
  have mem : c.toNat ∈ List.range' 48 10 := by
    simp only [List.mem_range'_1]
    omega
  exact Char.ofNat_toNat c ▸ codes c.toNat mem

theorem isBlank_of_isAsciiDigit {c : Char} (h : isAsciiDigit c) : isBlank c = false :=
  forall_isAsciiDigit h (by decide)

theorem isAsciiDigit_of_isDigit {c : Char} (h : c.isDigit = true) : isAsciiDigit c = true := by
  simpa [isAsciiDigit, Char.isDigit, Char.le_def] using h

theorem all_isAsciiDigit_toDigits (n : Nat) : (Nat.toDigits 10 n).all isAsciiDigit = true :=
  List.all_eq_true.mpr fun _ hc =>
    isAsciiDigit_of_isDigit (Nat.isDigit_of_mem_toDigits (by decide) (by decide) hc)

theorem natOfDigits_toDigits (n : Nat) : natOfDigits (Nat.toDigits 10 n) = n :=
  Nat.ofDigitChars_ten_toDigits

section Spans

variable {p : Char → Bool} {rest : List Char}

/-- What stands behind a text is not taken with it. -/
theorem span_append (cs : List Char) (behind : ∀ d ∈ rest.head?, p d = false) :
    (cs ++ rest).takeWhile p = cs.takeWhile p ∧
      (cs ++ rest).dropWhile p = cs.dropWhile p ++ rest := by
  induction cs with
  | nil =>
    cases rest with
    | nil => exact ⟨rfl, rfl⟩
    | cons d r => simp [behind d rfl]
  | cons c cs ih =>
    cases hc : p c with
    | false => simp [hc]
    | true => simp [hc, ih]

theorem span_of_all {cs : List Char} (all : cs.all p) (behind : ∀ d ∈ rest.head?, p d = false) :
    (cs ++ rest).takeWhile p = cs ∧ (cs ++ rest).dropWhile p = rest := by
  have every := List.all_eq_true.mp all
  obtain ⟨taken, left⟩ := span_append [] behind
  rw [List.takeWhile_append_of_pos every, List.dropWhile_append_of_pos every]
  rw [List.nil_append] at taken left
  rw [taken, left]
  exact ⟨List.append_nil cs, rfl⟩

end Spans

end Text

theorem splitSign_of_head {cs : List Char} (digit : ∀ c ∈ cs.head?, isAsciiDigit c) :
    splitSign cs = (false, cs) := by
  unfold splitSign
  split
  · exact absurd (digit '-' rfl) (by decide)
  · exact absurd (digit '+' rfl) (by decide)
  · rfl

theorem splitSign_digits {cs : List Char} (digits : cs.all isAsciiDigit) :
    splitSign cs = (false, cs) :=
  splitSign_of_head fun c first => List.all_eq_true.mp digits c (List.mem_of_mem_head? first)

theorem intOfChars?_intChars (n : Int) : intOfChars? (intChars n) = some n := by
  have digits := Text.all_isAsciiDigit_toDigits n.natAbs
  have value := Text.natOfDigits_toDigits n.natAbs
  have some : Nat.toDigits 10 n.natAbs ≠ [] := Nat.toDigits_ne_nil
  unfold intOfChars? intChars
  by_cases negative : n < 0
  · simp only [negative, if_true, List.singleton_append, splitSign, some, digits, value, ne_eq,
      not_false_eq_true, and_self, Option.some.injEq]
    omega
  · simp only [negative, if_false, List.nil_append, splitSign_digits digits, some, digits, value,
      ne_eq, not_false_eq_true, and_self, if_true, Bool.false_eq_true, Option.some.injEq]
    omega

/-- An integer is written with digits and a minus sign. -/
theorem mem_intChars {n : Int} {c : Char} (mem : c ∈ intChars n) :
    c = '-' ∨ isAsciiDigit c = true := by
  rcases List.mem_append.mp mem with sign | digit
  · split at sign
    · exact .inl (List.mem_singleton.mp sign)
    · exact absurd sign List.not_mem_nil
  · exact .inr (List.all_eq_true.mp (Text.all_isAsciiDigit_toDigits n.natAbs) c digit)

theorem trimChars_intChars (n : Int) : Text.trimChars (intChars n) = intChars n := by
  refine Text.trimChars_of_ink fun c mem => ?_
  rcases mem_intChars mem with rfl | digit
  · decide
  · exact Text.isBlank_of_isAsciiDigit digit

/-- The text of an integer of 64 bits is read as the integer. -/
theorem parseSigned?_intText {n : Int} (fits : fitsSigned n = true) :
    parseSigned? (Text.trimChars (intText n).toList) = some n := by
  rw [intText, String.toList_ofList, trimChars_intChars, parseSigned?, intOfChars?_intChars,
    Option.filter_some, if_pos fits]

end OfferBook
