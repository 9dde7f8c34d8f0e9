import OfferBook.Number.German
import OfferBook.Proofs.Number.Decimals

/-! # Amounts in German notation

Figures with dots between groups of digits, with a comma for the point and with spaces.

* `Grouped`, `Spaced`, `Writes` — which texts write given figures.
* `squeeze_of_spaced` — the spaces go away, and no other character does.
* `normalize_of_comma` — the dots go away, and a point comes in the place of the first comma.
* `comma_mem_normalize` — a second comma stays.
* `amounts_are_read_at_their_value` — an amount is read as its figures with a point are.
-/

namespace OfferBook.German

/-! ## Notation -/

/-- Integer digits and how they are written: in one piece, or in groups of three with dots between
    them, of which the first may be shorter. -/
inductive Grouped : List Char → List Char → Prop
  | whole (digits : List Char) : Grouped digits digits
  | dotted (first : List Char) (groups : List (List Char)) (some : first ≠ [])
      (short : first.length ≤ 3) (three : ∀ group ∈ groups, group.length = 3) :
      Grouped (first ++ groups.flatten) (first ++ groups.flatMap ('.' :: ·))

/-- A text and the same text with spaces and no-break spaces in it. -/
inductive Spaced : List Char → List Char → Prop
  | nil : Spaced [] []
  | char (c : Char) {cs text : List Char} (rest : Spaced cs text) : Spaced (c :: cs) (c :: text)
  | space {cs text : List Char} (rest : Spaced cs text) : Spaced cs (' ' :: text)
  | noBreakSpace {cs text : List Char} (rest : Spaced cs text) : Spaced cs ('\u00a0' :: text)

/-- The text writes the figures in German notation. -/
def Writes (text : String) (f : Figures) : Prop :=
  ∃ digits, Grouped f.whole digits ∧
    Spaced (f.signChars ++ (digits ++ ',' :: f.fraction)) text.toList

/-! ## Spaces -/

theorem Spaced.filter {cs text : List Char} (h : Spaced cs text) :
    text.filter (!isFiller ·) = cs.filter (!isFiller ·) := by
  induction h with
  | nil => rfl
  | char c rest ih => simp only [List.filter_cons, ih]
  | space rest ih => exact ih
  | noBreakSpace rest ih => exact ih

theorem Spaced.isFiller_of_isBlank {cs text : List Char} (h : Spaced cs text)
    (ink : ∀ c ∈ cs, Text.isBlank c = false) : ∀ c ∈ text, Text.isBlank c → isFiller c := by
  induction h with
  | nil => simp
  | char c rest ih =>
    rw [List.forall_mem_cons] at ink ⊢
    exact ⟨by simp [ink.1], ih ink.2⟩
  | space rest ih => exact List.forall_mem_cons.mpr ⟨fun _ => rfl, ih ink⟩
  | noBreakSpace rest ih => exact List.forall_mem_cons.mpr ⟨fun _ => rfl, ih ink⟩

theorem not_isFiller_of_ink {c : Char} (ink : Text.isBlank c = false) : isFiller c = false := by
  refine Bool.eq_false_iff.mpr fun filler => absurd ink ?_
  simp only [isFiller, Bool.or_eq_true, decide_eq_true_eq] at filler
  rcases filler with rfl | rfl <;> decide

theorem squeeze_of_spaced {cs text : List Char} (h : Spaced cs text)
    (ink : ∀ c ∈ cs, Text.isBlank c = false) : squeeze text = cs := by
  have fillers : ∀ c ∈ text, Text.isBlank c → (!isFiller c) = false := by
    intro c mem blank
    rw [h.isFiller_of_isBlank ink c mem blank]
    rfl
  rw [squeeze, Text.filter_trimChars fillers, h.filter, List.filter_eq_self]
  intro c mem
  rw [not_isFiller_of_ink (ink c mem)]
  rfl

/-! ## Dots and commas -/

theorem Grouped.mem {digits written : List Char} (h : Grouped digits written) {c : Char}
    (mem : c ∈ written) : c = '.' ∨ c ∈ digits := by
  cases h with
  | whole => exact .inr mem
  | dotted first groups some short three =>
    simp only [List.mem_append, List.mem_flatMap, List.mem_cons, List.mem_flatten] at mem ⊢
    rcases mem with first | ⟨group, mem, dot | digit⟩
    · exact .inr (.inl first)
    · exact .inl dot
    · exact .inr (.inr ⟨group, mem, digit⟩)

theorem filter_dots_of_notMem {cs : List Char} (noDot : '.' ∉ cs) : cs.filter (· ≠ '.') = cs := by
  rw [List.filter_eq_self]
  exact fun c mem => decide_eq_true fun same => noDot (same ▸ mem)

/-- Without the dots the groups are one piece again. -/
theorem Grouped.filter {digits written : List Char} (h : Grouped digits written)
    (noDot : '.' ∉ digits) : written.filter (· ≠ '.') = digits := by
  cases h with
  | whole => exact filter_dots_of_notMem noDot
  | dotted first groups some short three =>
    have dropped (cs : List Char) : ('.' :: cs).filter (· ≠ '.') = cs.filter (· ≠ '.') := rfl
    rw [List.filter_append, List.filter_flatMap]
    simp only [dropped]
    rw [List.flatMap_def, ← List.filter_flatten, ← List.filter_append,
      filter_dots_of_notMem noDot]

theorem normalize_of_comma {front : List Char} (first : ',' ∉ front) (rest : List Char) :
    normalize (front ++ ',' :: rest) =
      front.filter (· ≠ '.') ++ '.' :: rest.filter (· ≠ '.') := by
  have all : (front.filter (· ≠ '.')).all (· ≠ ',') := by
    rw [List.all_eq_true]
    exact fun c mem => decide_eq_true fun same => first (same ▸ (List.mem_filter.mp mem).1)
  have behind : ∀ d ∈ (',' :: rest.filter (· ≠ '.')).head?, decide (d ≠ ',') = false := by simp
  obtain ⟨taken, left⟩ := Text.span_of_all all behind
  rw [normalize, if_pos (by simp), List.filter_append, List.filter_cons_of_pos (by decide),
    pointForComma, taken, left]

theorem comma_mem_normalize {cs : List Char} (commas : 2 ≤ cs.count ',') : ',' ∈ normalize cs := by
  obtain ⟨front, rest, rfl, first⟩ :=
    List.eq_append_cons_of_mem (List.count_pos_iff.mp (Nat.lt_of_lt_of_le Nat.zero_lt_two commas))
  rw [List.count_append, List.count_cons_self, List.count_eq_zero.mpr first] at commas
  have second : ',' ∈ rest := List.count_pos_iff.mp (by omega)
  rw [normalize_of_comma first]
  exact List.mem_append_right _ (List.mem_cons_of_mem _ (List.mem_filter.mpr ⟨second, by decide⟩))

/-- Commas are no spaces. -/
theorem count_comma_squeeze (cs : List Char) : (squeeze cs).count ',' = cs.count ',' := by
  have ink : ∀ c ∈ cs, Text.isBlank c → (c == ',') = false := by
    intro c _ blank
    exact beq_eq_false_iff_ne.mpr fun same => absurd (same ▸ blank) (by decide)
  rw [squeeze, List.count_filter (by decide), List.count_eq_length_filter, Text.filter_trimChars ink,
    List.count_eq_length_filter]

theorem parse?_of_commas {text : String} (commas : 2 ≤ text.toList.count ',') :
    parse? text = none := by
  rw [← count_comma_squeeze] at commas
  rw [parse?, Double.parseChars?,
    Decimal.ofChars?_eq_none (c := ',') (by decide) (comma_mem_normalize commas)]
  rfl

/-! ## Amounts -/

theorem exists_sign_of_mem_signChars {f : Figures} {c : Char} (mem : c ∈ f.signChars) :
    ∃ s : Sign, c = s.char := by
  unfold Figures.signChars at mem
  obtain ⟨s, -, same⟩ := Option.map_eq_some_iff.mp (Option.mem_toList.mp mem)
  exact ⟨s, same.symm⟩

theorem isDecimalChar_of_digits {cs : List Char} (digits : cs.all isAsciiDigit) {c : Char}
    (mem : c ∈ cs) : isDecimalChar c :=
  isDecimalChar_of_isAsciiDigit (List.all_eq_true.mp digits c mem)

/-- What decimals are written with is neither a blank nor a comma. -/
theorem isDecimalChar_ink {c : Char} (h : isDecimalChar c) : Text.isBlank c = false ∧ c ≠ ',' := by
  rcases isDecimalChar_cases h with digit | other
  · exact Text.forall_isAsciiDigit digit (by decide)
  · rcases other with rfl | rfl | rfl | rfl | rfl <;> decide

section Writing

variable {f : Figures} {digits : List Char}

theorem isDecimalChar_of_mem_front (grouped : Grouped f.whole digits) :
    ∀ c ∈ f.signChars ++ digits, isDecimalChar c := by
  intro c mem
  rcases List.mem_append.mp mem with sign | digit
  · obtain ⟨s, rfl⟩ := exists_sign_of_mem_signChars sign
    cases s <;> rfl
  · rcases grouped.mem digit with rfl | whole
    · rfl
    · exact isDecimalChar_of_digits f.whole_digits whole

theorem dot_notMem_of_digits {cs : List Char} (digits : cs.all isAsciiDigit) : '.' ∉ cs :=
  fun mem => absurd (List.all_eq_true.mp digits '.' mem) (by decide)

theorem dot_notMem_signChars (f : Figures) : '.' ∉ f.signChars := by
  intro mem
  obtain ⟨s, same⟩ := exists_sign_of_mem_signChars mem
  cases s <;> exact absurd same (by decide)

/-- What is left of an amount is its figures with a point. -/
theorem normalize_of_writes {text : String} (writes : Writes text f) :
    normalize (squeeze text.toList) = f.plain := by
  obtain ⟨digits, grouped, spaced⟩ := writes
  have front := isDecimalChar_of_mem_front grouped
  have ink : ∀ c ∈ f.signChars ++ (digits ++ ',' :: f.fraction), Text.isBlank c = false := by
    intro c mem
    rw [← List.append_assoc, List.mem_append, List.mem_cons] at mem
    rcases mem with mem | rfl | mem
    · exact (isDecimalChar_ink (front c mem)).1
    · decide
    · exact (isDecimalChar_ink (isDecimalChar_of_digits f.fraction_digits mem)).1
  have comma : ',' ∉ f.signChars ++ digits := fun mem => (isDecimalChar_ink (front ',' mem)).2 rfl
  rw [squeeze_of_spaced spaced ink, ← List.append_assoc, normalize_of_comma comma,
    List.filter_append, filter_dots_of_notMem (dot_notMem_signChars f),
    grouped.filter (dot_notMem_of_digits f.whole_digits),
    filter_dots_of_notMem (dot_notMem_of_digits f.fraction_digits), List.append_assoc,
    Figures.plain]

end Writing

/-- Figures in German notation have the value of the same figures with a point, unless that is not
    finite; then they have none. A text with two commas or more has none, either. For any text, a
    number is found just where what is left of the text has this number for its value, so never
    where that is infinite or no number. -/
theorem amounts_are_read_at_their_value :
    (∀ (f : Figures) (text : String), Writes text f →
      Binary64.ofChars? f.plain = some (.ofDecimal f.decimal) ∧
        parse? text = (Binary64.ofDecimal f.decimal).finite?) ∧
    (∀ text : String, 2 ≤ text.toList.count ',' → parse? text = none) ∧
    ∀ (text : String) (d : Double), parse? text = some d ↔
      Binary64.ofChars? (normalize (squeeze text.toList)) = some (.finite d) := by
  refine ⟨fun f text writes => ⟨f.value_plain, ?_⟩, fun text => parse?_of_commas, fun text d => ?_⟩
  · rw [parse?, normalize_of_writes writes, Double.parseChars?_eq, f.value_plain, Option.bind_some]
  · rw [parse?, Double.parseChars?_eq, Option.bind_eq_some_iff]
    simp only [Binary64.finite?_eq_some, exists_eq_right]

/-- The figures of minus one thousand two hundred thirty-four and a half. -/
def thousands : Figures where
  sign := some .minus
  whole := ['1', '2', '3', '4']
  fraction := ['5']
  whole_ne_nil := by decide
  whole_digits := by decide
  fraction_digits := by decide

theorem amounts_are_read_at_their_value_between_spaces :
    Writes " - 1.2\u00a034 ,5" thousands ∧
      parse? " - 1.2\u00a034 ,5" = some ⟨true, ⟨4653144203864309760, by decide⟩⟩ ∧
      2 ≤ "1,2,3".toList.count ',' ∧ parse? "1,2,3" = none := by
  have text : " - 1.2\u00a034 ,5".toList =
      [' ', '-', ' ', '1', '.', '2', '\u00a0', '3', '4', ' ', ',', '5'] := by decide
  have writes : Writes " - 1.2\u00a034 ,5" thousands := by
    refine ⟨['1', '.', '2', '3', '4'],
      .dotted ['1'] [['2', '3', '4']] (by decide) (by decide) (by decide), ?_⟩
    rw [text]
    exact .space (.char '-' (.space (.char '1' (.char '.' (.char '2' (.noBreakSpace (.char '3'
      (.char '4' (.space (.char ',' (.char '5' .nil)))))))))))
  have commas : 2 ≤ "1,2,3".toList.count ',' := by decide
  have value : (Binary64.ofDecimal thousands.decimal).finite? =
      some ⟨true, ⟨4653144203864309760, by decide⟩⟩ := by decide +kernel
  exact ⟨writes, ((amounts_are_read_at_their_value.1 _ _ writes).2).trans value, commas,
    amounts_are_read_at_their_value.2.1 _ commas⟩

end OfferBook.German
