import OfferBook.Proofs.Text.Characters

/-! # Decimals

What decimals are written with, and what is read besides finite numbers.

* `Decimal.isDecimalChar_of_mem` — the characters of a text that is read.
* `Figures.ofChars?_plain` — a sign, digits, a point and digits are read at their value.
* `Binary64` — all values of the format; `Binary64.ofChars?` — the value of a text, be it finite or
  not.
* `Double.parseChars?_eq` — a text is read as a finite number where its value is one.
-/

namespace OfferBook

/-! ## Characters -/

/-- Digits, signs, the point and the letter before an exponent. -/
def isDecimalChar (c : Char) : Bool := isAsciiDigit c || ['-', '+', '.', 'e', 'E'].contains c

theorem isDecimalChar_of_isAsciiDigit {c : Char} (h : isAsciiDigit c) : isDecimalChar c := by
  simp [isDecimalChar, h]

theorem isDecimalChar_cases {c : Char} (h : isDecimalChar c) :
    isAsciiDigit c ∨ c = '-' ∨ c = '+' ∨ c = '.' ∨ c = 'e' ∨ c = 'E' := by
  simpa [isDecimalChar] using h

section Parts

variable {c : Char} {cs : List Char}

theorem mem_splitSign (h : c ∈ cs) : isDecimalChar c ∨ c ∈ (splitSign cs).2 := by
  unfold splitSign
  split
  · rcases List.mem_cons.mp h with rfl | rest
    · exact .inl rfl
    · exact .inr rest
  · rcases List.mem_cons.mp h with rfl | rest
    · exact .inl rfl
    · exact .inr rest
  · exact .inr h

theorem mem_spanDigits (h : c ∈ cs) : isDecimalChar c ∨ c ∈ (spanDigits cs).2 := by
  rw [← List.takeWhile_append_dropWhile (p := isAsciiDigit) (l := cs), List.mem_append] at h
  exact h.imp_left fun taken => isDecimalChar_of_isAsciiDigit (List.mem_takeWhile_imp taken)

theorem isDecimalChar_of_mem_signed {ds : List Char} (digits : (splitSign ds).2.all isAsciiDigit)
    (h : c ∈ ds) : isDecimalChar c := by
  rcases mem_splitSign h with sign | digit
  · exact sign
  · exact isDecimalChar_of_isAsciiDigit (List.all_eq_true.mp digits c digit)

theorem isDecimalChar_of_mem_exponent {e : Int} (read : exponent? cs = some e) (h : c ∈ cs) :
    isDecimalChar c := by
  cases cs with
  | nil => exact absurd h List.not_mem_nil
  | cons mark r =>
    simp only [exponent?] at read
    split at read
    · next letter =>
      split at read
      · next digits =>
        rcases List.mem_cons.mp h with rfl | rest
        · rcases letter with rfl | rfl <;> rfl
        · exact isDecimalChar_of_mem_signed digits.2 rest
      · cases read
    · cases read

end Parts

namespace Decimal

variable {c : Char} {cs : List Char}

theorem mem_splitFraction (h : c ∈ cs) : isDecimalChar c ∨ c ∈ (splitFraction cs).2 := by
  unfold splitFraction
  split
  · rcases List.mem_cons.mp h with rfl | rest
    · exact .inl rfl
    · exact mem_spanDigits rest
  · exact .inr h

theorem isDecimalChar_of_mem {d : Decimal} (read : ofChars? cs = some d) (h : c ∈ cs) :
    isDecimalChar c := by
  unfold ofChars? at read
  dsimp only at read
  split at read
  · cases read
  · obtain ⟨e, exponent, -⟩ := Option.bind_eq_some_iff.mp read
    rcases mem_splitSign h with sign | h
    · exact sign
    rcases mem_spanDigits h with whole | h
    · exact whole
    rcases mem_splitFraction h with fraction | h
    · exact fraction
    exact isDecimalChar_of_mem_exponent exponent h

/-- A text with any other character is no decimal. -/
theorem ofChars?_eq_none (other : isDecimalChar c = false) (h : c ∈ cs) : ofChars? cs = none := by
  cases read : ofChars? cs with
  | none => rfl
  | some d => exact absurd (isDecimalChar_of_mem read h) (Bool.eq_false_iff.mp other)

end Decimal

/-! ## Figures -/

inductive Sign
  | plus
  | minus
deriving DecidableEq

def Sign.char : Sign → Char
  | plus => '+'
  | minus => '-'

/-- A number in figures: a sign, if it is written, the digits before the point, of which there is
    one at least, and those after it. -/
structure Figures where
  sign : Option Sign
  whole : List Char
  fraction : List Char
  whole_ne_nil : whole ≠ []
  whole_digits : whole.all isAsciiDigit
  fraction_digits : fraction.all isAsciiDigit

namespace Figures

def signChars (f : Figures) : List Char := (f.sign.map Sign.char).toList

/-- The number with a point. -/
def plain (f : Figures) : List Char := f.signChars ++ (f.whole ++ '.' :: f.fraction)

/-- All digits as one integer, over a power of ten for those after the point. -/
def decimal (f : Figures) : Decimal :=
  ⟨f.sign = some .minus, natOfDigits (f.whole ++ f.fraction), -f.fraction.length⟩

theorem splitSign_plain (f : Figures) :
    splitSign f.plain = (decide (f.sign = some .minus), f.whole ++ '.' :: f.fraction) := by
  have unsigned : splitSign (f.whole ++ '.' :: f.fraction) =
      (false, f.whole ++ '.' :: f.fraction) := by
    refine splitSign_of_head fun c first => ?_
    rw [List.head?_append_of_ne_nil _ f.whole_ne_nil] at first
    exact List.all_eq_true.mp f.whole_digits c (List.mem_of_mem_head? first)
  unfold plain signChars
  cases f.sign with
  | none => exact unsigned
  | some sign => cases sign <;> rfl

theorem ofChars?_plain (f : Figures) : Decimal.ofChars? f.plain = some f.decimal := by
  have whole : spanDigits (f.whole ++ '.' :: f.fraction) = (f.whole, '.' :: f.fraction) := by
    have point : ∀ c ∈ ('.' :: f.fraction).head?, isAsciiDigit c = false := by simp [isAsciiDigit]
    obtain ⟨taken, left⟩ := Text.span_of_all f.whole_digits point
    rw [spanDigits, taken, left]
  have fraction : spanDigits f.fraction = (f.fraction, []) := by
    have all := List.all_eq_true.mp f.fraction_digits
    rw [spanDigits, List.takeWhile_eq_self_iff.mpr all, List.dropWhile_eq_nil_iff.mpr all]
  simp [Decimal.ofChars?, splitSign_plain, whole, Decimal.splitFraction, fraction, f.whole_ne_nil,
    exponent?, decimal]

end Figures

/-! ## Numbers that need not be finite -/

/-- The values of the 64-bit binary format. -/
inductive Binary64
  | finite (d : Double)
  | infinite (negative : Bool)
  | notANumber

namespace Binary64

def finite? : Binary64 → Option Double
  | finite d => some d
  | infinite _ | notANumber => none

theorem finite?_eq_some {v : Binary64} {d : Double} : v.finite? = some d ↔ v = finite d := by
  cases v <;> simp [finite?]

/-- The value nearest to a decimal: beyond the largest number, an infinity. -/
def ofDecimal (d : Decimal) : Binary64 :=
  match Double.ofDecimal? d with
  | some x => finite x
  | none => infinite d.negative

theorem finite?_ofDecimal (d : Decimal) : (ofDecimal d).finite? = Double.ofDecimal? d := by
  unfold ofDecimal
  split
  · next x read => rw [read, finite?]
  · next read => rw [read, finite?]

/-- The value of a text: a decimal, or one of the words for what is not finite, with an optional
    sign and in letters of either case. -/
def ofChars? (cs : List Char) : Option Binary64 :=
  let (negative, r) := splitSign cs
  let word := r.map Char.toLower
  if word = "inf".toList ∨ word = "infinity".toList then some (infinite negative)
  else if word = "nan".toList then some notANumber
  else (Decimal.ofChars? cs).map ofDecimal

end Binary64

theorem toLower_ne_of_isDecimalChar {c : Char} (h : isDecimalChar c) : c.toLower ≠ 'n' := by
  rcases isDecimalChar_cases h with digit | other
  · exact Text.forall_isAsciiDigit digit (by decide)
  · rcases other with rfl | rfl | rfl | rfl | rfl <;> decide

theorem mem_of_mem_splitSign {c : Char} {cs : List Char} (h : c ∈ (splitSign cs).2) : c ∈ cs := by
  unfold splitSign at h
  split at h
  · exact List.mem_cons_of_mem _ h
  · exact List.mem_cons_of_mem _ h
  · exact h

/-- All the words have an n, which no decimal has. -/
theorem Decimal.ofChars?_of_word {cs : List Char}
    (word : 'n' ∈ (splitSign cs).2.map Char.toLower) : ofChars? cs = none := by
  obtain ⟨c, mem, lower⟩ := List.mem_map.mp word
  have other : isDecimalChar c = false :=
    Bool.eq_false_iff.mpr fun h => toLower_ne_of_isDecimalChar h lower
  exact ofChars?_eq_none other (mem_of_mem_splitSign mem)

/-- What is read as a finite number is what has such a value. -/
theorem Double.parseChars?_eq (cs : List Char) :
    parseChars? cs = (Binary64.ofChars? cs).bind Binary64.finite? := by
  unfold parseChars? Binary64.ofChars?
  dsimp only
  split
  · next word =>
    have n : 'n' ∈ (splitSign cs).2.map Char.toLower := by
      rcases word with inf | infinity
      · exact inf ▸ by decide
      · exact infinity ▸ by decide
    rw [Decimal.ofChars?_of_word n]
    rfl
  · split
    · next word =>
      rw [Decimal.ofChars?_of_word (word ▸ by decide)]
      rfl
    · cases Decimal.ofChars? cs with
      | none => rfl
      | some d => exact (Binary64.finite?_ofDecimal d).symm

example : Binary64.ofChars? "-Infinity".toList = some (.infinite true) := by rfl

/-- Figures are no word. -/
theorem Figures.value_plain (f : Figures) :
    Binary64.ofChars? f.plain = some (.ofDecimal f.decimal) := by
  have noWord : 'n' ∉ (splitSign f.plain).2.map Char.toLower := by
    intro word
    have none := Decimal.ofChars?_of_word word
    rw [f.ofChars?_plain] at none
    exact Option.some_ne_none _ none
  have plain : ∀ word, 'n' ∈ word → (splitSign f.plain).2.map Char.toLower ≠ word :=
    fun word n same => noWord (same ▸ n)
  simp [Binary64.ofChars?, plain, f.ofChars?_plain]

end OfferBook
