import OfferBook.Proofs.OfferNumber.Text
import OfferBook.Proofs.Text.Characters

/-! # Versions of a stored text

A stored text need not be an offer number: what stands before its last dot may be nothing, and it
may have no dot. What gets a version is one from then on.

* `OfferNumber.parse?_text` — a number is read from its text, whatever dots its base has.
* `OfferNumber.baseOf` — what a stored text keeps when its version changes.
* `OfferNumber.versions_share_base` — so however often a text gets a version, its base is the one
  of the first.
-/

namespace OfferBook

namespace OfferNumber

theorem parse?_text {n : OfferNumber} (filled : n.base ≠ "") (fits : fitsSigned n.version = true) :
    parse? n.text = some n := by
  have some : n.base.toList ≠ [] := by simpa using filled
  have version : parseSigned? (intChars n.version) = .some n.version := by
    rw [parseSigned?, intOfChars?_intChars, Option.filter_some, if_pos fits]
  rw [parse?, splitLastDot?_text]
  simp only [Option.bind_eq_bind, Option.bind_some, version, some, if_false, String.ofList_toList]

/-! ## Bases -/

/-- What a stored text keeps when its version changes. -/
def baseOf (stored : String) : String := (rebase stored 0).base

theorem rebase_eq (stored : String) (version : Int) :
    rebase stored version = ⟨baseOf stored, version⟩ := by
  unfold baseOf rebase
  cases splitLastDot? stored.toList with
  | none => rfl
  | some parts =>
    simp only
    split <;> rfl

theorem rebase_base (stored : String) (version : Int) :
    (rebase stored version).base = baseOf stored := by
  rw [rebase_eq]

theorem baseOf_ne_empty {stored : String} (h : stored ≠ "") : baseOf stored ≠ "" := by
  unfold baseOf rebase
  cases splitLastDot? stored.toList with
  | none => exact h
  | some parts =>
    simp only
    split
    · exact h
    · next filled => simpa [← String.toList_inj] using filled

/-- Another version keeps the base, also that of a text that is no offer number. -/
theorem baseOf_rebase {stored : String} (h : stored ≠ "") (version : Int) :
    baseOf (rebase stored version).text = baseOf stored := by
  have filled : (rebase stored version).base ≠ "" := by
    rw [rebase_base]
    exact baseOf_ne_empty h
  rw [baseOf, rebase_text filled]
  exact rebase_base stored version

/-- A text that gets a version again and again. -/
theorem baseOf_foldl_rebase {stored : String} (h : stored ≠ "") (versions : List Int) :
    baseOf (versions.foldl (fun text version => (rebase text version).text) stored) =
      baseOf stored := by
  induction versions generalizing stored with
  | nil => rfl
  | cons version later ih =>
    rw [List.foldl_cons, ih (text_ne_empty _), baseOf_rebase h]

/-- A number is read from its text and its versions keep the base. Any stored text has a base, its
    versions are numbers with that base, and so are versions of these. -/
theorem versions_share_base :
    (∀ n : OfferNumber, n.base ≠ "" → fitsSigned n.version = true →
      parse? n.text = some n ∧ ∀ version, rebase n.text version = n.withVersion version) ∧
    ∀ stored : String, stored ≠ "" →
      (∀ version, rebase stored version = ⟨baseOf stored, version⟩) ∧
      (∀ version, fitsSigned version = true →
        parse? (rebase stored version).text = some ⟨baseOf stored, version⟩) ∧
      (∀ version next, rebase (rebase stored version).text next = rebase stored next) ∧
      ∀ (versions : List Int) next,
        rebase (versions.foldl (fun text version => (rebase text version).text) stored) next =
          ⟨baseOf stored, next⟩ := by
  constructor
  · intro n filled fits
    exact ⟨parse?_text filled fits, rebase_text filled⟩
  · intro stored filled
    refine ⟨rebase_eq stored, fun version fits => ?_, fun version next => ?_,
      fun versions next => ?_⟩
    · rw [rebase_eq]
      exact parse?_text (baseOf_ne_empty filled) fits
    · rw [rebase_eq, baseOf_rebase filled, rebase_eq]
    · rw [rebase_eq, baseOf_foldl_rebase filled]

/-- Two dots in a row, and a dot in front. -/
theorem versions_of_dotted_texts :
    parse? "A..1" = some ⟨"A.", 1⟩ ∧ rebase "A..1" 2 = ⟨"A.", 2⟩ ∧
      parse? (rebase ".1" 2).text = some ⟨".1", 2⟩ ∧ rebase (rebase ".1" 2).text 3 = ⟨".1", 3⟩ := by
  obtain ⟨numbers, texts⟩ := versions_share_base
  obtain ⟨read, versions⟩ := numbers ⟨"A.", 1⟩ (by decide) (by decide)
  obtain ⟨-, parsed, again, -⟩ := texts ".1" (by decide)
  exact ⟨read, versions 2, parsed 2 (by decide), again 2 3⟩

end OfferNumber

end OfferBook
