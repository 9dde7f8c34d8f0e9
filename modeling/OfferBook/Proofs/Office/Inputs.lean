import OfferBook.Proofs.Office.Requests
import OfferBook.Proofs.Text.Characters

/-! # Content handed in

What the checks in front of the services let through.

* `LineItems.NumbersFit`, `LineItems.GivenFit` — numbers of items that fit into words.
* `LineItems.numbersFit_of_validate`, `LineItems.one_le_numberAt`, `LineItems.length_le_of_validate`
  — numbers and lengths of lists that are valid.
* `Text.IsTitle`, `Calculations.validate_ok` — the title and the items of a valid calculation.
* `Call.InWords` — the integers of a call fit into words, as those do that are read.
-/

namespace OfferBook

/-! ## Items -/

namespace LineItems

/-- Every item is stored with a number that fits into a word. -/
def NumbersFit (items : List GarmentItemInput) : Prop :=
  ∀ (i : Nat) (item : GarmentItemInput), items[i]? = some item → fitsSigned (item.numberAt i) = true

/-- Numbers that are given fit into words, as those do that are read. -/
def GivenFit (items : List GarmentItemInput) : Prop :=
  ∀ item ∈ items, ∀ n ∈ item.number, fitsSigned n = true

theorem length_le_of_validate {items : List GarmentItemInput} (valid : validate items = .ok ()) :
    items.length ≤ maxItems := by
  refine Nat.le_of_not_lt fun long => ?_
  rw [validate, if_pos long] at valid
  exact absurd valid (by simp)

/-- Places are counted up to the greatest length only. -/
theorem numbersFit_of_validate {items : List GarmentItemInput} (given : GivenFit items)
    (valid : validate items = .ok ()) : NumbersFit items := by
  intro i item found
  cases number : item.number with
  | some n =>
    rw [GarmentItemInput.numberAt, number]
    exact given item (List.mem_of_getElem? found) n number
  | none =>
    have few := length_le_of_validate valid
    obtain ⟨inside, -⟩ := List.getElem?_eq_some_iff.mp found
    rw [GarmentItemInput.numberAt, number, Option.getD_none, fitsSigned_iff]
    simp only [maxItems] at few
    omega

theorem one_le_of_badNumber? {items : List GarmentItemInput} {place : Nat}
    (good : badNumber? place items = none) {i : Nat} {item : GarmentItemInput}
    (found : items[i]? = some item) : 1 ≤ item.numberAt (place + i) := by
  induction items generalizing place i with
  | nil => exact absurd found (by simp)
  | cons first rest ih =>
    rw [badNumber?] at good
    split at good
    · cases good
    · next high =>
      cases i with
      | zero =>
        obtain rfl : first = item := by simpa using found
        exact Int.not_lt.mp high
      | succ i =>
        rw [Nat.add_comm i 1, ← Nat.add_assoc]
        exact ih good (by simpa using found)

theorem one_le_numberAt {items : List GarmentItemInput} (valid : validate items = .ok ()) {i : Nat}
    {item : GarmentItemInput} (found : items[i]? = some item) : 1 ≤ item.numberAt i := by
  have good : badNumber? 0 items = none := by
    unfold validate at valid
    split at valid
    · cases valid
    · split at valid
      · cases valid
      · assumption
  simpa using one_le_of_badNumber? good found

end LineItems

/-! ## Calculations -/

/-- A text that is not empty, without blanks around it. -/
def Text.IsTitle (s : String) : Prop := s ≠ "" ∧ Text.trim s = s

theorem Text.isTitle_trim {s : String} (filled : ¬ (Text.trim s).isEmpty = true) :
    Text.IsTitle (Text.trim s) :=
  ⟨fun empty => filled (by rw [empty]; rfl), Text.trim_trim s⟩

namespace Calculations

/-- What is valid has a title and valid items. -/
theorem validate_ok {input : CalculationInput} {kunde : String}
    (valid : validate input = .ok kunde) :
    Text.IsTitle kunde ∧ LineItems.validate input.items = .ok () := by
  simp only [validate] at valid
  split at valid
  · exact absurd valid (by simp [throw, throwThe, MonadExceptOf.throw, bind, Except.bind])
  · next filled =>
    cases items : LineItems.validate input.items with
    | ok _ =>
      obtain rfl : Text.trim (input.kunde.getD "") = kunde := by
        simpa [items, bind, Except.bind, pure, Except.pure] using valid
      exact ⟨Text.isTitle_trim filled, rfl⟩
    | error e => exact absurd valid (by simp [items, bind, Except.bind])

end Calculations

/-! ## Calls -/

/-- The integers from which a call makes rows fit into words. -/
def Call.InWords : Call → Prop
  | .createCalculation input _ | .updateCalculation _ input _ => LineItems.GivenFit input.items
  | .createOffer input _ =>
    LineItems.GivenFit input.items ∧ ∀ id ∈ input.source, fitsSigned id = true
  | .deleteCalculation id _ | .deleteOffer id _ | .sendOffer _ _ id _ _ => fitsSigned id = true
  | .record _ _ entityId _ _ _ => ∀ id ∈ entityId, fitsSigned id = true
  | _ => True

end OfferBook
