import OfferBook.Proofs.Json.Leaves

/-! # What is read

* `Json.isWord_of_readNumber?` — no integer is read that has more than 64 bits.
* `Json.Held` — a value nested no deeper than some depth, all its integers having 64 bits.
* `Json.held_of_readTree?` — every value that is read from a text is such a value.
* `Json.Kept` — what it is once it has been sorted.
-/

namespace OfferBook.Json

/-! ## Numbers -/

section Numbers

variable {cs r : List Char} {n : Number}

theorem takeSignificand_lt {acc : Nat} (h : acc < longLimit) (cs : List Char) :
    (takeSignificand acc cs).1 < longLimit := by
  induction cs generalizing acc with
  | nil => exact h
  | cons c cs ih =>
    rw [takeSignificand]
    split
    · next taken => exact ih taken.2
    · exact h

theorem isWord_of_signed {negative : Bool} {o : Option (Double × List Char)}
    (h : (o.map fun r => ((.double (r.1.withSign negative) : Number), r.2)) = some (n, r)) :
    n.IsWord := by
  obtain ⟨_, -, same⟩ := Option.map_eq_some_iff.mp h
  obtain ⟨rfl, -⟩ := Prod.mk.inj same
  trivial

theorem isWord_of_readWhole? {negative : Bool} {m : Nat} {dropped : List Char}
    (small : m < longLimit) (h : readWhole? negative m dropped cs = some (n, r)) : n.IsWord := by
  unfold readWhole? at h
  split at h
  · exact isWord_of_signed h
  split at h
  · obtain ⟨rfl, -⟩ := Prod.mk.inj (Option.some.inj h)
    exact ⟨by omega, by exact_mod_cast small⟩
  split at h
  · obtain ⟨rfl, -⟩ := Prod.mk.inj (Option.some.inj h)
    trivial
  · obtain ⟨rfl, -⟩ := Prod.mk.inj (Option.some.inj h)
    exact ⟨by omega, by unfold longLimit; omega⟩

theorem isWord_of_readMagnitude? {negative : Bool}
    (h : readMagnitude? negative cs = some (n, r)) : n.IsWord := by
  have small := takeSignificand_lt (show 0 < longLimit by decide) cs
  rw [readMagnitude?_eq] at h
  dsimp only at h
  split at h
  · exact absurd h nofun
  · unfold readPart? at h
    split at h
    · exact isWord_of_signed h
    · exact isWord_of_signed h
    · exact isWord_of_signed h
    · exact isWord_of_readWhole? small h

theorem isWord_of_readNumber? (h : readNumber? cs = some (n, r)) : n.IsWord := by
  unfold readNumber? at h
  split at h <;> exact isWord_of_readMagnitude? h

end Numbers

/-! ## Values -/

/-- Nested no deeper than this, with integers of 64 bits. -/
structure Held (depth : Nat) (v : Json) : Prop where
  nesting : v.nesting ≤ depth
  words : v.Numbers Number.IsWord

section Values

variable {depth : Nat} {v : Json} {k : String}

theorem held_array {items : List Json} (h : ∀ v ∈ items, v.Held depth) :
    (array items).Held (depth + 1) where
  nesting := Nat.succ_le_succ (nestingItems_le_iff.mpr fun v hv => (h v hv).nesting)
  words := numbersOfItems_iff.mpr fun v hv => (h v hv).words

theorem held_object {fields : List (String × Json)} (h : ∀ e ∈ fields, e.2.Held depth) :
    (object fields).Held (depth + 1) where
  nesting := Nat.succ_le_succ (nestingFields_le_iff.mpr fun e he => (h e he).nesting)
  words := numbersOfFields_iff.mpr fun e he => (h e he).words

end Values

mutual

theorem held_of_readValue? (fuel depth : Nat) (cs : List Char) {v : Json} {r : List Char}
    (h : readValue? fuel depth cs = some (v, r)) : v.Held depth := by
  have leaf {w : Json} {cs : List Char} (h : some (w, cs) = some (v, r)) (held : w.Held depth) :
      v.Held depth := by
    obtain ⟨rfl, -⟩ := Prod.mk.inj (Option.some.inj h)
    exact held
  cases fuel with
  | zero => exact absurd h (by simp [readValue?])
  | succ fuel =>
    rw [readValue?] at h
    split at h
    · exact leaf h ⟨Nat.zero_le _, trivial⟩
    · exact leaf h ⟨Nat.zero_le _, trivial⟩
    · exact leaf h ⟨Nat.zero_le _, trivial⟩
    · obtain ⟨_, -, h⟩ := Option.bind_eq_some_iff.mp h
      exact leaf h ⟨Nat.zero_le _, trivial⟩
    · cases depth with
      | zero => exact absurd h nofun
      | succ depth =>
        dsimp only at h
        split at h
        · exact leaf h (held_array nofun)
        · obtain ⟨⟨w, s⟩, item, h⟩ := Option.bind_eq_some_iff.mp h
          obtain ⟨⟨ws, t⟩, items, h⟩ := Option.bind_eq_some_iff.mp h
          exact leaf h (held_array (List.forall_mem_cons.mpr
            ⟨held_of_readValue? fuel depth _ item, held_of_readItems? fuel depth _ items⟩))
    · cases depth with
      | zero => exact absurd h nofun
      | succ depth =>
        dsimp only at h
        split at h
        · exact leaf h (held_object nofun)
        · obtain ⟨⟨e, s⟩, field, h⟩ := Option.bind_eq_some_iff.mp h
          obtain ⟨⟨es, t⟩, fields, h⟩ := Option.bind_eq_some_iff.mp h
          exact leaf h (held_object (List.forall_mem_cons.mpr
            ⟨held_of_readField? fuel depth _ field, held_of_readFields? fuel depth _ fields⟩))
    · obtain ⟨⟨n, s⟩, number, h⟩ := Option.bind_eq_some_iff.mp h
      exact leaf h ⟨Nat.zero_le _, isWord_of_readNumber? number⟩

theorem held_of_readItems? (fuel depth : Nat) (cs : List Char) {vs : List Json} {r : List Char}
    (h : readItems? fuel depth cs = some (vs, r)) : ∀ v ∈ vs, v.Held depth := by
  cases fuel with
  | zero => exact absurd h (by simp [readItems?])
  | succ fuel =>
    rw [readItems?] at h
    split at h
    · obtain ⟨rfl, -⟩ := Prod.mk.inj (Option.some.inj h)
      exact nofun
    · obtain ⟨⟨w, s⟩, item, h⟩ := Option.bind_eq_some_iff.mp h
      obtain ⟨⟨ws, t⟩, items, h⟩ := Option.bind_eq_some_iff.mp h
      obtain ⟨rfl, -⟩ := Prod.mk.inj (Option.some.inj h)
      exact List.forall_mem_cons.mpr
        ⟨held_of_readValue? fuel depth _ item, held_of_readItems? fuel depth _ items⟩
    · exact absurd h nofun

theorem held_of_readField? (fuel depth : Nat) (cs : List Char) {e : String × Json} {r : List Char}
    (h : readField? fuel depth cs = some (e, r)) : e.2.Held depth := by
  cases fuel with
  | zero => exact absurd h (by simp [readField?])
  | succ fuel =>
    rw [readField?] at h
    split at h
    · obtain ⟨⟨k, s⟩, -, h⟩ := Option.bind_eq_some_iff.mp h
      dsimp only at h
      split at h
      · obtain ⟨⟨w, t⟩, value, h⟩ := Option.bind_eq_some_iff.mp h
        obtain ⟨rfl, -⟩ := Prod.mk.inj (Option.some.inj h)
        exact held_of_readValue? fuel depth _ value
      · exact absurd h nofun
    · exact absurd h nofun

theorem held_of_readFields? (fuel depth : Nat) (cs : List Char) {es : List (String × Json)}
    {r : List Char} (h : readFields? fuel depth cs = some (es, r)) : ∀ e ∈ es, e.2.Held depth := by
  cases fuel with
  | zero => exact absurd h (by simp [readFields?])
  | succ fuel =>
    rw [readFields?] at h
    split at h
    · obtain ⟨rfl, -⟩ := Prod.mk.inj (Option.some.inj h)
      exact nofun
    · obtain ⟨⟨w, s⟩, field, h⟩ := Option.bind_eq_some_iff.mp h
      obtain ⟨⟨ws, t⟩, fields, h⟩ := Option.bind_eq_some_iff.mp h
      obtain ⟨rfl, -⟩ := Prod.mk.inj (Option.some.inj h)
      exact List.forall_mem_cons.mpr
        ⟨held_of_readField? fuel depth _ field, held_of_readFields? fuel depth _ fields⟩
    · exact absurd h nofun

end

theorem held_of_readTree? {depth : Nat} {cs : List Char} {v : Json}
    (h : readTree? depth cs = some v) : v.Held depth := by
  unfold readTree? at h
  split at h
  · next read =>
    split at h
    · obtain rfl := Option.some.inj h
      exact held_of_readValue? _ depth cs read
    · exact absurd h nofun
  · exact absurd h nofun

/-! ## Sorted values -/

/-- Nested no deeper than this, in order, and with integers of 64 bits. -/
structure Kept (depth : Nat) (v : Json) : Prop where
  proper : v.Proper
  nesting : v.nesting ≤ depth

namespace Kept

variable {depth : Nat} {v : Json}

theorem of_held (h : v.Held depth) : v.sorted.Kept depth :=
  ⟨⟨sorted_sorted v, Numbers.sorted v h.words⟩, Nat.le_trans (nesting_sorted_le v) h.nesting⟩

theorem item {items : List Json} (h : (array items).Kept (depth + 1)) :
    ∀ v ∈ items, v.Kept depth := fun v hv =>
  ⟨h.proper.item v hv, nestingItems_le_iff.mp (Nat.le_of_succ_le_succ h.nesting) v hv⟩

theorem field {fields : List (String × Json)} (h : (object fields).Kept (depth + 1)) :
    ∀ e ∈ fields, e.2.Kept depth := fun e he =>
  ⟨h.proper.field e he, nestingFields_le_iff.mp (Nat.le_of_succ_le_succ h.nesting) e he⟩

end Kept

end OfferBook.Json
