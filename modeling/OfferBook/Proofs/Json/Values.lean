import OfferBook.Json.Basic

/-! # What holds throughout a value

* `Entries.ofList_of_ordered`, `Entries.mem_of_mem_ofList` — collecting entries that are in order
  changes nothing, and no collection makes entries up.
* `Json.eq_int_of_signed?` — which values can be read as integers.
* `Json.nesting` — how deep lists and objects are nested.
* `Json.Numbers` — a condition on all numbers within a value.
* `Json.sorted_sorted`, `Json.Numbers.sorted`, `Json.nesting_sorted_le` — what sorting does to a
  value, and what it leaves alone.
* `Json.Proper` — a value as programs have it: sorted, with integers of 64 bits.
-/

namespace OfferBook

/-! ## Entries in order -/

namespace Entries

variable {α : Type _} {key : String} {value : α} {entries : List (String × α)}

theorem mem_insert {e : String × α} (h : e ∈ insert key value entries) :
    e = (key, value) ∨ e ∈ entries := by
  induction entries with
  | nil => exact .inl (List.mem_singleton.mp h)
  | cons f r ih =>
    obtain ⟨k, v⟩ := f
    unfold insert at h
    split at h
    · exact List.mem_cons.mp h
    · split at h
      · rcases List.mem_cons.mp h with rfl | h
        · exact .inr List.mem_cons_self
        · exact (ih h).imp_right (List.mem_cons_of_mem _)
      · exact (List.mem_cons.mp h).imp_right (List.mem_cons_of_mem _)

theorem mem_foldl_insert {e : String × α} {acc : List (String × α)}
    (h : e ∈ entries.foldl (fun acc e => insert e.1 e.2 acc) acc) : e ∈ acc ∨ e ∈ entries := by
  induction entries generalizing acc with
  | nil => exact .inl h
  | cons f r ih =>
    rcases ih h with h | h
    · rcases mem_insert h with rfl | h
      · exact .inr List.mem_cons_self
      · exact .inl h
    · exact .inr (List.mem_cons_of_mem f h)

theorem mem_of_mem_ofList {e : String × α} (h : e ∈ ofList entries) : e ∈ entries :=
  (mem_foldl_insert h).resolve_left List.not_mem_nil

theorem insert_of_last (last : ∀ e ∈ entries, e.1 < key) :
    insert key value entries = entries ++ [(key, value)] := by
  induction entries with
  | nil => rfl
  | cons e r ih =>
    obtain ⟨k, v⟩ := e
    have before : k < key := last (k, v) List.mem_cons_self
    rw [insert, if_neg (String.lt_asymm before), if_pos before,
      ih fun e he => last e (List.mem_cons_of_mem _ he), List.cons_append]

theorem foldl_insert_of_ordered (acc : List (String × α)) (ordered : Ordered (acc ++ entries)) :
    entries.foldl (fun acc e => insert e.1 e.2 acc) acc = acc ++ entries := by
  induction entries generalizing acc with
  | nil => rw [List.append_nil, List.foldl_nil]
  | cons e r ih =>
    have split := ordered
    rw [Ordered, List.map_append, List.pairwise_append] at split
    have last : ∀ f ∈ acc, f.1 < e.1 := fun f hf =>
      split.2.2 f.1 (List.mem_map_of_mem hf) e.1 List.mem_cons_self
    rw [List.append_cons] at ordered
    rw [List.foldl_cons, insert_of_last last, ih _ ordered, ← List.append_cons]

/-- Entries that are in order are collected as they are. -/
theorem ofList_of_ordered (ordered : Ordered entries) : ofList entries = entries :=
  foldl_insert_of_ordered [] ordered

end Entries

theorem Dict.ofList_entries {α : Type _} (d : Dict α) : ofList d.entries = d :=
  ext (Entries.ofList_of_ordered d.ordered)

namespace Json

/-! ## Integers -/

theorem eq_int_of_signed? {v : Json} {n : Int} (h : v.signed? = some n) :
    v = .int n ∧ fitsSigned n = true := by
  cases v with
  | number k =>
    cases k with
    | int k =>
      obtain ⟨fits, rfl⟩ : fitsSigned k = true ∧ k = n := by
        simpa [signed?, Number.signed?] using h
      exact ⟨rfl, fits⟩
    | double d => cases h
  | null | bool | text | array | object => cases h

/-- Integers that can be read fit into words. -/
theorem fitsSigned_of_signed? {v : Json} {n : Int} (h : v.signed? = some n) :
    fitsSigned n = true := (eq_int_of_signed? h).2

/-! ## Depth -/

mutual

/-- The deepest nesting of lists and objects. -/
def nesting : Json → Nat
  | .array items => nestingItems items + 1
  | .object fields => nestingFields fields + 1
  | _ => 0

def nestingItems : List Json → Nat
  | [] => 0
  | v :: r => max v.nesting (nestingItems r)

def nestingFields : List (String × Json) → Nat
  | [] => 0
  | (_, v) :: r => max v.nesting (nestingFields r)

end

theorem nestingItems_le_iff {items : List Json} {depth : Nat} :
    nestingItems items ≤ depth ↔ ∀ v ∈ items, v.nesting ≤ depth := by
  induction items with
  | nil => simp [nestingItems]
  | cons v r ih => rw [nestingItems, Nat.max_le, ih, List.forall_mem_cons]

theorem nestingFields_le_iff {fields : List (String × Json)} {depth : Nat} :
    nestingFields fields ≤ depth ↔ ∀ e ∈ fields, e.2.nesting ≤ depth := by
  induction fields with
  | nil => simp [nestingFields]
  | cons e r ih =>
    obtain ⟨k, v⟩ := e
    rw [nestingFields, Nat.max_le, ih, List.forall_mem_cons]

/-! ## Numbers -/

mutual

/-- All numbers within a value meet a condition. -/
def Numbers (p : Number → Prop) : Json → Prop
  | .number n => p n
  | .array items => NumbersOfItems p items
  | .object fields => NumbersOfFields p fields
  | _ => True

def NumbersOfItems (p : Number → Prop) : List Json → Prop
  | [] => True
  | v :: r => v.Numbers p ∧ NumbersOfItems p r

def NumbersOfFields (p : Number → Prop) : List (String × Json) → Prop
  | [] => True
  | (_, v) :: r => v.Numbers p ∧ NumbersOfFields p r

end

mutual

def decNumbers {p : Number → Prop} [DecidablePred p] : (v : Json) → Decidable (v.Numbers p)
  | .number n => inferInstanceAs (Decidable (p n))
  | .array items => decNumbersOfItems items
  | .object fields => decNumbersOfFields fields
  | .null | .bool _ | .text _ => isTrue trivial

def decNumbersOfItems {p : Number → Prop} [DecidablePred p] :
    (items : List Json) → Decidable (NumbersOfItems p items)
  | [] => isTrue trivial
  | v :: r =>
    let _ := decNumbers (p := p) v
    let _ := decNumbersOfItems (p := p) r
    inferInstanceAs (Decidable (v.Numbers p ∧ NumbersOfItems p r))

def decNumbersOfFields {p : Number → Prop} [DecidablePred p] :
    (fields : List (String × Json)) → Decidable (NumbersOfFields p fields)
  | [] => isTrue trivial
  | (_, v) :: r =>
    let _ := decNumbers (p := p) v
    let _ := decNumbersOfFields (p := p) r
    inferInstanceAs (Decidable (v.Numbers p ∧ NumbersOfFields p r))

end

instance {p : Number → Prop} [DecidablePred p] (v : Json) : Decidable (v.Numbers p) := decNumbers v

theorem numbersOfItems_iff {p : Number → Prop} {items : List Json} :
    NumbersOfItems p items ↔ ∀ v ∈ items, v.Numbers p := by
  induction items with
  | nil => simp [NumbersOfItems]
  | cons v r ih => rw [NumbersOfItems, ih, List.forall_mem_cons]

theorem numbersOfFields_iff {p : Number → Prop} {fields : List (String × Json)} :
    NumbersOfFields p fields ↔ ∀ e ∈ fields, e.2.Numbers p := by
  induction fields with
  | nil => simp [NumbersOfFields]
  | cons e r ih =>
    obtain ⟨k, v⟩ := e
    rw [NumbersOfFields, ih, List.forall_mem_cons]

mutual

/-- What follows from two conditions on numbers. -/
theorem Numbers.and {p q r : Number → Prop} (both : ∀ n, p n → q n → r n) :
    ∀ v : Json, v.Numbers p → v.Numbers q → v.Numbers r
  | .number n, h, h' => both n h h'
  | .array items, h, h' => NumbersOfItems.and both items h h'
  | .object fields, h, h' => NumbersOfFields.and both fields h h'
  | .null, _, _ | .bool _, _, _ | .text _, _, _ => trivial

theorem NumbersOfItems.and {p q r : Number → Prop} (both : ∀ n, p n → q n → r n) :
    ∀ items : List Json, NumbersOfItems p items → NumbersOfItems q items → NumbersOfItems r items
  | [], _, _ => trivial
  | v :: rest, h, h' =>
    ⟨Numbers.and both v h.1 h'.1, NumbersOfItems.and both rest h.2 h'.2⟩

theorem NumbersOfFields.and {p q r : Number → Prop} (both : ∀ n, p n → q n → r n) :
    ∀ fields : List (String × Json), NumbersOfFields p fields → NumbersOfFields q fields →
      NumbersOfFields r fields
  | [], _, _ => trivial
  | (_, v) :: rest, h, h' =>
    ⟨Numbers.and both v h.1 h'.1, NumbersOfFields.and both rest h.2 h'.2⟩

end

/-! ## Sorting -/

theorem sortedItems_of_sorted {items : List Json} (h : ∀ v ∈ items, v.sorted = v) :
    sortedItems items = items := by
  induction items with
  | nil => rfl
  | cons v r ih =>
    obtain ⟨first, others⟩ := List.forall_mem_cons.mp h
    rw [sortedItems, first, ih others]

theorem sortedFields_of_sorted {fields : List (String × Json)}
    (h : ∀ e ∈ fields, e.2.sorted = e.2) : sortedFields fields = fields := by
  induction fields with
  | nil => rfl
  | cons e r ih =>
    obtain ⟨first, others⟩ := List.forall_mem_cons.mp h
    rw [sortedFields, first, ih others]

mutual

/-- Sorting twice is sorting once. -/
theorem sorted_sorted : ∀ v : Json, v.sorted.sorted = v.sorted
  | .array items => by
    rw [sorted, sorted, sortedItems_of_sorted (sorted_of_mem_sortedItems items)]
  | .object fields => by
    have collected : ∀ e ∈ Entries.ofList (sortedFields fields), e.2.sorted = e.2 :=
      fun e he => sorted_of_mem_sortedFields fields e (Entries.mem_of_mem_ofList he)
    rw [sorted, sorted, sortedFields_of_sorted collected,
      Entries.ofList_of_ordered (Entries.ordered_ofList _)]
  | .null | .bool _ | .number _ | .text _ => rfl

theorem sorted_of_mem_sortedItems : ∀ items : List Json, ∀ v ∈ sortedItems items, v.sorted = v
  | [] => nofun
  | v :: r => List.forall_mem_cons.mpr ⟨sorted_sorted v, sorted_of_mem_sortedItems r⟩

theorem sorted_of_mem_sortedFields : ∀ fields : List (String × Json),
    ∀ e ∈ sortedFields fields, e.2.sorted = e.2
  | [] => nofun
  | (_, v) :: r => List.forall_mem_cons.mpr ⟨sorted_sorted v, sorted_of_mem_sortedFields r⟩

end

mutual

/-- Sorting leaves out fields that are repeated, but adds no number. -/
theorem Numbers.sorted {p : Number → Prop} : ∀ v : Json, v.Numbers p → v.sorted.Numbers p
  | .array items, h => NumbersOfItems.sorted items h
  | .object fields, h => by
    have all := numbersOfFields_iff.mp (NumbersOfFields.sorted fields h)
    exact numbersOfFields_iff.mpr fun e he => all e (Entries.mem_of_mem_ofList he)
  | .null, h | .bool _, h | .number _, h | .text _, h => h

theorem NumbersOfItems.sorted {p : Number → Prop} : ∀ items : List Json,
    NumbersOfItems p items → NumbersOfItems p (sortedItems items)
  | [], _ => trivial
  | v :: r, h => ⟨Numbers.sorted v h.1, NumbersOfItems.sorted r h.2⟩

theorem NumbersOfFields.sorted {p : Number → Prop} : ∀ fields : List (String × Json),
    NumbersOfFields p fields → NumbersOfFields p (sortedFields fields)
  | [], _ => trivial
  | (_, v) :: r, h => ⟨Numbers.sorted v h.1, NumbersOfFields.sorted r h.2⟩

end

mutual

/-- Nothing is nested deeper once it is sorted. -/
theorem nesting_sorted_le : ∀ v : Json, v.sorted.nesting ≤ v.nesting
  | .array items => Nat.succ_le_succ (nestingItems_sorted_le items)
  | .object fields => by
    have all := nestingFields_le_iff.mp (nestingFields_sorted_le fields)
    exact Nat.succ_le_succ
      (nestingFields_le_iff.mpr fun e he => all e (Entries.mem_of_mem_ofList he))
  | .null | .bool _ | .number _ | .text _ => Nat.le_refl _

theorem nestingItems_sorted_le : ∀ items : List Json,
    nestingItems (sortedItems items) ≤ nestingItems items
  | [] => Nat.le_refl _
  | v :: r => Nat.max_le.mpr
    ⟨Nat.le_trans (nesting_sorted_le v) (Nat.le_max_left ..),
      Nat.le_trans (nestingItems_sorted_le r) (Nat.le_max_right ..)⟩

theorem nestingFields_sorted_le : ∀ fields : List (String × Json),
    nestingFields (sortedFields fields) ≤ nestingFields fields
  | [] => Nat.le_refl _
  | (_, v) :: r => Nat.max_le.mpr
    ⟨Nat.le_trans (nesting_sorted_le v) (Nat.le_max_left ..),
      Nat.le_trans (nestingFields_sorted_le r) (Nat.le_max_right ..)⟩

end

end Json

/-! ## Proper values -/

/-- An integer has 64 bits, with or without a sign. -/
def Number.IsWord : Number → Prop
  | .int n => -9223372036854775808 ≤ n ∧ n < longLimit
  | .double _ => True

instance : DecidablePred Number.IsWord
  | .int n => inferInstanceAs (Decidable (-9223372036854775808 ≤ n ∧ n < longLimit))
  | .double _ => isTrue trivial

/-- The fields of all objects are in order, and integers have 64 bits. -/
structure Json.Proper (v : Json) : Prop where
  sorted : v.sorted = v
  words : v.Numbers Number.IsWord

instance (v : Json) : Decidable v.Proper :=
  decidable_of_iff (v.sorted = v ∧ v.Numbers Number.IsWord)
    ⟨fun ⟨sorted, words⟩ => ⟨sorted, words⟩, fun h => ⟨h.sorted, h.words⟩⟩

namespace Json.Proper

theorem item {items : List Json} (h : (array items).Proper) : ∀ v ∈ items, v.Proper := by
  have same : sortedItems items = items := Json.array.inj h.sorted
  intro v hv
  exact ⟨sorted_of_mem_sortedItems items v (same.symm ▸ hv), numbersOfItems_iff.mp h.words v hv⟩

theorem field {fields : List (String × Json)} (h : (object fields).Proper) :
    ∀ e ∈ fields, e.2.Proper := by
  have same : Entries.ofList (sortedFields fields) = fields := Json.object.inj h.sorted
  intro e he
  have there : e ∈ Entries.ofList (sortedFields fields) := same.symm ▸ he
  exact ⟨sorted_of_mem_sortedFields fields e (Entries.mem_of_mem_ofList there),
    numbersOfFields_iff.mp h.words e he⟩

end Json.Proper

end OfferBook
