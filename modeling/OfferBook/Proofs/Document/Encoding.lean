import OfferBook.Document
import OfferBook.Proofs.Json.Leaves

/-! # Documents as values

* `Document.Values` — a condition on all values in the rows.
* `Document.Proper` — a document as programs have it.
* `Document.ofJson?_toJson` — a proper document is read from its own value, unless a table has the
  name of the field for the counters.
* `Document.nesting_toJson_le_iff`, `Document.readsBack_toJson` — how deep the value of a document
  is nested, and which numbers are in it.
-/

namespace OfferBook

/-! ## Dictionaries -/

namespace Entries

variable {α : Type _} {key : String} {entries : List (String × α)}

theorem Ordered.nodup (h : Ordered entries) : (entries.map Prod.fst).Nodup := by
  refine List.Pairwise.imp (fun {a b} (lt : a < b) same => ?_) h
  exact String.lt_irrefl b (same ▸ lt)

theorem mem_of_lookup {value : α} (h : lookup key entries = some value) :
    (key, value) ∈ entries := by
  induction entries with
  | nil => exact absurd h nofun
  | cons e r ih =>
    obtain ⟨k, v⟩ := e
    rw [lookup] at h
    split at h
    · next same =>
      obtain rfl := same
      obtain rfl := Option.some.inj h
      exact List.mem_cons_self
    · exact List.mem_cons_of_mem _ (ih h)

theorem mem_keys_ofList {entries : List (String × α)} :
    key ∈ (ofList entries).map Prod.fst ↔ key ∈ entries.map Prod.fst := by
  have collected (acc : List (String × α)) :
      key ∈ (entries.foldl (fun acc e => insert e.1 e.2 acc) acc).map Prod.fst ↔
        key ∈ acc.map Prod.fst ∨ key ∈ entries.map Prod.fst := by
    induction entries generalizing acc with
    | nil => simp
    | cons e r ih =>
      rw [List.foldl_cons, ih, mem_keys_insert, List.map_cons, List.mem_cons, or_left_comm,
        or_assoc]
  exact (collected []).trans (by simp)

/-- Lists in order that give every key the same value are the same. -/
theorem eq_of_lookup {entries' : List (String × α)} (h : Ordered entries) (h' : Ordered entries')
    (same : ∀ k, lookup k entries = lookup k entries') : entries = entries' := by
  induction entries generalizing entries' with
  | nil =>
    cases entries' with
    | nil => rfl
    | cons e r => exact absurd (same e.1) (by simp [lookup])
  | cons e r ih =>
    cases entries' with
    | nil => exact absurd (same e.1) (by simp [lookup])
    | cons e' r' =>
      obtain ⟨k, v⟩ := e
      obtain ⟨k', v'⟩ := e'
      obtain ⟨first, ordered⟩ := List.pairwise_cons.mp h
      obtain ⟨first', ordered'⟩ := List.pairwise_cons.mp h'
      have there : (k, v) ∈ (k', v') :: r' := mem_of_lookup ((same k).symm.trans (by simp [lookup]))
      have there' : (k', v') ∈ (k, v) :: r := mem_of_lookup ((same k').trans (by simp [lookup]))
      -- Each list begins with its least key, so that they begin with the same one.
      have heads : (k, v) = (k', v') := by
        rcases List.mem_cons.mp there with head | later
        · exact head
        rcases List.mem_cons.mp there' with head | later'
        · exact head.symm
        have before : k' < k := first' k (List.mem_map_of_mem later)
        exact absurd before (String.lt_asymm (first k' (List.mem_map_of_mem later')))
      obtain ⟨rfl, rfl⟩ := Prod.mk.inj heads
      have tails (j : String) : lookup j r = lookup j r' := by
        by_cases hj : k = j
        · subst hj
          have absent : lookup k r = none :=
            lookup_eq_none.mpr fun mem => String.lt_irrefl k (first k mem)
          have absent' : lookup k r' = none :=
            lookup_eq_none.mpr fun mem => String.lt_irrefl k (first' k mem)
          rw [absent, absent']
        · have := same j
          rwa [lookup, lookup, if_neg hj, if_neg hj] at this
      rw [ih ordered ordered' tails]

end Entries

namespace Dict

variable {α : Type _} {d : Dict α} {key : String}

theorem get?_eq_some_iff {value : α} : d.get? key = some value ↔ (key, value) ∈ d.entries :=
  ⟨Entries.mem_of_lookup, Entries.lookup_of_mem d.ordered.nodup⟩

theorem contains_iff_mem_keys : d.contains key = true ↔ key ∈ d.entries.map Prod.fst := by
  rw [contains_eq_true, List.mem_map]
  constructor
  · rintro ⟨value, found⟩
    exact ⟨(key, value), get?_eq_some_iff.mp found, rfl⟩
  · rintro ⟨⟨k, value⟩, mem, rfl⟩
    exact ⟨value, get?_eq_some_iff.mpr mem⟩

theorem ext_get? {d' : Dict α} (same : ∀ k, d.get? k = d'.get? k) : d = d' :=
  ext (Entries.eq_of_lookup d.ordered d'.ordered same)

end Dict

theorem mapM_map_of_inverse {α β : Type} {f : β → Option α} {g : α → β} {l : List α}
    (h : ∀ a ∈ l, f (g a) = some a) : (l.map g).mapM f = some l := by
  induction l with
  | nil => rfl
  | cons a l ih =>
    obtain ⟨first, others⟩ := List.forall_mem_cons.mp h
    rw [List.map_cons, List.mapM_cons, first, ih others]
    rfl

namespace Document

/-! ## Conditions on documents -/

/-- All values in the rows meet a condition. -/
def Values (p : Json → Prop) (doc : Document) : Prop :=
  ∀ t, ∀ row ∈ doc.table t, ∀ e ∈ row.entries, p e.2

/-- Counters have 64 bits, and values are proper. -/
structure Proper (doc : Document) : Prop where
  counters : ∀ e ∈ doc.counters.entries, fitsSigned e.2
  values : doc.Values Json.Proper

variable {doc : Document} {p q : Json → Prop}

theorem Values.mono (h : doc.Values p) (weaker : ∀ v, p v → q v) : doc.Values q :=
  fun t row hrow e he => weaker e.2 (h t row hrow e he)

theorem table_of_mem {e : String × List Record} (h : e ∈ doc.tables.entries) :
    doc.table e.1 = e.2 := by
  rw [table, Dict.get?_eq_some_iff.mpr h, Option.getD_some]

/-- Tables that are not there have no rows. -/
theorem values_iff : doc.Values p ↔
    ∀ e ∈ doc.tables.entries, ∀ row ∈ e.2, ∀ f ∈ row.entries, p f.2 := by
  constructor
  · intro h e he row hrow
    exact h e.1 row (table_of_mem he ▸ hrow)
  · intro h t row hrow
    cases found : doc.tables.get? t with
    | none => simp [table, found] at hrow
    | some rows =>
      rw [table, found, Option.getD_some] at hrow
      exact h (t, rows) (Dict.get?_eq_some_iff.mp found) row hrow

instance [DecidablePred p] : Decidable (doc.Values p) := decidable_of_iff' _ values_iff

instance : Decidable doc.Proper :=
  decidable_of_iff ((∀ e ∈ doc.counters.entries, fitsSigned e.2) ∧ doc.Values Json.Proper)
    ⟨fun ⟨counters, values⟩ => ⟨counters, values⟩, fun h => ⟨h.counters, h.values⟩⟩

/-! ## Reading back -/

theorem countersOfJson?_countersToJson {counters : Dict Int}
    (fits : ∀ e ∈ counters.entries, fitsSigned e.2) :
    countersOfJson? (countersToJson counters) = some counters := by
  have read : (counters.entries.map fun e => (e.1, Json.int e.2)).mapM (entryOf? Json.signed?) =
      some counters.entries := by
    refine mapM_map_of_inverse fun e he => ?_
    simp [entryOf?, Json.signed?, Json.int, Number.signed?, fits e he]
  rw [countersToJson, Json.ofDict, countersOfJson?, read, Option.map_some, Dict.ofList_entries]

theorem sorted_rowsToJson {rows : List Record}
    (proper : ∀ row ∈ rows, ∀ e ∈ row.entries, e.2.Proper) :
    (rowsToJson rows).sorted = rowsToJson rows := by
  rw [rowsToJson, Json.sorted, Json.sortedItems_of_sorted]
  rintro v hv
  obtain ⟨row, hrow, rfl⟩ := List.mem_map.mp hv
  rw [Json.ofRecord, Json.sorted, Json.sortedFields_of_sorted fun e he =>
    (proper row hrow e he).sorted, Entries.ofList_of_ordered row.ordered]

theorem rowsOfJson?_rowsToJson (rows : List Record) : rowsOfJson? (rowsToJson rows) = some rows :=
  mapM_map_of_inverse fun row _ => congrArg some row.ofList_entries

/-- The fields of the tables. -/
def tableFields (doc : Document) : List (String × Json) :=
  doc.tables.entries.map fun e => (e.1, rowsToJson e.2)

theorem filter_tableFields_of_free (free : doc.hasTable countersField = false) :
    doc.tableFields.filter (·.1 = countersField) = [] ∧
      doc.tableFields.filter (·.1 ≠ countersField) = doc.tableFields := by
  have others : ∀ f ∈ doc.tableFields, f.1 ≠ countersField := by
    rintro f hf same
    obtain ⟨e, he, rfl⟩ := List.mem_map.mp hf
    have taken : doc.hasTable countersField = true :=
      Dict.contains_iff_mem_keys.mpr (List.mem_map.mpr ⟨e, he, same⟩)
    exact Bool.false_ne_true (free.symm.trans taken)
  exact ⟨List.filter_eq_nil_iff.mpr (by simpa using others),
    List.filter_eq_self.mpr (by simpa using others)⟩

theorem filter_tableFields_of_taken (taken : doc.hasTable countersField = true) :
    ∃ f r, doc.tableFields.filter (·.1 = countersField) = f :: r := by
  obtain ⟨e, he, same⟩ := List.mem_map.mp (Dict.contains_iff_mem_keys.mp taken)
  refine List.exists_cons_of_ne_nil (List.ne_nil_of_mem (a := (e.1, rowsToJson e.2)) ?_)
  exact List.mem_filter.mpr ⟨List.mem_map_of_mem he, decide_eq_true same⟩

/-- A proper document is read from its own value. With a table that has the name of the counters'
    field that field is there twice, and nothing is read. -/
theorem ofJson?_toJson (proper : doc.Proper) :
    ofJson? doc.toJson = if doc.hasTable countersField then none else some doc := by
  have counters := countersOfJson?_countersToJson proper.counters
  change ((countersOfFields? ((countersField, countersToJson doc.counters) :: doc.tableFields)).bind
    fun c => (tablesOfFields? (((countersField, countersToJson doc.counters) ::
      doc.tableFields).map fun e => (e.1, e.2.sorted))).bind fun t => some (⟨c, t⟩ : Document)) = _
  cases taken : doc.hasTable countersField with
  | true =>
    obtain ⟨f, r, twice⟩ := filter_tableFields_of_taken taken
    rw [countersOfFields?, List.filter_cons_of_pos (by simp), twice]
    rfl
  | false =>
    obtain ⟨once, others⟩ := filter_tableFields_of_free taken
    have sorted : doc.tableFields.map (fun e => (e.1, e.2.sorted)) = doc.tableFields := by
      refine (List.map_congr_left fun f hf => ?_).trans (List.map_id _)
      obtain ⟨e, he, rfl⟩ := List.mem_map.mp hf
      rw [sorted_rowsToJson (values_iff.mp proper.values e he), id]
    have tables : doc.tableFields.mapM (entryOf? rowsOfJson?) = some doc.tables.entries :=
      mapM_map_of_inverse fun e _ => by
        rw [entryOf?, rowsOfJson?_rowsToJson, Option.map_some]
    rw [countersOfFields?, List.filter_cons_of_pos (by simp), once, List.map_cons, sorted,
      tablesOfFields?, List.filter_cons_of_neg (by simp), others, tables]
    simp [counters, Dict.ofList_entries]

/-! ## Depth and numbers -/

theorem nesting_countersToJson (counters : Dict Int) : (countersToJson counters).nesting = 1 := by
  have flat : Json.nestingFields (counters.entries.map fun e => (e.1, Json.int e.2)) ≤ 0 := by
    rw [Json.nestingFields_le_iff]
    rintro f hf
    obtain ⟨e, -, rfl⟩ := List.mem_map.mp hf
    exact Nat.le_refl 0
  rw [countersToJson, Json.ofDict, Json.nesting, Nat.le_zero.mp flat]

/-- A list of rows is one level, and each row another one. -/
theorem nesting_rowsToJson_le_iff {rows : List Record} {depth : Nat} :
    (rowsToJson rows).nesting ≤ depth + 2 ↔
      ∀ row ∈ rows, ∀ e ∈ row.entries, e.2.nesting ≤ depth := by
  rw [rowsToJson, Json.nesting, Nat.add_le_add_iff_right, Json.nestingItems_le_iff,
    List.forall_mem_map]
  simp only [Json.ofRecord, Json.nesting, Nat.add_le_add_iff_right, Json.nestingFields_le_iff]

theorem nesting_toJson_le_iff {depth : Nat} :
    doc.toJson.nesting ≤ depth + 3 ↔ doc.Values (·.nesting ≤ depth) := by
  rw [toJson, Json.nesting, Nat.add_le_add_iff_right, Json.nestingFields_le_iff,
    List.forall_mem_cons, List.forall_mem_map, nesting_countersToJson, values_iff]
  simp only [nesting_rowsToJson_le_iff]
  exact and_iff_right (by omega)

theorem readsBack_countersToJson {counters : Dict Int}
    (fits : ∀ e ∈ counters.entries, fitsSigned e.2) :
    (countersToJson counters).Numbers Number.ReadsBack := by
  rw [countersToJson, Json.ofDict, Json.Numbers, Json.numbersOfFields_iff, List.forall_mem_map]
  intro e he
  obtain ⟨low, high⟩ := fitsSigned_iff.mp (fits e he)
  exact Number.IsWord.readsBack ⟨low, by unfold longLimit; omega⟩

theorem numbers_rowsToJson {p : Number → Prop} {rows : List Record}
    (h : ∀ row ∈ rows, ∀ e ∈ row.entries, e.2.Numbers p) : (rowsToJson rows).Numbers p := by
  rw [rowsToJson, Json.Numbers, Json.numbersOfItems_iff, List.forall_mem_map]
  intro row hrow
  rw [Json.ofRecord, Json.Numbers, Json.numbersOfFields_iff]
  exact h row hrow

theorem readsBack_toJson (fits : ∀ e ∈ doc.counters.entries, fitsSigned e.2)
    (h : doc.Values (·.Numbers Number.ReadsBack)) : doc.toJson.Numbers Number.ReadsBack := by
  rw [toJson, Json.Numbers, Json.numbersOfFields_iff, List.forall_mem_cons, List.forall_mem_map]
  exact ⟨readsBack_countersToJson fits, fun e he => numbers_rowsToJson (values_iff.mp h e he)⟩

end Document

end OfferBook
