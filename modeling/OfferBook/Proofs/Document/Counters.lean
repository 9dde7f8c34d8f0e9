import OfferBook.Proofs.Document.Change

/-! # Named counters

* `Document.counterIn` — the value of a named counter among the rows of the counters.
* `Document.advanceCounter_fst` — counting up gives the value after that.
* `Document.CountsUp` — a named counter is counted up, and nothing else among the counters.
* `Document.CountsUp.counterIn`, `Document.counterIn_advance_of_ne` — a value that has 64 bits is
  what the counter shows from then on, and no other counter changes.
-/

namespace OfferBook.Document

/-- The value of a counter; zero before its first use. -/
def counterIn (key : String) (rows : List Record) : Int :=
  match rows.find? (isCounter key) with
  | some row => counterValue (row.get? "value")
  | none => 0

variable {key key' : String} {now : Instant} {doc : Document}

theorem counterValue_int {n : Int} (fits : fitsSigned n = true) :
    counterValue (some (.int n)) = n := by
  simp [counterValue, Json.int, Number.signed?, fits]

theorem isCounter_insert_value (row : Record) (v : Json) :
    isCounter key (row.insert "value" v) = isCounter key row := by
  simp [isCounter, Dict.get?_insert]

@[simp] theorem isCounter_counterRow (id : Int) : isCounter key (counterRow id key now) = true := by
  simp [isCounter, counterRow, Dict.ofList_eq_foldl, Dict.get?_insert]

@[simp] theorem get?_counterRow_value (id : Int) :
    (counterRow id key now).get? "value" = some (.int 1) := by
  simp [counterRow, Dict.ofList_eq_foldl, Dict.get?_insert]

theorem counterIn_cons_of_isCounter {row : Record} {rest : List Record}
    (h : isCounter key row = true) :
    counterIn key (row :: rest) = counterValue (row.get? "value") := by
  rw [counterIn, List.find?_cons_of_pos h]

theorem counterIn_cons_of_not {row : Record} {rest : List Record}
    (h : ¬ isCounter key row = true) : counterIn key (row :: rest) = counterIn key rest := by
  rw [counterIn, List.find?_cons_of_neg h, counterIn]

theorem not_isCounter_of_ne {row : Record} (ne : key' ≠ key) (h : isCounter key row = true) :
    ¬ isCounter key' row = true := by
  intro h'
  simp only [isCounter, decide_eq_true_eq] at h h'
  have : key = key' := by simpa [h] using h'
  exact ne this.symm

theorem counterIn_of_advanceRow {rows rows' : List Record} {value : Int}
    (h : advanceRow key rows = some (value, rows')) :
    value = counterIn key rows + 1 ∧ counterIn key rows' = counterValue (some (.int value)) ∧
      ∀ key', key' ≠ key → counterIn key' rows' = counterIn key' rows := by
  induction rows generalizing rows' with
  | nil => simp [advanceRow] at h
  | cons row rest ih =>
    rw [advanceRow] at h
    by_cases found : isCounter key row = true
    · -- The counter's row keeps its key, so that it is found again.
      rw [if_pos found] at h
      obtain ⟨rfl, rfl⟩ := Prod.mk.inj (Option.some.inj h)
      have found' : isCounter key (row.insert "value" _) = true :=
        (isCounter_insert_value row (.int (counterValue (row.get? "value") + 1))).trans found
      refine ⟨?_, ?_, fun key' ne => ?_⟩
      · rw [counterIn_cons_of_isCounter found]
      · rw [counterIn_cons_of_isCounter found', Dict.get?_insert_self]
      · rw [counterIn_cons_of_not (not_isCounter_of_ne ne found),
          counterIn_cons_of_not (not_isCounter_of_ne ne found')]
    · rw [if_neg found] at h
      obtain ⟨⟨value', rest'⟩, advanced, same⟩ := Option.map_eq_some_iff.mp h
      obtain ⟨rfl, rfl⟩ := Prod.mk.inj same
      obtain ⟨counted, shown, others⟩ := ih advanced
      refine ⟨?_, ?_, fun key' ne => ?_⟩
      · rw [counted, counterIn_cons_of_not found]
      · rw [counterIn_cons_of_not found, shown]
      · by_cases found' : isCounter key' row = true
        · rw [counterIn_cons_of_isCounter found', counterIn_cons_of_isCounter found']
        · rw [counterIn_cons_of_not found', counterIn_cons_of_not found', others key' ne]

/-- A counter without a row was never used. -/
theorem not_isCounter_of_advanceRow {rows : List Record} (h : advanceRow key rows = none) :
    ∀ row ∈ rows, ¬ isCounter key row = true := by
  induction rows with
  | nil => simp
  | cons row rest ih =>
    rw [advanceRow] at h
    by_cases found : isCounter key row = true
    · rw [if_pos found] at h
      exact absurd h (Option.some_ne_none _)
    · rw [if_neg found] at h
      exact List.forall_mem_cons.mpr ⟨found, ih (Option.map_eq_none_iff.mp h)⟩

theorem counterIn_of_none {rows : List Record} (h : ∀ row ∈ rows, ¬ isCounter key row = true) :
    counterIn key rows = 0 := by
  rw [counterIn, List.find?_eq_none.mpr h]

theorem advanceCounter_fst :
    (doc.advanceCounter now key).1 = counterIn key (doc.table countersTable) + 1 := by
  unfold advanceCounter
  cases h : advanceRow key (doc.table countersTable) with
  | some counted => exact (counterIn_of_advanceRow h).1
  | none => exact (congrArg (· + 1) (counterIn_of_none (not_isCounter_of_advanceRow h))).symm

theorem table_advanceCounter :
    ((Change.advance key).apply now doc).table countersTable =
      match advanceRow key (doc.table countersTable) with
      | some (_, rows) => rows
      | none => doc.table countersTable ++ [counterRow (doc.lastId countersTable + 1) key now] := by
  change (doc.advanceCounter now key).2.table countersTable = _
  unfold advanceCounter
  cases advanceRow key (doc.table countersTable) with
  | some counted => simp
  | none => simp

/-- A named counter is counted up. That is the first row with its key, or a new row with the value
    one, for which the counters get another id. Values are counted without bounds;
    `CountsUp.counterIn` says which of them can be stored. -/
inductive CountsUp (now : Instant) (key : String) (doc doc' : Document) : Prop
  | again {before after : List Record} {row : Record}
      (split : doc.table countersTable = before ++ row :: after)
      (first : ∀ other ∈ before, ¬ isCounter key other = true) (counter : isCounter key row = true)
      (rows : doc'.table countersTable = before ++
        row.insert "value" (.int (counterValue (row.get? "value") + 1)) :: after)
      (ids : doc'.counters = doc.counters)
  | anew (unused : ∀ row ∈ doc.table countersTable, ¬ isCounter key row = true)
      (rows : doc'.table countersTable =
        doc.table countersTable ++ [counterRow (doc.lastId countersTable + 1) key now])
      (ids : doc'.counters = doc.counters.insert countersTable (doc.lastId countersTable + 1))

theorem CountsUp.congr {doc' doc'' : Document} (h : CountsUp now key doc doc')
    (rows : doc''.table countersTable = doc'.table countersTable)
    (ids : doc''.counters = doc'.counters) : CountsUp now key doc doc'' := by
  cases h with
  | again split first counter rows' ids' =>
    exact .again split first counter (rows.trans rows') (ids.trans ids')
  | anew unused rows' ids' => exact .anew unused (rows.trans rows') (ids.trans ids')

theorem split_of_advanceRow {rows rows' : List Record} {value : Int}
    (h : advanceRow key rows = some (value, rows')) :
    ∃ before row after, rows = before ++ row :: after ∧
      (∀ other ∈ before, ¬ isCounter key other = true) ∧ isCounter key row = true ∧
      rows' = before ++
        row.insert "value" (.int (counterValue (row.get? "value") + 1)) :: after := by
  induction rows generalizing rows' with
  | nil => exact absurd h.symm (Option.some_ne_none _)
  | cons row rest ih =>
    rw [advanceRow] at h
    by_cases found : isCounter key row = true
    · rw [if_pos found] at h
      obtain ⟨rfl, rfl⟩ := Prod.mk.inj (Option.some.inj h)
      exact ⟨[], row, rest, rfl, List.forall_mem_nil _, found, rfl⟩
    · rw [if_neg found] at h
      obtain ⟨⟨value', rest'⟩, advanced, same⟩ := Option.map_eq_some_iff.mp h
      obtain ⟨rfl, rfl⟩ := Prod.mk.inj same
      obtain ⟨before, counter, after, rfl, first, isCounter, rfl⟩ := ih advanced
      exact ⟨row :: before, counter, after, rfl, List.forall_mem_cons.mpr ⟨found, first⟩,
        isCounter, rfl⟩

theorem countsUp_advance (now : Instant) (key : String) (doc : Document) :
    CountsUp now key doc ((Change.advance key).apply now doc) := by
  have rows := @table_advanceCounter key now doc
  cases advanced : advanceRow key (doc.table countersTable) with
  | some counted =>
    rw [advanced] at rows
    obtain ⟨before, row, after, split, first, counter, same⟩ := split_of_advanceRow advanced
    refine .again split first counter (rows.trans same) ?_
    change (doc.advanceCounter now key).2.counters = _
    simp only [advanceCounter, advanced]
    rfl
  | none =>
    rw [advanced] at rows
    refine .anew (not_isCounter_of_advanceRow advanced) rows ?_
    change (doc.advanceCounter now key).2.counters = _
    simp only [advanceCounter, advanced]
    rfl

theorem counterIn_append (before after : List Record) :
    counterIn key (before ++ after) =
      if before.find? (isCounter key) = none then counterIn key after
      else counterIn key before := by
  unfold counterIn
  rw [List.find?_append]
  cases before.find? (isCounter key) <;> rfl

/-- A value that has 64 bits is what the counter shows from then on. -/
theorem CountsUp.counterIn {doc' : Document} (h : CountsUp now key doc doc')
    (fits : fitsSigned (counterIn key (doc.table countersTable) + 1) = true) :
    Document.counterIn key (doc'.table countersTable) =
      Document.counterIn key (doc.table countersTable) + 1 := by
  cases h with
  | again split first counter rows =>
    have unused := List.find?_eq_none.mpr first
    rw [split, counterIn_append, if_pos unused, counterIn_cons_of_isCounter counter] at fits ⊢
    rw [rows, counterIn_append, if_pos unused,
      counterIn_cons_of_isCounter ((isCounter_insert_value ..).trans counter),
      Dict.get?_insert_self, counterValue_int fits]
  | anew unused rows =>
    -- The first use stores the row with the value one.
    rw [rows, counterIn_append, if_pos (List.find?_eq_none.mpr unused), counterIn_of_none unused,
      counterIn_cons_of_isCounter (isCounter_counterRow _), get?_counterRow_value]
    rfl

theorem counterIn_advance
    (fits : fitsSigned (counterIn key (doc.table countersTable) + 1) = true) :
    counterIn key (((Change.advance key).apply now doc).table countersTable) =
      counterIn key (doc.table countersTable) + 1 :=
  (countsUp_advance now key doc).counterIn fits

theorem counterIn_advance_of_ne (ne : key' ≠ key) :
    counterIn key' (((Change.advance key).apply now doc).table countersTable) =
      counterIn key' (doc.table countersTable) := by
  rw [table_advanceCounter]
  cases h : advanceRow key (doc.table countersTable) with
  | some counted => exact (counterIn_of_advanceRow h).2.2 key' ne
  | none =>
    rw [counterIn_append, counterIn_cons_of_not (not_isCounter_of_ne ne (isCounter_counterRow _))]
    split
    · next unused =>
      rw [counterIn, counterIn, unused]
      rfl
    · rfl

end OfferBook.Document
