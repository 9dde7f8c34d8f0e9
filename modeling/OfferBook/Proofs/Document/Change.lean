import OfferBook.Query.Change
import OfferBook.Statement.Compose

/-! # Changes of a document

What the statements without placeholders do to a document, seen through the rows of each table
and through the id that each table gave out last.

* `Change`, `Change.applyAll` — a statement that is saved as one, and several of them.
* `table_insert`, `table_update`, `table_advance` — the rows of a table after a change.
* `others_update`, `others_advance` — the other tables.
* `lastId_insert`, `lastId_update`, `lastId_advance` — the ids given out after a change.
* `Insert.get?_row`, `get?_assign` — the fields of a row that was inserted or changed.
-/

namespace OfferBook

theorem getElem?_concat_cases {α : Type _} {l : List α} {a b : α} {k : Nat}
    (h : (l ++ [a])[k]? = some b) : l[k]? = some b ∨ k = l.length ∧ b = a := by
  rcases Nat.lt_trichotomy k l.length with lt | rfl | gt
  · exact .inl (by rwa [List.getElem?_append_left lt] at h)
  · exact .inr ⟨rfl, by simpa using h.symm⟩
  · have := (List.getElem?_eq_some_iff.mp h).1
    simp only [List.length_append, List.length_singleton] at this
    omega

/-! ## Views -/

namespace Document

/-- The id that a table gave out last; zero before the first. -/
def lastId (doc : Document) (name : String) : Int := (doc.counters.get? name).getD 0

@[simp] theorem table_setTable (doc : Document) (name t : String) (rows : List Record) :
    (doc.setTable name rows).table t = if t = name then rows else doc.table t := by
  unfold table setTable
  rw [Dict.get?_insert]
  split <;> rfl

@[simp] theorem lastId_setTable (doc : Document) (name t : String) (rows : List Record) :
    (doc.setTable name rows).lastId t = doc.lastId t := rfl

@[simp] theorem table_append (doc : Document) (name t : String) (row : Record) :
    (doc.append name row).table t = if t = name then doc.table t ++ [row] else doc.table t := by
  unfold append
  rw [table_setTable]
  split
  · next h => rw [h]
  · rfl

@[simp] theorem lastId_append (doc : Document) (name t : String) (row : Record) :
    (doc.append name row).lastId t = doc.lastId t := rfl

@[simp] theorem nextId_fst (doc : Document) (name : String) :
    (doc.nextId name).1 = doc.lastId name + 1 := rfl

@[simp] theorem table_nextId (doc : Document) (name t : String) :
    (doc.nextId name).2.table t = doc.table t := rfl

@[simp] theorem lastId_nextId (doc : Document) (name t : String) :
    (doc.nextId name).2.lastId t = if t = name then doc.lastId t + 1 else doc.lastId t := by
  change ((doc.counters.insert name _).get? t).getD 0 = _
  rw [Dict.get?_insert]
  split
  · next h => rw [h]; rfl
  · rfl

theorem table_of_hasTable_eq_false {doc : Document} {name : String}
    (h : doc.hasTable name = false) : doc.table name = [] := by
  have : doc.tables.get? name = none := by simpa [hasTable, Dict.contains] using h
  rw [table, this, Option.getD_none]

end Document

/-! ## Rows -/

theorem get?_assign_cases (assignments : List (String × Json)) (row : Record) (column : String) :
    (assign assignments row).get? column = row.get? column ∨
      ∃ value, (column, value) ∈ assignments ∧
        (assign assignments row).get? column = some value := by
  unfold assign
  induction assignments generalizing row with
  | nil => exact .inl rfl
  | cons a rest ih =>
    obtain ⟨name, value⟩ := a
    rw [List.foldl_cons]
    -- The later assignments leave the column alone, or one of them counts.
    rcases ih (row.insert name value) with same | ⟨v, hv, given⟩
    · rw [same, Dict.get?_insert]
      split
      · next h => exact .inr ⟨value, h ▸ List.mem_cons_self, rfl⟩
      · exact .inl rfl
    · exact .inr ⟨v, List.mem_cons_of_mem _ hv, given⟩

theorem get?_assign_of_notMem {assignments : List (String × Json)} {column : String}
    (h : column ∉ assignments.map Prod.fst) (row : Record) :
    (assign assignments row).get? column = row.get? column := by
  rcases get?_assign_cases assignments row column with same | ⟨value, hv, -⟩
  · exact same
  · exact absurd (List.mem_map_of_mem (f := Prod.fst) hv) h

theorem get?_assign {assignments : List (String × Json)}
    (distinct : (assignments.map Prod.fst).Nodup) (row : Record) (column : String) :
    (assign assignments row).get? column =
      (Entries.lookup column assignments).or (row.get? column) := by
  unfold assign
  induction assignments generalizing row with
  | nil => rfl
  | cons a rest ih =>
    obtain ⟨name, value⟩ := a
    obtain ⟨notin, distinct⟩ := List.nodup_cons.mp distinct
    rw [List.foldl_cons, ih distinct, Dict.get?_insert, Entries.lookup]
    by_cases h : name = column
    · -- The column is not assigned again.
      subst h
      have : Entries.lookup name rest = none := Entries.lookup_eq_none.mpr notin
      simp [this]
    · rw [if_neg h, if_neg (Ne.symm h)]

namespace Operand

/-- The value of an operand where there are no parameters. -/
def value (now : Instant) (o : Operand) : Json := (o.bind now []).1

@[simp] theorem value_literal (now : Instant) (v : Json) : (literal v).value now = v := rfl

@[simp] theorem value_now (now : Instant) : Operand.now.value now = .text now.timestamp := rfl

theorem bindAll_nil (now : Instant) (os : List Operand) :
    bindAll now [] os = (os.map (value now), []) := by
  induction os with
  | nil => rfl
  | cons o rest ih =>
    have : o.bind now [] = (o.value now, []) := by cases o <;> rfl
    simp [bindAll, this, ih]

end Operand

theorem Update.bound_fst (now : Instant) (s : Update) :
    (s.bound now []).1 = s.assignments.map fun a => (a.1, a.2.value now) := by
  simp [bound, Operand.bindAll_nil, List.zip_map', Function.comp_def]

namespace Insert

theorem assignments_ofFields (now : Instant) (table : String) (fields : List (String × Operand)) :
    (ofFields table fields).assignments now [] = fields.map fun f => (f.1, f.2.value now) := by
  simp [assignments, ofFields, Operand.bindAll_nil, List.take_of_length_le, List.zip_map',
    Function.comp_def]

theorem assignments_ofValues (now : Instant) (table : String) {columns : List String}
    {values : List Json} (h : values.length = columns.length) :
    (ofValues table columns values).assignments now [] = columns.zip values := by
  simp [assignments, ofValues, Operand.bindAll_nil, List.take_of_length_le, h,
    Function.comp_def]

/-- The fields of a new row: those that are named, and the two that are filled in. -/
theorem get?_row {now : Instant} {s : Insert}
    (distinct : ((s.assignments now []).map Prod.fst).Nodup) (id : Int) (column : String) :
    (s.row now [] id).get? column =
      (Entries.lookup column (s.assignments now [])).or
        (if column = "created_at" then some (.text now.timestamp)
          else if column = "id" then some (.int id) else none) := by
  unfold row
  simp only [Dict.get?_insertIfNew, get?_assign distinct, Dict.get?_insert, Dict.get?_empty]
  by_cases h : column = "created_at"
  · subst h
    cases Entries.lookup "created_at" (s.assignments now []) <;> simp
  · rw [if_neg h, if_neg h]

theorem get?_row_of_mem {now : Instant} {s : Insert}
    (distinct : ((s.assignments now []).map Prod.fst).Nodup) {column : String} {value : Json}
    (mem : (column, value) ∈ s.assignments now []) (id : Int) :
    (s.row now [] id).get? column = some value := by
  rw [get?_row distinct, Entries.lookup_of_mem distinct mem, Option.some_or]

theorem get?_row_of_notMem {now : Instant} {s : Insert}
    (distinct : ((s.assignments now []).map Prod.fst).Nodup) {column : String}
    (notin : column ∉ (s.assignments now []).map Prod.fst) (created : column ≠ "created_at")
    (numbered : column ≠ "id") (id : Int) : (s.row now [] id).get? column = none := by
  rw [get?_row distinct, Entries.lookup_eq_none.mpr notin, if_neg created, if_neg numbered]
  rfl

theorem get?_row_ofValues {now : Instant} {table : String} {columns : List String}
    {values : List Json} (same : values.length = columns.length) (distinct : columns.Nodup)
    {column : String} {value : Json} (mem : (column, value) ∈ columns.zip values) (id : Int) :
    ((ofValues table columns values).row now [] id).get? column = some value := by
  have assigned := assignments_ofValues now table same
  refine get?_row_of_mem ?_ (assigned.symm ▸ mem) id
  rw [assigned, List.map_fst_zip (Nat.le_of_eq same.symm)]
  exact distinct

theorem get?_row_id {now : Instant} {s : Insert}
    (distinct : ((s.assignments now []).map Prod.fst).Nodup)
    (unnamed : "id" ∉ (s.assignments now []).map Prod.fst) (id : Int) :
    (s.row now [] id).get? "id" = some (.int id) := by
  rw [get?_row distinct, Entries.lookup_eq_none.mpr unnamed]
  rfl

end Insert

/-! ## Changes -/

/-- What is saved as one. -/
inductive Change
  | insert (s : Insert)
  | update (s : Update)
  /-- Count a named counter up. -/
  | advance (key : String)

namespace Change

def apply (now : Instant) : Change → Document → Document
  | .insert s, doc => (s.apply now [] doc).2
  | .update s, doc => (s.apply now [] doc).2
  | .advance key, doc => (doc.advanceCounter now key).2

/-- Make changes one after the other. -/
def applyAll (now : Instant) (changes : List Change) (doc : Document) : Document :=
  changes.foldl (fun doc c => c.apply now doc) doc

variable {now : Instant} {doc : Document}

@[simp] theorem applyAll_nil : applyAll now [] doc = doc := rfl

@[simp] theorem applyAll_cons {c : Change} {rest : List Change} :
    applyAll now (c :: rest) doc = applyAll now rest (c.apply now doc) := rfl

@[simp] theorem applyAll_append {changes rest : List Change} :
    applyAll now (changes ++ rest) doc = applyAll now rest (applyAll now changes doc) :=
  List.foldl_append

theorem applyAll_induction {P : Document → Prop} {changes : List Change}
    (step : ∀ c ∈ changes, ∀ doc, P doc → P (c.apply now doc)) (h : P doc) :
    P (applyAll now changes doc) := by
  induction changes generalizing doc with
  | nil => exact h
  | cons c rest ih =>
    exact ih (fun d hd => step d (List.mem_cons_of_mem _ hd)) (step c List.mem_cons_self _ h)

theorem table_insert (s : Insert) (t : String) :
    ((insert s).apply now doc).table t =
      if t = s.table then doc.table t ++ [s.row now [] (doc.lastId s.table + 1)]
      else doc.table t := by
  simp [apply, Insert.apply]

theorem lastId_insert (s : Insert) (t : String) :
    ((insert s).apply now doc).lastId t =
      if t = s.table then doc.lastId t + 1 else doc.lastId t := by
  simp [apply, Insert.apply]

/-- Change a row that passes the tests of an update. -/
def updateRow (now : Instant) (s : Update) (row : Record) : Record :=
  if Test.allHold (s.bound now []).2 row then assign (s.bound now []).1 row else row

theorem get?_updateRow_of_notMem {s : Update} {column : String}
    (h : column ∉ s.assignments.map Prod.fst) (row : Record) :
    (updateRow now s row).get? column = row.get? column := by
  unfold updateRow
  split
  · refine get?_assign_of_notMem ?_ row
    rw [Update.bound_fst, List.map_map]
    exact h
  · rfl

theorem table_update (s : Update) (t : String) :
    ((update s).apply now doc).table t =
      if t = s.table then (doc.table t).map (updateRow now s) else doc.table t := by
  change (s.apply now [] doc).2.table t = _
  cases h : doc.hasTable s.table with
  | true =>
    simp only [Update.apply, h, if_true, Document.table_setTable]
    split
    · next ht => rw [ht]; rfl
    · rfl
  | false =>
    simp only [Update.apply, h, Bool.false_eq_true, if_false]
    split
    · next ht => rw [ht, Document.table_of_hasTable_eq_false h, List.map_nil]
    · rfl

@[simp] theorem lastId_update (s : Update) (t : String) :
    ((update s).apply now doc).lastId t = doc.lastId t := by
  change (s.apply now [] doc).2.lastId t = _
  cases h : doc.hasTable s.table <;> simp [Update.apply, h]

/-- An update leaves the other tables alone, and the id counters. -/
theorem others_update (s : Update) {t : String} (h : t ≠ s.table) :
    ((update s).apply now doc).tables.get? t = doc.tables.get? t ∧
      ((update s).apply now doc).counters = doc.counters := by
  change (s.apply now [] doc).2.tables.get? t = _ ∧ (s.apply now [] doc).2.counters = _
  simp only [Update.apply]
  split
  · exact ⟨Dict.get?_insert_of_ne _ h _, rfl⟩
  · exact ⟨rfl, rfl⟩

theorem others_advance (key : String) {t : String} (h : t ≠ Document.countersTable) :
    ((advance key).apply now doc).tables.get? t = doc.tables.get? t := by
  change (doc.advanceCounter now key).2.tables.get? t = _
  unfold Document.advanceCounter
  split
  · exact Dict.get?_insert_of_ne _ h _
  · exact Dict.get?_insert_of_ne _ h _

theorem table_advance (key : String) {t : String} (h : t ≠ Document.countersTable) :
    ((advance key).apply now doc).table t = doc.table t := by
  rw [Document.table, others_advance key h, Document.table]

theorem lastId_advance (key : String) {t : String} (h : t ≠ Document.countersTable) :
    ((advance key).apply now doc).lastId t = doc.lastId t := by
  change (doc.advanceCounter now key).2.lastId t = _
  unfold Document.advanceCounter
  split <;> simp [h]

/-! ## Tables that are left alone -/

/-- A change of other tables. -/
def Spares (t : String) : Change → Prop
  | .insert s => s.table ≠ t
  | .update s => s.table ≠ t
  | .advance _ => Document.countersTable ≠ t

theorem Spares.apply {c : Change} {t : String} (h : c.Spares t) :
    (c.apply now doc).table t = doc.table t ∧ (c.apply now doc).lastId t = doc.lastId t := by
  cases c with
  | insert s => simp [table_insert, lastId_insert, Ne.symm h]
  | update s => simp [table_update, Ne.symm h]
  | advance key => exact ⟨table_advance key (Ne.symm h), lastId_advance key (Ne.symm h)⟩

theorem applyAll_of_spares {changes : List Change} {t : String} (h : ∀ c ∈ changes, c.Spares t) :
    (applyAll now changes doc).table t = doc.table t ∧
      (applyAll now changes doc).lastId t = doc.lastId t := by
  refine applyAll_induction (fun c hc doc' ⟨rows, ids⟩ => ?_)
    (P := fun d => d.table t = doc.table t ∧ d.lastId t = doc.lastId t) ⟨rfl, rfl⟩
  exact ⟨(h c hc).apply.1.trans rows, (h c hc).apply.2.trans ids⟩

end Change

end OfferBook
