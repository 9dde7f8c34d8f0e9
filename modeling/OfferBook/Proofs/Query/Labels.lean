import OfferBook.Proofs.Query.Parameters
import OfferBook.Query.Select
import OfferBook.Statement.Reading

/-! # Labels of projections

Labels are written into a row before its conditions are tested. A label with the name of a field
that a condition reads stands before that field, so that the projection decides which rows are
found. Other labels have no such effect.

* `Select.shown` — a stored row as conditions and callers see it.
* `Select.get?_shown_of_notMem` — fields that no label names do not depend on the projection.
* `Select.exists_of_mem_rows` — whatever is found is shown of a row of the table.
* `Select.stored` — the stored rows that a selection returns, with their places in the table.
* `Select.stored_ignores_projection` — projections without such labels find the same rows.
-/

namespace OfferBook

/-! ## Columns of conditions -/

namespace Condition

/-- The column that a condition reads. -/
def column : Condition → Column
  | .isNull c | .isNotNull c | .equals c _ => c

theorem field_test (now : Instant) (scope : Scope) (c : Condition) :
    (c.test now scope).field = scope.field c.column := by cases c <;> rfl

theorem column_fillAll (params : List Json) (k : Nat) (cs : List Condition) :
    (fillAll params k cs).map column = cs.map column := by
  induction cs generalizing k with
  | nil => rfl
  | cons c rest ih =>
    have first : (c.fill params k).column = c.column := by cases c <;> rfl
    rw [fillAll, List.map_cons, ih, first, List.map_cons]

end Condition

theorem Condition.exists_of_mem_tests {now : Instant} {scope : Scope} {params : List Json}
    {k : Nat} {cs : List Condition} {t : Test}
    (mem : t ∈ (fillAll params k cs).map (test now scope)) :
    ∃ c ∈ cs, t.field = scope.field c.column := by
  obtain ⟨filled, there, rfl⟩ := List.mem_map.mp mem
  have columns := column_fillAll params k cs ▸ List.mem_map_of_mem (f := column) there
  obtain ⟨c, there, same⟩ := List.mem_map.mp columns
  exact ⟨c, there, same ▸ field_test now scope filled⟩

theorem Test.allHold_congr {tests : List Test} {row row' : Record}
    (same : ∀ t ∈ tests, row.get? t.field = row'.get? t.field) :
    allHold tests row = allHold tests row' := by
  rw [Bool.eq_iff_iff, allHold, allHold, List.all_eq_true, List.all_eq_true]
  refine forall₂_congr fun t mem => ?_
  rw [holds, holds, same t mem]

/-! ## Labels -/

section Fields

variable {α : Type _} {key : α → String} {value : Record → α → Json} {fields : List α}

/-- Fields that are set one after the other, to values that may depend on the row so far. -/
theorem get?_foldl_insert_of_notMem {field : String} (h : field ∉ fields.map key) (row : Record) :
    (fields.foldl (fun row a => row.insert (key a) (value row a)) row).get? field =
      row.get? field := by
  induction fields generalizing row with
  | nil => rfl
  | cons a rest ih =>
    rw [List.map_cons, List.mem_cons, not_or] at h
    rw [List.foldl_cons, ih h.2, Dict.get?_insert_of_ne _ h.1]

/-- Such a field has the value that depends on the first row, if no value depends on the fields
    that are set. -/
theorem get?_foldl_insert_of_mem (distinct : (fields.map key).Nodup)
    (steady : ∀ a ∈ fields, ∀ b ∈ fields, ∀ row v, value (row.insert (key a) v) b = value row b)
    {a : α} (mem : a ∈ fields) (row : Record) :
    (fields.foldl (fun row a => row.insert (key a) (value row a)) row).get? (key a) =
      some (value row a) := by
  induction fields generalizing row with
  | nil => exact absurd mem List.not_mem_nil
  | cons b rest ih =>
    obtain ⟨other, distinct⟩ := List.nodup_cons.mp distinct
    rw [List.foldl_cons]
    -- The field is set by this step and not again, or by a later one that reads the same value.
    rcases List.mem_cons.mp mem with rfl | later
    · rw [get?_foldl_insert_of_notMem other, Dict.get?_insert_self]
    · rw [ih distinct (fun a ha b hb => steady a (List.mem_cons_of_mem _ ha) b
        (List.mem_cons_of_mem _ hb)) later, steady b List.mem_cons_self a mem]

end Fields

namespace Select

/-- The same selection with another projection. -/
def projecting (s : Select) (p : List Projection) : Select := { s with projection := p }

/-- Whether a column is one of the primary table and not qualified by another name. -/
def owns (s : Select) (c : Column) : Bool :=
  (match c.qualifier with
    | some q => q = s.primaryName
    | none => true) && !Scope.isJoined s.join c

/-- The label of a column of either table. Columns of other tables are passed over. -/
def label? (s : Select) : Projection → Option String
  | .column c (some label) => if s.owns c || Scope.isJoined s.join c then some label else none
  | _ => none

def labels (s : Select) : List String := s.projection.filterMap s.label?

/-- A stored row as conditions and callers see it. -/
def shown (s : Select) (doc : Document) (row : Record) : Record := s.label (s.attach doc row)

variable {s : Select} {doc : Document}

theorem column_of_joinedLabel? {p : Projection} {e : String × String}
    (h : joinedLabel? s.join p = some e) :
    ∃ c, p = .column c (some e.2) ∧ Scope.isJoined s.join c = true ∧ c.name = e.1 := by
  unfold joinedLabel? at h
  split at h
  · next c label =>
    split at h
    · next joined =>
      obtain rfl := Option.some.inj h
      exact ⟨c, rfl, joined, rfl⟩
    · exact absurd h nofun
  · exact absurd h nofun

theorem column_of_ownLabel? {p : Projection} {e : String × String}
    (h : s.ownLabel? p = some e) :
    ∃ c, p = .column c (some e.2) ∧ s.owns c = true ∧ c.name = e.1 := by
  cases p with
  | all | allOf => exact absurd h nofun
  | column c label =>
    cases label with
    | none => exact absurd h nofun
    | some label =>
      have h : (if s.owns c = true then some (c.name, label) else none) = some e := h
      split at h
      · next own =>
        obtain rfl := Option.some.inj h
        exact ⟨c, rfl, own, rfl⟩
      · exact absurd h nofun

theorem sublist_labels {select : Projection → Option (String × String)}
    (labelled : ∀ p e, select p = some e → s.label? p = some e.2) (ps : List Projection) :
    ((ps.filterMap select).map Prod.snd).Sublist (ps.filterMap s.label?) := by
  induction ps with
  | nil => exact .slnil
  | cons p rest ih =>
    rw [List.filterMap_cons, List.filterMap_cons]
    cases selected : select p with
    | some e =>
      rw [labelled p e selected]
      exact ih.cons_cons e.2
    | none =>
      cases s.label? p with
      | none => exact ih
      | some label => exact ih.cons label

/-- The labels of joined columns are among all labels. -/
theorem joinedLabels_sublist :
    ((s.projection.filterMap (joinedLabel? s.join)).map Prod.snd).Sublist s.labels := by
  refine sublist_labels (fun p e h => ?_) s.projection
  obtain ⟨c, rfl, joined, -⟩ := column_of_joinedLabel? h
  simp [label?, joined]

theorem ownLabels_sublist :
    ((s.projection.filterMap s.ownLabel?).map Prod.snd).Sublist s.labels := by
  refine sublist_labels (fun p e h => ?_) s.projection
  obtain ⟨c, rfl, own, -⟩ := column_of_ownLabel? h
  simp [label?, own]

theorem get?_label_of_notMem {field : String} (h : field ∉ s.labels) (row : Record) :
    (s.label row).get? field = row.get? field :=
  get?_foldl_insert_of_notMem (mt ownLabels_sublist.mem h) row

theorem get?_attach_of_notMem {field : String} (h : field ∉ s.labels) (row : Record) :
    (s.attach doc row).get? field = ((s.projecting []).attach doc row).get? field := by
  have other := mt joinedLabels_sublist.mem h
  cases joined : s.join with
  | none => simp only [attach, projecting, joined]
  | some join =>
    rw [joined] at other
    simp only [attach, projecting, joined]
    cases join.partner? (doc.table join.table) row with
    | none => rfl
    | some partner => exact get?_foldl_insert_of_notMem other _

/-- A field that no label names is the one that the row has without a projection. -/
theorem get?_shown_of_notMem {field : String} (h : field ∉ s.labels) (row : Record) :
    (s.shown doc row).get? field = ((s.projecting []).attach doc row).get? field :=
  (get?_label_of_notMem h _).trans (get?_attach_of_notMem h row)

end Select

/-! ## Stored rows -/

namespace Window

theorem apply_map {α β : Type _} (w : Window) (f : α → β) (rows : List α) :
    w.apply (rows.map f) = (w.apply rows).map f := by
  unfold apply
  cases w.take with
  | none => exact List.map_drop.symm
  | some n => exact .trans (congrArg _ List.map_drop.symm) List.map_take.symm

theorem apply_sublist {α : Type _} (w : Window) (rows : List α) :
    (w.apply rows).Sublist rows := by
  unfold apply
  cases w.take with
  | none => exact List.drop_sublist _ _
  | some n => exact (List.take_sublist n _).trans (List.drop_sublist _ _)

end Window

namespace Select

/-- The stored rows that are returned, with their places in the table. -/
def stored (now : Instant) (params : List Json) (doc : Document) (s : Select) :
    List (Record × Nat) :=
  ((s.fill params).window now).apply ((doc.table s.table).zipIdx.filter fun r =>
    Test.allHold ((s.fill params).conditions.map (Condition.test now s.join)) (s.shown doc r.1))

variable {s : Select} {now : Instant} {params : List Json} {doc : Document}

theorem rows_eq_map_stored (unordered : s.orderBy = none) :
    s.rows now params doc = (s.stored now params doc).map fun r => s.shown doc r.1 := by
  have candidates : (s.fill params).candidates doc =
      (doc.table s.table).zipIdx.map fun r => s.shown doc r.1 := by
    rw [← Function.comp_def (s.shown doc) Prod.fst, ← List.map_map, List.zipIdx_map_fst]
    rfl
  rw [← rows_fill, rows_nil, candidates, List.filter_map]
  have arranged (rows : List Record) : (s.fill params).arrange rows = rows := by
    have : (s.fill params).orderBy = none := unordered
    simp only [arrange, this]
  rw [arranged, Window.apply_map]
  rfl

/-- What is selected are stored rows as callers see them, in whatever order. -/
theorem exists_of_mem_rows {r : Record} (mem : r ∈ s.rows now [] doc) :
    ∃ row ∈ doc.table s.table, r = s.shown doc row := by
  rw [rows_nil] at mem
  have arranged := (Window.apply_sublist _ _).mem mem
  have found : r ∈ s.candidates doc := by
    unfold arrange at arranged
    split at arranged
    · exact (List.mem_filter.mp (List.mem_mergeSort.mp arranged)).1
    · exact (List.mem_filter.mp arranged).1
  obtain ⟨row, there, rfl⟩ := List.mem_map.mp found
  exact ⟨row, there, rfl⟩

/-- No condition reads a field that a label names. -/
def SparesConditions (s : Select) : Prop :=
  ∀ c ∈ s.conditions, Scope.field s.join c.column ∉ s.labels

instance (s : Select) : Decidable s.SparesConditions :=
  inferInstanceAs (Decidable (∀ c ∈ s.conditions, Scope.field s.join c.column ∉ s.labels))

/-- Such rows are found without looking at the projection. -/
theorem stored_of_sparesConditions (spared : s.SparesConditions) : s.stored now params doc =
    ((s.fill params).window now).apply ((doc.table s.table).zipIdx.filter fun r =>
      Test.allHold ((s.fill params).conditions.map (Condition.test now s.join))
        ((s.projecting []).attach doc r.1)) := by
  rw [stored, List.filter_congr fun r _ => Test.allHold_congr fun t mem => ?_]
  obtain ⟨c, there, field⟩ := Condition.exists_of_mem_tests mem
  exact get?_shown_of_notMem (field ▸ spared c there) r.1

/-- Two selections that only differ in their projections return the same stored rows, in the same
    order, if no condition reads a field that one of their labels names. -/
theorem stored_ignores_projection (now : Instant) (params : List Json) (doc : Document)
    {p : List Projection} (unordered : s.orderBy = none)
    (spared : s.SparesConditions) (spared' : (s.projecting p).SparesConditions) :
    s.stored now params doc = (s.projecting p).stored now params doc ∧
    s.rows now params doc = (s.stored now params doc).map (fun r => s.shown doc r.1) ∧
    (s.projecting p).rows now params doc =
      ((s.projecting p).stored now params doc).map fun r => (s.projecting p).shown doc r.1 := by
  refine ⟨?_, rows_eq_map_stored unordered, rows_eq_map_stored unordered⟩
  rw [stored_of_sparesConditions spared, stored_of_sparesConditions spared']
  rfl

/-! ## Two labels -/

/-- The calculations of a customer. -/
def ofCustomer : Select :=
  { matching "calculations" [.equals ⟨some "c", "kunde"⟩ .placeholder] with shortName := some "c" }

def customerTitle : Projection := .column ⟨some "c", "kunde"⟩ (some "title")

def customerNotes : Projection := .column ⟨some "c", "notes"⟩ (some "kunde")

/-- A calculation whose notes name another customer. -/
def misleading : Record := .ofList [("kunde", .text "Beta"), ("notes", .text "Acme")]

def misleadingDocument : Document := ⟨.empty, .ofList [("calculations", [misleading])]⟩

theorem stored_ignores_projection_with_title :
    ofCustomer.stored 0 [.text "Beta"] misleadingDocument = [(misleading, 0)] ∧
    (ofCustomer.projecting [customerTitle]).stored 0 [.text "Beta"] misleadingDocument =
      [(misleading, 0)] := by
  have same := (stored_ignores_projection 0 [.text "Beta"] misleadingDocument (s := ofCustomer)
    (p := [customerTitle]) rfl (by decide) (by decide)).1
  have found : ofCustomer.stored 0 [.text "Beta"] misleadingDocument = [(misleading, 0)] := by
    decide +kernel
  exact ⟨found, same.symm.trans found⟩

/-- The label stands before the field of the row with which the parameter is to be compared. -/
theorem label_hides_field :
    Statement.parse? "SELECT * FROM calculations c WHERE c.kunde = ?" =
      some (.select ofCustomer) ∧
    Statement.parse? "SELECT c.notes AS kunde FROM calculations c WHERE c.kunde = ?" =
      some (.select (ofCustomer.projecting [customerNotes])) ∧
    ofCustomer.rows 0 [.text "Acme"] misleadingDocument = [] ∧
    ofCustomer.stored 0 [.text "Acme"] misleadingDocument = [] ∧
    (ofCustomer.projecting [customerNotes]).rows 0 [.text "Acme"] misleadingDocument ≠ [] ∧
    (ofCustomer.projecting [customerNotes]).stored 0 [.text "Acme"] misleadingDocument =
      [(misleading, 0)] := by
  decide +kernel

end Select

end OfferBook
