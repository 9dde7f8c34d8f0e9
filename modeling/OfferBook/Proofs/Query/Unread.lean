import OfferBook.Proofs.Query.Joining

/-! # Fields that a selection does not read

A selection reads rows when it tests and sorts them, and when it looks for their partners. All
other fields pass through it.

* `Select.readFields`, `Select.map_rows` — the fields that are tested and sorted by, and a change of
  others that goes through a selection.
* `Record.SameBut` — rows with the same fields but for one.
* `Select.sameBut_merge` — partners with the same fields but for one make such rows.
* `Select.Overlooks` — a selection with a join that does not read a field of the joined records;
  `Overlooks.erase_rows` — what it selects from two documents that differ in this field.
-/

namespace OfferBook

/-! ## Fields that are read -/

namespace Select

/-- The fields by which rows are tested and sorted. -/
def readFields (s : Select) : List String :=
  (s.conditions.map fun c => Scope.field s.join c.column) ++
    s.orderBy.toList.map fun order => Scope.field s.join order.column

variable {s : Select} {now : Instant} {doc doc' : Document} {f : Record → Record}

/-- The rows that are selected from candidates. -/
def choose (now : Instant) (s : Select) (rows : List Record) : List Record :=
  (s.window now).apply (s.arrange (rows.filter
    (Test.allHold (s.conditions.map (Condition.test now s.join)))))

theorem map_choose (unread : ∀ field ∈ s.readFields, ∀ row, (f row).get? field = row.get? field)
    (rows : List Record) : (s.choose now rows).map f = s.choose now (rows.map f) := by
  have tests (row : Record) :
      Test.allHold (s.conditions.map (Condition.test now s.join)) (f row) =
        Test.allHold (s.conditions.map (Condition.test now s.join)) row := by
    refine Test.allHold_congr fun t ht => ?_
    obtain ⟨c, hc, rfl⟩ := List.mem_map.mp ht
    rw [Condition.field_test]
    exact unread _ (List.mem_append_left _ (List.mem_map_of_mem hc)) row
  have arranged (rows : List Record) : (s.arrange rows).map f = s.arrange (rows.map f) := by
    unfold arrange
    cases ordered : s.orderBy with
    | none => rfl
    | some order =>
      have field : Scope.field s.join order.column ∈ s.readFields :=
        List.mem_append_right _ (by simp [ordered])
      refine List.map_mergeSort fun a _ b _ => ?_
      simp only [OrderBy.precedes, unread _ field]
  rw [choose, ← Window.apply_map, arranged, choose, List.filter_map, Function.comp_def]
  simp only [tests]

/-- Candidates that differ only where nobody reads give rows that differ only there. -/
theorem map_rows (unread : ∀ field ∈ s.readFields, ∀ row, (f row).get? field = row.get? field)
    (same : (s.candidates doc).map f = (s.candidates doc').map f) :
    (s.rows now [] doc).map f = (s.rows now [] doc').map f := by
  rw [rows_nil, rows_nil]
  exact (map_choose unread _).trans ((congrArg _ same).trans (map_choose unread _).symm)

/-- A selection without a join depends on one table. -/
theorem rows_congr (alone : s.join = none) (same : doc.table s.table = doc'.table s.table) :
    s.rows now [] doc = s.rows now [] doc' := by
  have candidates : s.candidates doc = s.candidates doc' := by
    simp only [Select.candidates, attach, alone, same]
  rw [rows_nil, rows_nil, candidates]

end Select

/-! ## Rows that differ in one field -/

namespace Record

variable {hidden : String} {row row' : Record}

/-- The rows have the same fields, but for the hidden one. -/
def SameBut (hidden : String) (row row' : Record) : Prop :=
  ∀ field, field ≠ hidden → row.get? field = row'.get? field

theorem SameBut.refl (hidden : String) (row : Record) : SameBut hidden row row := fun _ _ => rfl

theorem SameBut.foldl_insert {α : Type} {key : α → String} {value value' : Record → α → Json}
    {fields : List α} (equal : ∀ a ∈ fields, ∀ row row', SameBut hidden row row' →
      value row a = value' row' a) (same : SameBut hidden row row') :
    SameBut hidden (fields.foldl (fun row a => row.insert (key a) (value row a)) row)
      (fields.foldl (fun row a => row.insert (key a) (value' row a)) row') := by
  induction fields generalizing row row' with
  | nil => exact same
  | cons a rest ih =>
    obtain ⟨first, others⟩ := List.forall_mem_cons.mp equal
    refine ih others fun field other => ?_
    rw [Dict.get?_insert, Dict.get?_insert, first row row' same, same field other]

theorem sameBut_erase (hidden : String) (row : Record) : SameBut hidden (row.erase hidden) row := by
  intro field other
  rw [Dict.get?_erase, if_neg other]

theorem SameBut.erase_eq (same : SameBut hidden row row') :
    row.erase hidden = row'.erase hidden := by
  refine Dict.ext_get? fun field => ?_
  rw [Dict.get?_erase, Dict.get?_erase]
  split
  · rfl
  · next other => exact same field other

end Record

/-! ## Partners that differ in one field -/

namespace Select

variable {join : Join} {hidden : String} {partner partner' row : Record}

theorem sameBut_merge {labels : List (String × String)}
    (same : Record.SameBut hidden partner partner') (unlabelled : ∀ l ∈ labels, l.1 ≠ hidden)
    (row : Record) :
    Record.SameBut (Scope.joinedField join hidden) (merge join labels row partner)
      (merge join labels row partner') := by
  have fields : Record.SameBut (Scope.joinedField join hidden) (merge join [] row partner)
      (merge join [] row partner') := by
    intro field other
    by_cases joined : ∃ name, field = Scope.joinedField join name
    · obtain ⟨name, rfl⟩ := joined
      have shown : name ≠ hidden := fun h => other (h ▸ rfl)
      rw [get?_merge_nil_joinedField, get?_merge_nil_joinedField, same name shown]
    · rw [get?_merge_of_ne fun name h => joined ⟨name, h⟩,
        get?_merge_of_ne fun name h => joined ⟨name, h⟩]
  exact fields.foldl_insert fun l hl _ _ _ => by rw [same l.1 (unlabelled l hl)]

/-- A selection with a join looks at a field of the joined records neither to find partners nor to
    label, test or sort rows. -/
structure Overlooks (s : Select) (join : Join) (hidden : String) : Prop where
  joins : s.join = some join
  keyed : join.keyColumns.2 ≠ hidden
  joined : ∀ l ∈ s.projection.filterMap (joinedLabel? s.join), l.1 ≠ hidden
  own : ∀ l ∈ s.projection.filterMap s.ownLabel?, l.1 ≠ Scope.joinedField join hidden
  unread : Scope.joinedField join hidden ∉ s.readFields

namespace Overlooks

variable {s : Select} {now : Instant} {doc doc' : Document} {hide : Record → Record}

theorem map_partner? (h : s.Overlooks join hidden)
    (keeps : ∀ record, Record.SameBut hidden (hide record) record) (records : List Record)
    (row : Record) :
    (join.partner? records row).map hide = join.partner? (records.map hide) row := by
  simp only [Join.partner?, List.find?_map, Function.comp_def]
  simp only [keeps _ _ h.keyed]

theorem sameBut_shown (h : s.Overlooks join hidden)
    (keeps : ∀ record, Record.SameBut hidden (hide record) record)
    (same : (doc.table join.table).map hide = (doc'.table join.table).map hide) (row : Record) :
    Record.SameBut (Scope.joinedField join hidden) (s.shown doc row) (s.shown doc' row) := by
  have attached : Record.SameBut (Scope.joinedField join hidden) (s.attach doc row)
      (s.attach doc' row) := by
    have partners := h.map_partner? keeps (doc.table join.table) row
    rw [same, ← h.map_partner? keeps] at partners
    unfold attach
    simp only [h.joins]
    generalize join.partner? (doc.table join.table) row = partner at partners
    generalize join.partner? (doc'.table join.table) row = partner' at partners
    cases partner with
    | none =>
      obtain rfl := Option.map_eq_none_iff.mp partners.symm
      exact .refl _ row
    | some a =>
      obtain ⟨b, rfl, hidden⟩ := Option.map_eq_some_iff.mp partners.symm
      have alike : Record.SameBut _ a b := fun field other => by
        rw [← keeps a field other, ← hidden, keeps b field other]
      exact sameBut_merge alike (h.joins ▸ h.joined) row
  exact attached.foldl_insert fun l hl _ _ same => by rw [same l.1 (h.own l hl)]

/-- What is selected then differs in that field alone. -/
theorem erase_rows (h : s.Overlooks join hidden)
    (keeps : ∀ record, Record.SameBut hidden (hide record) record)
    (primary : doc.table s.table = doc'.table s.table)
    (same : (doc.table join.table).map hide = (doc'.table join.table).map hide) :
    (s.rows now [] doc).map (·.erase (Scope.joinedField join hidden)) =
      (s.rows now [] doc').map (·.erase (Scope.joinedField join hidden)) := by
  refine map_rows (fun field read row => ?_) ?_
  · exact Record.sameBut_erase _ row field fun unread => h.unread (unread ▸ read)
  · rw [candidates, candidates, primary, List.map_map, List.map_map]
    exact List.map_congr_left fun row _ => (h.sameBut_shown keeps same row).erase_eq

end Overlooks

end Select

end OfferBook
