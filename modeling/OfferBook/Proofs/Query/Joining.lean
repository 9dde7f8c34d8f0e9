import Mathlib.Data.List.Forall2
import Mathlib.Data.List.Nodup
import Mathlib.Data.List.Pairwise
import OfferBook.Office.Calculations
import OfferBook.Proofs.Document.Encoding
import OfferBook.Proofs.Query.Labels

/-! # Selections from two tables

A joined selection flattens two records into one row and works on names from then on. Where the
names tell the two records and the labels apart, this is the same as working on pairs.

* `Pair` — a row of the primary table with its partner; `Pair.value` — a column of the two.
* `Select.pairs`, `Select.joinedPairs` — all pairs, and those that are selected, without names.
* `Select.TellsApart` — what has to hold of the names.
* `Select.Shows` — what a row shows of a pair; `Select.TellsApart.shows_shown` — the flat row
  does.
* `Select.join_is_relational` — the selected rows show the selected pairs.
-/

namespace OfferBook

/-! ## Keys -/

namespace Json

mutual

theorem same_comm : ∀ a b : Json, same a b = same b a
  | .array a, b => by
    rcases b with - | - | (- | -) | - | b | - <;> first | rfl | exact sameItems_comm a b
  | .object a, b => by
    rcases b with - | - | (- | -) | - | - | b <;> first | rfl | exact sameFields_comm a b
  | .number (.int _), b | .number (.double _), b | .null, b | .bool _, b | .text _, b => by
    rcases b with - | - | (- | -) | - | - | - <;>
      first | rfl | exact decide_eq_decide.mpr eq_comm

theorem sameItems_comm : ∀ a b : List Json, sameItems a b = sameItems b a
  | [], [] => rfl
  | [], _ :: _ => rfl
  | _ :: _, [] => rfl
  | a :: r, b :: s => by rw [sameItems, sameItems, same_comm a b, sameItems_comm r s]

theorem sameFields_comm : ∀ a b : List (String × Json), sameFields a b = sameFields b a
  | [], [] => rfl
  | [], _ :: _ => rfl
  | _ :: _, [] => rfl
  | (k, a) :: r, (l, b) :: s => by
    rw [sameFields, sameFields, same_comm a b, sameFields_comm r s]
    simp only [eq_comm]

end

theorem number_same_comm (a b : Number) : a.same b = b.same a := by
  unfold Number.same
  cases a.signed? <;> cases b.signed? <;> simp [Double.same, eq_comm]

theorem sameKey_comm (a b : Option Json) : sameKey a b = sameKey b a := by
  rcases a with - | (- | - | - | - | - | -) <;> rcases b with - | (- | - | - | - | - | -) <;>
    first | rfl | exact same_comm _ _ | exact number_same_comm _ _

/-- A missing key and null have no equals. -/
theorem present_of_sameKey {a b : Option Json} (h : sameKey a b = true) :
    isMissing a = false ∧ isMissing b = false := by
  revert h
  rcases a with - | (- | - | - | - | - | -) <;> rcases b with - | (- | - | - | - | - | -) <;>
    first | exact fun _ => ⟨rfl, rfl⟩ | exact nofun

theorem sameKey_text {s : String} {v : Option Json} :
    sameKey (some (.text s)) v = true ↔ v = some (.text s) := by
  rcases v with - | (- | - | - | t | - | -) <;> simp [sameKey, same, eq_comm]

end Json

/-! ## Pairs -/

/-- A row of the primary table, and the record that is joined to it, if there is one. -/
structure Pair where
  primary : Record
  partner : Option Record
deriving DecidableEq

/-- The value of a column. Columns of the joined table are read from the partner, all others from
    the primary row. -/
def Pair.value (join : Join) (p : Pair) (c : Column) : Option Json :=
  if Scope.isJoined (some join) c then p.partner.bind (·.get? c.name) else p.primary.get? c.name

namespace Join

/-- Whether the two columns of a join have the same key in a row and a record. -/
def relates (join : Join) (row record : Record) : Bool :=
  Json.sameKey ((Pair.mk row (some record)).value join join.left)
    ((Pair.mk row (some record)).value join join.right)

/-- A row with the first record that belongs to it. -/
def pair (join : Join) (records : List Record) (row : Record) : Pair :=
  ⟨row, records.find? (join.relates row)⟩

end Join

/-- Whether a condition without placeholders holds of columns with these values. -/
def Condition.holds (now : Instant) (value : Column → Option Json) : Condition → Bool
  | .isNull c => Json.isMissing (value c)
  | .isNotNull c => !Json.isMissing (value c)
  | .equals c o => Json.matchesValue (value c) (o.value now)

theorem Condition.holds_congr {now : Instant} {value value' : Column → Option Json}
    {c : Condition} (same : value c.column = value' c.column) :
    c.holds now value = c.holds now value' := by
  cases c <;> simp only [holds, column] at same ⊢ <;> rw [same]

/-- A test asks of a row what its condition asks of the columns. -/
theorem Condition.holds_test (now : Instant) (scope : Scope) (c : Condition) (row : Record) :
    (c.test now scope).holds row = c.holds now fun c => row.get? (scope.field c) := by
  cases c <;> rfl

/-- Whether a pair may stand before another one. -/
def OrderBy.arranges (order : OrderBy) (join : Join) (a b : Pair) : Bool :=
  let ordering := Json.compareValues (a.value join order.column) (b.value join order.column)
  if order.descending then ordering.swap != .gt else ordering != .gt

namespace Select

/-- Each row of the primary table with its partner. -/
def pairs (s : Select) (join : Join) (doc : Document) : List Pair :=
  (doc.table s.table).map (join.pair (doc.table join.table))

/-- Pairs in the order that a selection asks for; those that compare equal keep their order. -/
def arrangePairs (s : Select) (join : Join) (pairs : List Pair) : List Pair :=
  match s.orderBy with
  | some order => pairs.mergeSort (order.arranges join)
  | none => pairs

/-- What a selection without placeholders selects: the pairs of which its conditions hold, sorted
    and cut. -/
def joinedPairs (now : Instant) (s : Select) (join : Join) (doc : Document) : List Pair :=
  (s.window now).apply (s.arrangePairs join ((s.pairs join doc).filter fun p =>
    s.conditions.all (·.holds now (p.value join))))

/-! ## Names -/

/-- The column of a part of a projection, if it is one of the primary table. -/
def ownColumn? (s : Select) : Projection → Option Column
  | .all | .allOf _ => none
  | .column c _ => if s.owns c then some c else none

/-- The columns that a selection reads, but for those of the joined table that it projects. -/
def columns (s : Select) : List Column :=
  s.projection.filterMap s.ownColumn? ++ (s.join.toList.flatMap fun j => [j.left, j.right]) ++
    s.conditions.map Condition.column ++ s.orderBy.toList.map (·.column)

/-- Neither a label nor the beginning of a name that joined fields have. -/
def IsPlain (s : Select) (join : Join) (name : String) : Prop :=
  name ∉ s.labels ∧ ¬ (join.shortName ++ "_").toList <+: name.toList

instance (s : Select) (join : Join) (name : String) : Decidable (s.IsPlain join name) :=
  inferInstanceAs (Decidable (_ ∧ _))

/-- The names of a selection tell labels, joined fields and the fields of some primary rows
    apart. -/
structure TellsApart (s : Select) (join : Join) (rows : List Record) : Prop where
  /-- One of the columns that are compared is joined, the other one is not. -/
  keyed : Scope.isJoined (some join) join.left ≠ Scope.isJoined (some join) join.right
  distinct : s.labels.Nodup
  labels : ∀ label ∈ s.labels, ¬ (join.shortName ++ "_").toList <+: label.toList
  fields : ∀ row ∈ rows, ∀ field ∈ row.keys, s.IsPlain join field
  columns : ∀ c ∈ s.columns, Scope.isJoined (some join) c = false → s.IsPlain join c.name

/-- What a row shows of a pair. It holds the fields of the primary row, those of the partner with
    the short name before their names, and the labelled columns, but nothing else. Labels of joined
    columns are missing where there is no partner. -/
structure Shows (s : Select) (join : Join) (p : Pair) (row : Record) : Prop where
  primary : ∀ field v, p.primary.get? field = some v → row.get? field = some v
  partner : ∀ name, row.get? (Scope.joinedField join name) = p.partner.bind (·.get? name)
  own : ∀ c label, .column c (some label) ∈ s.projection → s.owns c →
    row.get? label = some ((p.value join c).getD .null)
  joined : ∀ c label, .column c (some label) ∈ s.projection → Scope.isJoined (some join) c →
    row.get? label = p.partner.map fun _ => (p.value join c).getD .null
  only : ∀ field v, row.get? field = some v → p.primary.get? field = some v ∨
    (∃ name, field = Scope.joinedField join name) ∨ field ∈ s.labels

/-! ## Flat rows -/

variable {s : Select} {join : Join} {doc : Document} {row record : Record} {name field : String}

theorem toList_joinedField : (Scope.joinedField join name).toList =
    (join.shortName ++ "_").toList ++ name.toList := String.toList_append

theorem joinedField_starts :
    (join.shortName ++ "_").toList <+: (Scope.joinedField join name).toList := by
  rw [toList_joinedField]
  exact List.prefix_append _ _

theorem joinedField_injective : Function.Injective (Scope.joinedField join) := by
  intro a b same
  have same := congrArg String.toList same
  rw [toList_joinedField, toList_joinedField] at same
  exact String.toList_injective (List.append_cancel_left same)

theorem get?_merge_of_ne (other : ∀ name, field ≠ Scope.joinedField join name) :
    (merge join [] row record).get? field = row.get? field := by
  refine get?_foldl_insert_of_notMem (fun there => ?_) row
  obtain ⟨e, -, same⟩ := List.mem_map.mp there
  exact other e.1 same.symm

theorem get?_merge_nil_joinedField :
    (merge join [] row record).get? (Scope.joinedField join name) =
      (record.get? name).or (row.get? (Scope.joinedField join name)) := by
  have keys : (record.entries.map fun e => Scope.joinedField join e.1).Nodup := by
    rw [← Function.comp_def (Scope.joinedField join) Prod.fst, ← List.map_map]
    exact List.Nodup.map joinedField_injective record.ordered.nodup
  cases found : record.get? name with
  | some v =>
    exact get?_foldl_insert_of_mem keys (fun _ _ _ _ _ _ => rfl)
      (Dict.get?_eq_some_iff.mp found) row
  | none =>
    refine get?_foldl_insert_of_notMem (fun there => ?_) row
    obtain ⟨e, mem, same⟩ := List.mem_map.mp there
    obtain rfl := joinedField_injective same
    exact absurd (found.symm.trans (Dict.get?_eq_some_iff.mpr mem)) nofun

theorem get?_merge_joinedField (free : row.get? (Scope.joinedField join name) = none) :
    (merge join [] row record).get? (Scope.joinedField join name) = record.get? name := by
  rw [get?_merge_nil_joinedField, free, Option.or_none]

/-- The partner is looked up by the column of each side, whichever comes first. -/
theorem partner?_eq (keyed : Scope.isJoined (some join) join.left ≠
      Scope.isJoined (some join) join.right) (records : List Record) (row : Record) :
    join.partner? records row = (join.pair records row).partner := by
  simp only [Join.partner?, Join.pair]
  refine congrArg (records.find? ·) (funext fun record => ?_)
  simp only [Join.keyColumns, Join.relates, Pair.value]
  -- The lookup always starts with the record, the pair with the column on the left.
  cases left : Scope.isJoined (some join) join.left with
  | true =>
    have right : Scope.isJoined (some join) join.right = false := by simpa [left] using keyed
    simp [right]
  | false =>
    have right : Scope.isJoined (some join) join.right = true := by simpa [left] using keyed
    simp [right, Json.sameKey_comm]

theorem attach_of_none (joins : s.join = some join)
    (alone : join.partner? (doc.table join.table) row = none) : s.attach doc row = row := by
  simp only [attach, joins, alone]

theorem attach_of_partner (joins : s.join = some join)
    (found : join.partner? (doc.table join.table) row = some record) :
    s.attach doc row =
      merge join (s.projection.filterMap (joinedLabel? (some join))) row record := by
  simp only [attach, joins, found]

theorem attach_projecting_nil (joins : s.join = some join)
    (keyed : Scope.isJoined (some join) join.left ≠ Scope.isJoined (some join) join.right) :
    (s.projecting []).attach doc row =
      match (join.pair (doc.table join.table) row).partner with
      | none => row
      | some partner => merge join [] row partner := by
  simp only [attach, projecting, joins, partner?_eq keyed]
  rfl

/-- Labels tell the parts of a projection apart. -/
theorem eq_of_label? (distinct : s.labels.Nodup) {p p' : Projection} {label : String}
    (mem : p ∈ s.projection) (mem' : p' ∈ s.projection) (labelled : s.label? p = some label)
    (labelled' : s.label? p' = some label) : p = p' := by
  have apart := List.pairwise_filterMap.mp distinct
  have : Std.Symm fun p p' => ∀ l, s.label? p = some l → ∀ l', s.label? p' = some l' → l ≠ l' :=
    ⟨fun _ _ apart l hl l' hl' => (apart l' hl' l hl).symm⟩
  by_contra other
  exact apart.forall mem mem' other label labelled label labelled' rfl

theorem not_joined_of_owns (joins : s.join = some join) {c : Column} (own : s.owns c = true) :
    Scope.isJoined (some join) c = false := by
  simp only [owns, joins, Bool.and_eq_true, Bool.not_eq_true'] at own
  exact own.2

theorem ne_joinedField (plain : s.IsPlain join field) (name : String) :
    field ≠ Scope.joinedField join name := by
  rintro rfl
  exact plain.2 joinedField_starts

namespace TellsApart

variable (h : s.TellsApart join (doc.table s.table)) (joins : s.join = some join)
  (mem : row ∈ doc.table s.table)

include h

theorem joinedField_notMem : Scope.joinedField join name ∉ s.labels := fun there =>
  h.labels _ there joinedField_starts

include mem in
theorem plain_of_get? {v : Json} (found : row.get? field = some v) : s.IsPlain join field :=
  h.fields row mem field (List.mem_map_of_mem (f := Prod.fst) (Dict.get?_eq_some_iff.mp found))

include mem in
theorem get?_of_not_plain (other : ¬ s.IsPlain join field) : row.get? field = none := by
  cases found : row.get? field with
  | none => rfl
  | some v => exact absurd (h.plain_of_get? mem found) other

include joins in
theorem get?_attach_plain (plain : s.IsPlain join field) :
    (s.attach doc row).get? field = row.get? field := by
  rw [get?_attach_of_notMem plain.1, attach_projecting_nil joins h.keyed]
  split
  · rfl
  · exact get?_merge_of_ne (ne_joinedField plain)

include joins in
theorem get?_shown_plain (plain : s.IsPlain join field) :
    (s.shown doc row).get? field = row.get? field :=
  (get?_label_of_notMem plain.1 _).trans (h.get?_attach_plain joins plain)

include joins mem in
theorem get?_shown_joinedField : (s.shown doc row).get? (Scope.joinedField join name) =
    (join.pair (doc.table join.table) row).partner.bind (·.get? name) := by
  have free : row.get? (Scope.joinedField join name) = none :=
    h.get?_of_not_plain mem fun plain => ne_joinedField plain name rfl
  rw [get?_shown_of_notMem h.joinedField_notMem, attach_projecting_nil joins h.keyed]
  split
  · next alone => rw [free, alone, Option.bind_none]
  · next partner found => rw [get?_merge_joinedField free, found, Option.bind_some]

/-- Columns have the values of the pair. -/
theorem get?_shown_field (joins : s.join = some join) (mem : row ∈ doc.table s.table) {c : Column}
    (used : c ∈ s.columns) : (s.shown doc row).get? (Scope.field (some join) c) =
      (join.pair (doc.table join.table) row).value join c := by
  cases joined : Scope.isJoined (some join) c with
  | true =>
    simp only [Scope.field, Pair.value, joined, if_true]
    exact h.get?_shown_joinedField joins mem
  | false =>
    simp only [Scope.field, Pair.value, joined, Bool.false_eq_true, if_false]
    exact h.get?_shown_plain joins (h.columns c used joined)

include joins in
theorem plain_of_owns {c : Column} {label : Option String}
    (projected : .column c label ∈ s.projection) (own : s.owns c = true) :
    s.IsPlain join c.name := by
  refine h.columns c ?_ (not_joined_of_owns joins own)
  have read : c ∈ s.projection.filterMap s.ownColumn? :=
    List.mem_filterMap.mpr ⟨_, projected, if_pos own⟩
  simp only [Select.columns, List.mem_append, read, true_or]

/-- Labels of the primary table's own columns. No value changes when another label is written. -/
theorem get?_shown_own (joins : s.join = some join) {c : Column} {label : String}
    (projected : .column c (some label) ∈ s.projection) (own : s.owns c = true) :
    (s.shown doc row).get? label = some ((row.get? c.name).getD .null) := by
  have plain := h.plain_of_owns joins projected own
  have entry : s.ownLabel? (.column c (some label)) = some (c.name, label) := by
    show (if s.owns c = true then some (c.name, label) else none) = _
    exact if_pos own
  -- Columns that are repeated have plain names, so that no label stands before one of them.
  have steady : ∀ a ∈ s.projection.filterMap s.ownLabel?,
      ∀ b ∈ s.projection.filterMap s.ownLabel?, ∀ (row : Record) v,
        ((row.insert a.2 v).get? b.1).getD .null = (row.get? b.1).getD .null := by
    intro a ha b hb row v
    obtain ⟨p, there, entry⟩ := List.mem_filterMap.mp hb
    obtain ⟨c, rfl, own, name⟩ := column_of_ownLabel? entry
    have label : a.2 ∈ s.labels := ownLabels_sublist.mem (List.mem_map_of_mem ha)
    have other : b.1 ≠ a.2 := fun same =>
      (h.plain_of_owns joins there own).1 (name.trans same ▸ label)
    rw [Dict.get?_insert_of_ne _ other]
  have distinct := h.distinct.sublist ownLabels_sublist
  have unchanged : (s.attach doc row).get? c.name = row.get? c.name :=
    h.get?_attach_plain joins plain
  rw [← unchanged]
  exact get?_foldl_insert_of_mem distinct steady
    (List.mem_filterMap.mpr ⟨_, projected, entry⟩) (s.attach doc row)

/-- Labels of joined columns are not written once more, since no own column has the same label. -/
theorem get?_shown_joined (joins : s.join = some join) (mem : row ∈ doc.table s.table) {c : Column}
    {label : String} (projected : .column c (some label) ∈ s.projection)
    (joined : Scope.isJoined (some join) c = true) :
    (s.shown doc row).get? label = (join.pair (doc.table join.table) row).partner.map
      fun partner => (partner.get? c.name).getD .null := by
  have labelled : s.label? (.column c (some label)) = some label := by simp [label?, joins, joined]
  -- A part with the same label would be this one, whose column is no own one.
  have unwritten : label ∉ (s.projection.filterMap s.ownLabel?).map Prod.snd := by
    intro there
    obtain ⟨e, written, rfl⟩ := List.mem_map.mp there
    obtain ⟨p, other, entry⟩ := List.mem_filterMap.mp written
    obtain ⟨c', rfl, own, -⟩ := column_of_ownLabel? entry
    obtain ⟨rfl, -⟩ := Projection.column.inj
      (eq_of_label? h.distinct projected other labelled (by simp [label?, own]))
    exact Bool.noConfusion (joined.symm.trans (not_joined_of_owns joins own))
  have entry : joinedLabel? (some join) (.column c (some label)) = some (c.name, label) :=
    if_pos joined
  have distinct := h.distinct.sublist joinedLabels_sublist
  rw [shown, Select.label, get?_foldl_insert_of_notMem unwritten]
  simp only [attach, joins, partner?_eq h.keyed] at distinct ⊢
  cases (join.pair (doc.table join.table) row).partner with
  | none =>
    exact h.get?_of_not_plain mem fun plain =>
      plain.1 (List.mem_filterMap.mpr ⟨_, projected, labelled⟩)
  | some partner =>
    exact get?_foldl_insert_of_mem distinct (fun _ _ _ _ _ _ => rfl)
      (List.mem_filterMap.mpr ⟨_, projected, entry⟩) _

/-- The flat row shows the pair from which it is made. -/
theorem shows_shown (joins : s.join = some join) (mem : row ∈ doc.table s.table) :
    s.Shows join (join.pair (doc.table join.table) row) (s.shown doc row) where
  primary field v found :=
    (h.get?_shown_plain joins (h.plain_of_get? mem found)).trans found
  partner _ := h.get?_shown_joinedField joins mem
  own c label projected own := by
    rw [h.get?_shown_own joins projected own, Pair.value, not_joined_of_owns joins own]
    rfl
  joined c label projected joined := by
    rw [h.get?_shown_joined joins mem projected joined, Pair.value, joined]
    cases (join.pair (doc.table join.table) row).partner <;> rfl
  only field v found := by
    by_cases label : field ∈ s.labels
    · exact .inr (.inr label)
    by_cases other : ∃ name, field = Scope.joinedField join name
    · exact .inr (.inl other)
    -- No other field is ever written, so it comes from the primary row.
    rw [get?_shown_of_notMem label, attach_projecting_nil joins h.keyed] at found
    left
    split at found
    · exact found
    · exact (get?_merge_of_ne (not_exists.mp other)).symm.trans found

end TellsApart

/-! ## Selected pairs -/

namespace TellsApart

variable {now : Instant} (h : s.TellsApart join (doc.table s.table)) (joins : s.join = some join)

include h

theorem fill (params : List Json) :
    (s.fill params).TellsApart join (doc.table (s.fill params).table) where
  keyed := h.keyed
  distinct := h.distinct
  labels := h.labels
  fields := h.fields
  columns c used := h.columns c (by
    rwa [Select.columns, Select.fill, Condition.column_fillAll] at used)

include joins

theorem allHold_shown (mem : row ∈ doc.table s.table) :
    Test.allHold (s.conditions.map (Condition.test now s.join)) (s.shown doc row) =
      s.conditions.all (·.holds now ((join.pair (doc.table join.table) row).value join)) := by
  rw [Test.allHold, List.all_map, joins, Bool.eq_iff_iff, List.all_eq_true, List.all_eq_true]
  refine forall₂_congr fun c there => ?_
  have used : c.column ∈ s.columns := by
    simp only [Select.columns, List.mem_append, List.mem_map_of_mem there, true_or, or_true]
  rw [Function.comp_apply, Condition.holds_test,
    Condition.holds_congr (h.get?_shown_field joins mem used)]

theorem precedes_shown {order : OrderBy} (ordered : s.orderBy = some order) {row' : Record}
    (mem : row ∈ doc.table s.table) (mem' : row' ∈ doc.table s.table) :
    order.precedes s.join (s.shown doc row) (s.shown doc row') = order.arranges join
      (join.pair (doc.table join.table) row) (join.pair (doc.table join.table) row') := by
  have used : order.column ∈ s.columns := by simp [Select.columns, ordered]
  simp only [OrderBy.precedes, OrderBy.arranges, joins, h.get?_shown_field joins mem used,
    h.get?_shown_field joins mem' used]

theorem arrange_map {ps : List Pair} (among : ∀ p ∈ ps, p ∈ s.pairs join doc) :
    s.arrange (ps.map fun p => s.shown doc p.primary) =
      (s.arrangePairs join ps).map fun p => s.shown doc p.primary := by
  unfold arrange arrangePairs
  cases ordered : s.orderBy with
  | none => rfl
  | some order =>
    refine (List.map_mergeSort fun p there p' there' => ?_).symm
    obtain ⟨row, mem, rfl⟩ := List.mem_map.mp (among p there)
    obtain ⟨row', mem', rfl⟩ := List.mem_map.mp (among p' there')
    exact (h.precedes_shown joins ordered mem mem').symm

theorem rows_eq_map_joinedPairs : s.rows now [] doc =
    (s.joinedPairs now join doc).map fun p => s.shown doc p.primary := by
  have candidates : s.candidates doc = (s.pairs join doc).map fun p => s.shown doc p.primary := by
    rw [pairs, List.map_map]
    rfl
  -- Conditions are tested on flat rows, but they hold there as they hold of the pairs.
  have kept : (s.pairs join doc).filter (fun p => Test.allHold
      (s.conditions.map (Condition.test now s.join)) (s.shown doc p.primary)) =
      (s.pairs join doc).filter fun p => s.conditions.all (·.holds now (p.value join)) := by
    refine List.filter_congr fun p there => ?_
    obtain ⟨row, mem, rfl⟩ := List.mem_map.mp there
    exact h.allHold_shown joins mem
  rw [rows_nil, candidates, List.filter_map, Function.comp_def, kept,
    h.arrange_map joins fun p there => List.mem_of_mem_filter there, Window.apply_map, joinedPairs]

end TellsApart

theorem mem_arrangePairs {ps : List Pair} {p : Pair} :
    p ∈ s.arrangePairs join ps ↔ p ∈ ps := by
  unfold arrangePairs
  cases s.orderBy with
  | none => rfl
  | some order => exact List.mem_mergeSort

theorem mem_pairs_of_mem_joinedPairs {now : Instant} {p : Pair}
    (selected : p ∈ s.joinedPairs now join doc) : p ∈ s.pairs join doc :=
  List.mem_of_mem_filter (mem_arrangePairs.mp ((Window.apply_sublist _ _).mem selected))

/-- A selection from two tables returns one row for each selected pair, in the order of the pairs,
    and each row shows its pair. Records whose keys are null or missing belong to no pair. -/
theorem join_is_relational (now : Instant) (params : List Json) (joins : s.join = some join)
    (h : s.TellsApart join (doc.table s.table)) :
    List.Forall₂ (s.Shows join) ((s.fill params).joinedPairs now join doc)
      (s.rows now params doc) ∧
    ∀ row record, join.relates row record = true →
      Json.isMissing ((Pair.mk row (some record)).value join join.left) = false ∧
      Json.isMissing ((Pair.mk row (some record)).value join join.right) = false := by
  refine ⟨?_, fun _ _ related => Json.present_of_sameKey related⟩
  rw [← rows_fill, (h.fill params).rows_eq_map_joinedPairs joins]
  refine List.forall₂_map_right_iff.mpr (List.forall₂_same.mpr fun p selected => ?_)
  obtain ⟨row, mem, rfl⟩ := List.mem_map.mp (mem_pairs_of_mem_joinedPairs selected)
  exact h.shows_shown joins mem

/-! ## A listing -/

/-- The calculations with the names of those who made them, as they are listed. -/
def listing : Select :=
  Creators.joined "calculations" "c" [Creators.name] [.isNull ⟨some "c", "deleted_at"⟩] "id"

def creators : Join := ⟨"users", "u", ⟨some "c", "created_by"⟩, ⟨some "u", "id"⟩⟩

def administrator : Record := .ofList [("id", .text "u1"), ("name", .text "Administrator")]

def calculation (id : Nat) (user : String) : Record :=
  .ofList [("id", .number (.int id)), ("created_by", .text user)]

/-- A document with a calculation of a user, and one of a user that is not there. -/
def listed : Document := ⟨.empty, .ofList
  [("calculations", [calculation 1 "u1", calculation 2 "u9"]), ("users", [administrator])]⟩

theorem join_is_relational_in_listing :
    listing.join = some creators ∧
    listing.TellsApart creators (listed.table "calculations") ∧
    List.Forall₂ (listing.Shows creators)
      [⟨calculation 2 "u9", none⟩, ⟨calculation 1 "u1", some administrator⟩]
      (listing.rows 0 [] listed) := by
  have joins : listing.join = some creators := rfl
  have apart : listing.TellsApart creators (listed.table "calculations") :=
    ⟨by decide, by decide, by decide, by decide +kernel, by decide +kernel⟩
  have kept : ((listing.fill []).pairs creators listed).filter (fun p =>
      (listing.fill []).conditions.all (·.holds 0 (p.value creators))) =
      [⟨calculation 1 "u1", some administrator⟩, ⟨calculation 2 "u9", none⟩] := by decide +kernel
  have behind : OrderBy.arranges ⟨⟨some "c", "id"⟩, true⟩ creators
      ⟨calculation 1 "u1", some administrator⟩ ⟨calculation 2 "u9", none⟩ = false := by
    decide +kernel
  have pairs : (listing.fill []).joinedPairs 0 creators listed =
      [⟨calculation 2 "u9", none⟩, ⟨calculation 1 "u1", some administrator⟩] := by
    rw [joinedPairs, kept]
    show Window.apply ⟨0, none⟩ (List.mergeSort _ _) = _
    simp [Window.apply, List.mergeSort, List.MergeSort.Internal.splitInTwo, behind]
  have shown := (join_is_relational 0 [] joins apart).1
  exact ⟨joins, apart, pairs ▸ shown⟩

end Select

end OfferBook
