import OfferBook.Proofs.Query.Labels
import OfferBook.Proofs.Query.Sorting
import OfferBook.Proofs.Statement.Parsing

/-! # Ordered selections

An order changes nothing but the order of what is selected, and rows with equal fields stay as they
are stored, in descending order too.

* `OrderBy.Arranges` — what an order makes of rows.
* `OrderBy.arranges_sort` — so it is with every list of rows.
* `Statement.offset_eq_none_of_parse?` — rows are only skipped where their number is limited.
* `Select.order_sorts_stably` — a selection with an order and without a limit.
-/

namespace OfferBook

open Json

/-! ## Rows -/

namespace OrderBy

/-- The field by which a row is ordered. -/
def key (scope : Scope) (order : OrderBy) (row : Record) : Option Json :=
  row.get? (scope.field order.column)

/-- The same rows, ordered by their fields. Those whose fields have one place in the order stand as
    before. -/
structure Arranges (scope : Scope) (order : OrderBy) (rows sorted : List Record) : Prop where
  keeps : sorted.Perm rows
  sorts : sorted.Pairwise fun a b =>
    compareValues (order.key scope a) (order.key scope b) ≠
      if order.descending then .lt else .gt
  stays (v : Option Json) :
    sorted.filter (fun row => compareValues (order.key scope row) v = .eq) =
      rows.filter fun row => compareValues (order.key scope row) v = .eq

variable {scope : Scope} {order : OrderBy}

theorem ne_of_precedes {a b : Record} (h : order.precedes scope a b = true) :
    compareValues (order.key scope a) (order.key scope b) ≠
      if order.descending then .lt else .gt := by
  -- What may not come first in a descending order is turned around.
  have turned (c : Ordering) : (c.swap != .gt) = true → c ≠ .lt := by cases c <;> decide
  have kept (c : Ordering) : (c != .gt) = true → c ≠ .gt := by cases c <;> decide
  rw [precedes] at h
  split at h
  · next descending =>
    rw [if_pos descending]
    exact turned _ h
  · next ascending =>
    rw [if_neg ascending]
    exact kept _ h

/-- Fields with one place in the order let both rows stand before the other one. -/
theorem precedes_of_tied {a b : Record} {v : Option Json}
    (first : compareValues (order.key scope a) v = .eq)
    (second : compareValues (order.key scope b) v = .eq) : order.precedes scope a b = true := by
  have tied : compareValues (order.key scope a) (order.key scope b) = .eq :=
    Std.TransCmp.eq_trans first (Std.OrientedCmp.eq_symm second)
  have tied' : compareValues (order.key scope b) (order.key scope a) = .eq :=
    Std.OrientedCmp.eq_symm tied
  rw [key, key] at tied tied'
  rw [precedes_iff, tied, tied']
  split <;> rfl

theorem sort_of_tied {rows : List Record} {v : Option Json}
    (tied : ∀ row ∈ rows, compareValues (order.key scope row) v = .eq) :
    order.sort scope rows = rows :=
  List.mergeSort_of_pairwise <| List.pairwise_of_forall_mem_list fun a here b there =>
    precedes_of_tied (tied a here) (tied b there)

theorem arranges_sort (scope : Scope) (order : OrderBy) (rows : List Record) :
    order.Arranges scope rows (order.sort scope rows) where
  keeps := sort_perm rows
  sorts := (pairwise_sort rows).imp ne_of_precedes
  stays v := by
    rw [filter_sort]
    exact sort_of_tied fun row mem => of_decide_eq_true (List.mem_filter.mp mem).2

end OrderBy

/-! ## Selections -/

/-- Rows are only skipped where their number is limited. -/
theorem Statement.offset_eq_none_of_parse? {sql : String} {s : Select}
    (read : parse? sql = some (.select s)) (unlimited : s.limit = none) : s.offset = none := by
  obtain ⟨tokens, -, spelled⟩ := parse?_eq_some_iff.mp read
  cases spelled with
  | select _ spelled =>
    cases spelled
    rw [Option.map_eq_none_iff.mp unlimited]
    rfl

namespace Select

/-- The same selection without an order. -/
def unordered (s : Select) : Select := { s with orderBy := none }

variable {s : Select}

/-- Without an order, rows are selected as they are stored. -/
theorem rows_unordered (now : Instant) (params : List Json) (doc : Document)
    (unlimited : s.limit = none) (whole : s.offset = none) :
    s.unordered.rows now params doc = ((doc.table s.table).filter fun row =>
      Test.allHold (Condition.bindAll now s.join params s.conditions).1 (s.shown doc row)).map
        (s.shown doc) := by
  have candidates : s.unordered.candidates doc = (doc.table s.table).map (s.shown doc) := rfl
  have filtered := List.filter_map (f := s.shown doc) (l := doc.table s.table)
    (p := Test.allHold (Condition.bindAll now s.join params s.conditions).1)
  refine .trans ?_ filtered
  rw [← candidates]
  simp only [rows, unordered, unlimited, whole]
  rfl

theorem rows_of_orderBy (now : Instant) (params : List Json) (doc : Document) {order : OrderBy}
    (ordered : s.orderBy = some order) (unlimited : s.limit = none) (whole : s.offset = none) :
    s.rows now params doc = order.sort s.join (s.unordered.rows now params doc) := by
  simp only [rows, unordered, ordered, unlimited, whole]
  rfl

/-- The order of fields is total and transitive, whatever kinds they are of. A selection with an
    order and without a limit has the rows that it has without the order, those being as they are
    stored, arranged. -/
theorem order_sorts_stably :
    ((∀ a, compareValues a a = .eq) ∧
      (∀ a b, (compareValues a b).swap = compareValues b a) ∧
      (∀ a b, (compareValues a b).isLE = true ∨ (compareValues b a).isLE = true) ∧
      ∀ a b c, (compareValues a b).isLE = true → (compareValues b c).isLE = true →
        (compareValues a c).isLE = true) ∧
    ∀ (now : Instant) (params : List Json) (doc : Document) (s : Select) (order : OrderBy),
      s.orderBy = some order → s.limit = none →
      (s.offset = none ∨ ∃ sql, Statement.parse? sql = some (.select s)) →
      (∃ chosen : Record → Bool, s.unordered.rows now params doc =
        ((doc.table s.table).filter chosen).map (s.shown doc)) ∧
      order.Arranges s.join (s.unordered.rows now params doc) (s.rows now params doc) := by
  refine ⟨⟨fun _ => Std.ReflCmp.compare_self, compareValues_swap, isLE_compareValues_total,
    fun _ _ _ => Std.TransCmp.isLE_trans⟩, ?_⟩
  intro now params doc s order ordered unlimited written
  have whole : s.offset = none := by
    rcases written with whole | ⟨sql, read⟩
    · exact whole
    · exact Statement.offset_eq_none_of_parse? read unlimited
  refine ⟨⟨_, rows_unordered now params doc unlimited whole⟩, ?_⟩
  rw [rows_of_orderBy now params doc ordered unlimited whole]
  exact order.arranges_sort s.join _

/-! ## Tasks by date -/

/-- Two tasks without a date, two with the date one, and one with a text. -/
def tasks : List Record :=
  [.ofList [("id", .int 1)], .ofList [("id", .int 2), ("due", .int 1)],
    .ofList [("id", .int 3), ("due", .text "soon")], .ofList [("id", .int 4), ("due", .bool true)],
    .ofList [("id", .int 5), ("due", .null)]]

def taskBook : Document := ⟨.empty, .ofList [("tasks", tasks)]⟩

def latestFirst : Select := { matching "tasks" [] with orderBy := some ⟨.bare "due", true⟩ }

theorem order_sorts_stably_with_ties :
    Statement.parse? "SELECT * FROM tasks ORDER BY due DESC" = some (.select latestFirst) ∧
    (latestFirst.rows 0 [] taskBook).Perm tasks ∧
    ((latestFirst.rows 0 [] taskBook).Pairwise fun a b =>
      compareValues (a.get? "due") (b.get? "due") ≠ .lt) ∧
    ((latestFirst.rows 0 [] taskBook).filter fun row =>
        compareValues (row.get? "due") none = .eq) =
      [.ofList [("id", .int 1)], .ofList [("id", .int 5), ("due", .null)]] ∧
    ((latestFirst.rows 0 [] taskBook).filter fun row =>
        compareValues (row.get? "due") (some (.int 1)) = .eq) =
      [.ofList [("id", .int 2), ("due", .int 1)],
        .ofList [("id", .int 4), ("due", .bool true)]] := by
  have read : Statement.parse? "SELECT * FROM tasks ORDER BY due DESC" =
      some (.select latestFirst) := by decide +kernel
  have stored : latestFirst.unordered.rows 0 [] taskBook = tasks := rfl
  have arranged :=
    (order_sorts_stably.2 0 [] taskBook latestFirst _ rfl rfl (.inr ⟨_, read⟩)).2
  rw [stored] at arranged
  refine ⟨read, arranged.keeps, arranged.sorts, (arranged.stays none).trans ?_,
    (arranged.stays (some (.int 1))).trans ?_⟩
  · decide +kernel
  · decide +kernel

end Select

end OfferBook
