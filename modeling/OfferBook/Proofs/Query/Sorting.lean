import OfferBook.Proofs.Number.Integers
import OfferBook.Query.Select
import OfferBook.Statement.Compose

/-! # The order of rows

* `Json.compareValues_eq` — the order of fields is that of their kinds, then that of numbers,
  then that of texts; so it is total and transitive.
* `OrderBy.pairwise_sort`, `OrderBy.precedes_of_head?_sort` — sorted rows, and the first of them.
* `OrderBy.sort_cons`, `OrderBy.filter_sort` — sorting is stable: some of the rows are in the same
  order as they are among all.
* `OrderBy.sort_rising` — rows each of which has to stand behind all later ones are turned around.
* `Select.rows_matching`, `Select.rows_ordered`, `Select.rows_paged` — selections without a join are
  filters, sorted where they have an order, of which a page may be cut.
-/

namespace OfferBook

/-! ## Fields -/

namespace Json

/-- The place of a number or a truth value on the number line; other fields have the place zero. -/
def place (v : Option Json) : Int := ((v.bind numeric?).map Double.position).getD 0

/-- The text of a field; that of fields of other kinds is empty. -/
def lettering (v : Option Json) : String := (v.bind text?).getD ""

theorem compareValues_eq : compareValues =
    compareLex (compareOn rank) (compareLex (compareOn place) (compareOn lettering)) := by
  funext a b
  rcases a with - | (- | - | - | - | - | -) <;> rcases b with - | (- | - | - | - | - | -) <;>
    simp [compareValues, compareLex, compareOn, rank, place, lettering, numeric?, text?,
      Double.compare] <;> rfl

instance : Std.TransCmp compareValues := compareValues_eq ▸ inferInstance

theorem compareValues_swap (a b : Option Json) :
    (compareValues a b).swap = compareValues b a := (Std.OrientedCmp.eq_swap).symm

theorem isLE_compareValues_total (a b : Option Json) :
    (compareValues a b).isLE = true ∨ (compareValues b a).isLE = true := by
  rw [← compareValues_swap a b]
  cases compareValues a b <;> decide

theorem compareValues_int {a b : Nat} (h : a < b) (hb : b < Double.exactLimit) :
    compareValues (some (.int a)) (some (.int b)) = .lt :=
  Int.compare_eq_lt.mpr (Double.position_ofInt_lt h hb)

theorem compareValues_int_of_exact {a b : Nat} (h : a < b) (ha : a < Double.exactLimit) :
    compareValues (some (.int a)) (some (.int b)) = .lt :=
  Int.compare_eq_lt.mpr (Double.position_ofInt_lt_of_exact h ha)

end Json

/-! ## Rows -/

namespace OrderBy

variable {scope : Scope} {order : OrderBy} {rows : List Record}

theorem precedes_iff {a b : Record} : order.precedes scope a b = true ↔
    (if order.descending
      then Json.compareValues (b.get? (scope.field order.column))
        (a.get? (scope.field order.column))
      else Json.compareValues (a.get? (scope.field order.column))
        (b.get? (scope.field order.column))).isLE = true := by
  have isLE_iff (c : Ordering) : (c != .gt) = true ↔ c.isLE = true := by cases c <;> decide
  unfold precedes
  simp only [Json.compareValues_swap]
  split <;> exact isLE_iff _

theorem precedes_trans (a b c : Record) (hab : order.precedes scope a b = true)
    (hbc : order.precedes scope b c = true) : order.precedes scope a c = true := by
  rw [precedes_iff] at *
  -- A descending order is the other one turned around.
  cases h : order.descending with
  | true =>
    simp only [h, if_true] at *
    exact Std.TransCmp.isLE_trans hbc hab
  | false =>
    simp only [h, Bool.false_eq_true, if_false] at *
    exact Std.TransCmp.isLE_trans hab hbc

theorem precedes_total (a b : Record) :
    (order.precedes scope a b || order.precedes scope b a) = true := by
  rw [Bool.or_eq_true, precedes_iff, precedes_iff]
  split
  · exact Json.isLE_compareValues_total ..
  · exact Json.isLE_compareValues_total ..

theorem precedes_refl (a : Record) : order.precedes scope a a = true := by
  simpa using precedes_total a a

theorem pairwise_sort (rows : List Record) :
    (order.sort scope rows).Pairwise fun a b => order.precedes scope a b = true :=
  List.pairwise_mergeSort precedes_trans precedes_total rows

theorem mem_sort {row : Record} : row ∈ order.sort scope rows ↔ row ∈ rows :=
  List.mem_mergeSort

theorem sort_perm (rows : List Record) : (order.sort scope rows).Perm rows :=
  List.mergeSort_perm rows _

theorem sort_eq_nil : order.sort scope rows = [] ↔ rows = [] := by
  rw [← List.length_eq_zero_iff, ← List.length_eq_zero_iff, sort, List.length_mergeSort]

/-- The first row is one of the given rows, and none has to stand before it. -/
theorem precedes_of_head?_sort {row : Record} (h : (order.sort scope rows).head? = some row) :
    row ∈ rows ∧ ∀ other ∈ rows, order.precedes scope row other = true := by
  obtain ⟨rest, hrest⟩ := List.head?_eq_some_iff.mp h
  have sorted : (row :: rest).Pairwise fun a b => order.precedes scope a b = true :=
    hrest ▸ pairwise_sort rows
  constructor
  · exact mem_sort.mp (hrest ▸ List.mem_cons_self)
  · intro other hother
    have found : other ∈ row :: rest := hrest ▸ mem_sort.mpr hother
    rcases List.mem_cons.mp found with rfl | later
    · exact precedes_refl other
    · exact (List.pairwise_cons.mp sorted).1 other later

/-- A row goes behind all those that have to stand before it, in front of the others. -/
theorem sort_cons (row : Record) (rest : List Record) :
    order.sort scope rest = (order.sort scope rest).filter (!order.precedes scope row ·) ++
        (order.sort scope rest).filter (order.precedes scope row) ∧
      order.sort scope (row :: rest) =
        (order.sort scope rest).filter (!order.precedes scope row ·) ++
          row :: (order.sort scope rest).filter (order.precedes scope row) := by
  obtain ⟨before, after, whole, split, earlier⟩ :=
    List.mergeSort_cons precedes_trans precedes_total row rest
  have later : ∀ other ∈ after, order.precedes scope row other = true := by
    have sorted := @pairwise_sort scope order (row :: rest)
    rw [sort, whole] at sorted
    exact (List.pairwise_cons.mp (List.pairwise_append.mp sorted).2.1).1
  have none : before.filter (order.precedes scope row) = [] :=
    List.filter_eq_nil_iff.mpr fun other mem => by simpa using earlier other mem
  have all : after.filter (!order.precedes scope row ·) = [] :=
    List.filter_eq_nil_iff.mpr fun other mem => by simpa using later other mem
  simp only [sort, whole, split, List.filter_append, none, all, List.filter_eq_self.mpr earlier,
    List.filter_eq_self.mpr later, List.append_nil, List.nil_append, and_self]

/-- Rows that are left out before or after sorting leave the same ones, in the same order. -/
theorem filter_sort (p : Record → Bool) (rows : List Record) :
    (order.sort scope rows).filter p = order.sort scope (rows.filter p) := by
  induction rows with
  | nil => simp [sort]
  | cons row rest ih =>
    obtain ⟨split, whole⟩ := @sort_cons scope order row rest
    cases kept : p row with
    | true =>
      have commutes (q : Record → Bool) : ((order.sort scope rest).filter q).filter p =
          ((order.sort scope rest).filter p).filter q := by
        simp only [List.filter_filter, Bool.and_comm]
      rw [whole, List.filter_append, List.filter_cons_of_pos kept, commutes, commutes, ih,
        List.filter_cons_of_pos kept, (sort_cons row _).2]
    | false =>
      have out : ¬ p row = true := by simp [kept]
      rw [whole, List.filter_append, List.filter_cons_of_neg out, ← List.filter_append, ← split,
        ih, List.filter_cons_of_neg out]

/-- A first row stays the first if no other one has to stand before it. -/
theorem head?_sort {row : Record} {rest : List Record}
    (first : ∀ other ∈ rest, order.precedes scope row other = true) :
    (order.sort scope (row :: rest)).head? = some row := by
  have none : (order.sort scope rest).filter (!order.precedes scope row ·) = [] :=
    List.filter_eq_nil_iff.mpr fun other mem => by simpa using first other (mem_sort.mp mem)
  rw [(sort_cons row rest).2, none, List.nil_append, List.head?_cons]

/-- In descending order a row stands behind those with greater numbers, if its own is exact. -/
theorem precedes_eq_false_of_lt {a b : Record} {i j : Nat} (descending : order.descending = true)
    (own : a.get? (scope.field order.column) = some (.int i))
    (other : b.get? (scope.field order.column) = some (.int j)) (less : i < j)
    (exact : i < Double.exactLimit) : order.precedes scope a b = false := by
  rw [Bool.eq_false_iff, ne_eq, precedes_iff, if_pos descending, own, other,
    ← Json.compareValues_swap, Json.compareValues_int_of_exact less exact]
  decide

/-- A row that has to stand behind all others. -/
theorem sort_cons_last {row : Record} {rest : List Record}
    (last : ∀ other ∈ rest, order.precedes scope row other = false) :
    order.sort scope (row :: rest) = order.sort scope rest ++ [row] := by
  have behind : ∀ other ∈ order.sort scope rest, order.precedes scope row other = false :=
    fun other mem => last other (mem_sort.mp mem)
  have all : (order.sort scope rest).filter (!order.precedes scope row ·) =
      order.sort scope rest :=
    List.filter_eq_self.mpr fun other mem => by simp [behind other mem]
  have none : (order.sort scope rest).filter (order.precedes scope row) = [] :=
    List.filter_eq_nil_iff.mpr fun other mem => by simp [behind other mem]
  rw [(sort_cons row rest).2, all, none]

/-- Rows that each have to stand behind all later ones follow the others, turned around. -/
theorem sort_rising {older : List Record} (newer : List Record)
    (rising : older.Pairwise fun a b => order.precedes scope a b = false)
    (apart : ∀ a ∈ older, ∀ b ∈ newer, order.precedes scope a b = false) :
    order.sort scope (older ++ newer) = order.sort scope newer ++ older.reverse := by
  induction older with
  | nil => simp
  | cons row rest ih =>
    obtain ⟨later, rising⟩ := List.pairwise_cons.mp rising
    have last : ∀ other ∈ rest ++ newer, order.precedes scope row other = false := fun other mem =>
      (List.mem_append.mp mem).elim (later other) (apart row List.mem_cons_self other)
    have rest := ih rising fun a mem => apart a (List.mem_cons_of_mem _ mem)
    rw [List.cons_append, sort_cons_last last, rest, List.reverse_cons, List.append_assoc]

theorem sort_eq_reverse (rising : rows.Pairwise fun a b => order.precedes scope a b = false) :
    order.sort scope rows = rows.reverse := by
  have whole := sort_rising [] rising fun _ _ => List.forall_mem_nil _
  rwa [List.append_nil, sort_eq_nil.mpr rfl, List.nil_append] at whole

end OrderBy

/-! ## Selections without a join -/

namespace Select

theorem candidates_matching (t : String) (conditions : List Condition) (doc : Document) :
    (matching t conditions).candidates doc = doc.table t := List.map_id _

theorem rows_matching (now : Instant) (doc : Document) (t : String) (conditions : List Condition) :
    (matching t conditions).rows now [] doc =
      (doc.table t).filter (Test.allHold (Condition.bindAll now none [] conditions).1) := by
  simp only [rows, candidates_matching]
  rfl

/-- What is asked for does not matter where it has no labels. -/
theorem rows_only (now : Instant) (doc : Document) (t : String) (conditions : List Condition)
    (columns : List String) : ((matching t conditions).only columns).rows now [] doc =
      (matching t conditions).rows now [] doc := by
  have unlabelled : ((columns.map fun c => Projection.column (.bare c) none).filterMap
      ((matching t conditions).only columns).ownLabel?) = [] :=
    List.filterMap_eq_nil_iff.mpr fun p hp => by
      obtain ⟨c, -, rfl⟩ := List.mem_map.mp hp
      rfl
  have shown (row : Record) : ((matching t conditions).only columns).label row = row :=
    congrArg (List.foldl _ row) unlabelled
  have candidates : ((matching t conditions).only columns).candidates doc =
      (matching t conditions).candidates doc :=
    (List.map_congr_left fun row _ => shown row).trans rfl
  simp only [rows, candidates]
  rfl

theorem rows_first (now : Instant) (doc : Document) (t : String) (conditions : List Condition) :
    ({ matching t conditions with limit := some (.literal (.int 1)) } : Select).rows now [] doc =
      ((matching t conditions).rows now [] doc).take 1 := rfl

theorem rows_ordered (now : Instant) (doc : Document) (t : String) (conditions : List Condition)
    (column : Column) (descending : Bool) :
    ((matching t conditions).ordered column descending).rows now [] doc =
      OrderBy.sort none ⟨column, descending⟩
        ((doc.table t).filter (Test.allHold (Condition.bindAll now none [] conditions).1)) := by
  rw [← candidates_matching t conditions doc]
  rfl

theorem rows_ordered_one (now : Instant) (doc : Document) (t : String)
    (conditions : List Condition) (column : Column) (descending : Bool) :
    ({ (matching t conditions).ordered column descending with
        limit := some (.literal (.int 1)) } : Select).rows now [] doc =
      (OrderBy.sort none ⟨column, descending⟩ ((doc.table t).filter
        (Test.allHold (Condition.bindAll now none [] conditions).1))).take 1 := by
  rw [← candidates_matching t conditions doc]
  rfl

theorem rows_paged (now : Instant) (doc : Document) (t : String) (column : Column)
    (descending : Bool) (limit offset : Nat) :
    ({ (matching t []).ordered column descending with
        limit := some (.literal (.int limit)), offset := some (.literal (.int offset)) } :
          Select).rows now [] doc =
      ((OrderBy.sort none ⟨column, descending⟩ (doc.table t)).drop offset).take limit := by
  have all : (doc.table t).filter (Test.allHold (Condition.bindAll now none [] []).1) =
      doc.table t := List.filter_eq_self.mpr fun _ _ => rfl
  rw [← all, ← candidates_matching t [] doc]
  rfl

end Select

end OfferBook
