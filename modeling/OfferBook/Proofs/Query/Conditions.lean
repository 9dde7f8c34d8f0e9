import Mathlib.Data.List.Forall2
import OfferBook.Proofs.Document.Filling
import OfferBook.Proofs.Query.Parameters
import OfferBook.Proofs.Query.Sorting
import OfferBook.Proofs.Store.Work
import OfferBook.Store.Memory

/-! # Conditions of selections, updates and deletions

A list of conditions stands for the same rows in each kind of statement.

* `Document.DiffersOnlyIn` — what statements leave alone that change rows of one table.
* `Document.alter` — a change of the rows of a table that need not exist; `Update.apply_eq` and
  `Delete.apply_eq` give both kinds of statements that form.
* `Rewritten` — a row after several assignments, of which the last one to a column counts.
* `Store.conditions_agree` — an update and a deletion seen from the rows that the selection finds.
-/

namespace OfferBook

/-! ## One table -/

namespace Document

/-- A document that is another one but for the rows of one table. -/
structure DiffersOnlyIn (t : String) (doc doc' : Document) : Prop where
  counters : doc'.counters = doc.counters
  others : ∀ u, u ≠ t → doc'.tables.get? u = doc.tables.get? u
  hasTable : doc'.hasTable t = doc.hasTable t

/-- Change the rows of a table, if it exists. -/
def alter (t : String) (change : List Record → List Record) (doc : Document) : Document :=
  if doc.hasTable t then doc.setTable t (change (doc.table t)) else doc

variable {t : String} {change : List Record → List Record}

theorem differsOnlyIn_alter (doc : Document) : DiffersOnlyIn t doc (doc.alter t change) := by
  unfold alter
  split
  · next there =>
    exact ⟨rfl, fun u other => Dict.get?_insert_of_ne _ other _,
      hasTable_setTable_of_hasTable there _⟩
  · exact ⟨rfl, fun _ _ => rfl, rfl⟩

theorem table_alter (none : change [] = []) (doc : Document) :
    (doc.alter t change).table t = change (doc.table t) := by
  unfold alter
  split
  · rw [table_setTable, if_pos rfl]
  · next missing => rw [table_of_hasTable_eq_false (Bool.eq_false_iff.mpr missing), none]

/-- A statement that counts rows and changes them does nothing where there is no table. -/
theorem counted_alter (p : Record → Bool) (doc : Document) :
    (if doc.hasTable t then
        (⟨(doc.table t).countP p, .null⟩, doc.setTable t (change (doc.table t)))
      else (.nothing, doc) : Execution × Document) =
      (⟨(doc.table t).countP p, .null⟩, doc.alter t change) := by
  unfold alter
  split
  · rfl
  · next missing =>
    rw [table_of_hasTable_eq_false (Bool.eq_false_iff.mpr missing)]
    rfl

end Document

/-! ## Rows -/

/-- The value that a column has after several assignments; none where it is not assigned. -/
def assigned? (column : String) (assignments : List (String × Json)) : Option Json :=
  (assignments.reverse.find? (·.1 = column)).map Prod.snd

/-- A row of which columns were assigned, the last value counting, and nothing else changed. -/
def Rewritten (assignments : List (String × Json)) (row row' : Record) : Prop :=
  ∀ column, row'.get? column = (assigned? column assignments).or (row.get? column)

theorem rewritten_assign (assignments : List (String × Json)) (row : Record) :
    Rewritten assignments row (assign assignments row) := by
  intro column
  unfold assign
  induction assignments generalizing row with
  | nil => rfl
  | cons a rest ih =>
    rw [List.foldl_cons, ih, assigned?, assigned?, List.reverse_cons, List.find?_append,
      Dict.get?_insert]
    -- A later assignment to the column counts, or this one does.
    cases rest.reverse.find? (·.1 = column) with
    | some later => rfl
    | none =>
      by_cases same : a.1 = column
      · simp [same]
      · simp [same, Ne.symm same]

theorem mem_filter_self {α : Type _} {p : α → Bool} {rows : List α} {row : α} (h : row ∈ rows) :
    row ∈ rows.filter p ↔ p row = true := by
  rw [List.mem_filter]
  exact and_iff_right h

/-! ## Statements -/

section Statements

variable (now : Instant) (params : List Json) (doc : Document)

/-- The rows of a table that meet some conditions. -/
theorem Select.rows_matching_fill (t : String) (conditions : List Condition) :
    (matching t conditions).rows now params doc = (doc.table t).filter
      (Test.allHold ((Condition.fillAll params 0 conditions).map (Condition.test now none))) := by
  rw [← rows_fill]
  exact (rows_matching now doc t (Condition.fillAll params 0 conditions)).trans
    (by rw [Condition.bindAll_nil])

/-- What a deletion finds is what it leaves out. -/
theorem Delete.apply_eq (s : Delete) : s.apply now params doc =
    (⟨((Select.matching s.table s.conditions).rows now params doc).length, .null⟩,
      doc.alter s.table (List.filter fun row => !Test.allHold
        ((Condition.fillAll params 0 s.conditions).map (Condition.test now none)) row)) := by
  rw [Select.rows_matching_fill, ← List.countP_eq_length_filter]
  simp only [apply, Condition.bindAll_eq now none s.conditions params]
  exact Document.counted_alter _ doc

/-- The values of the assignments of an update. -/
def Update.values (s : Update) : List (String × Json) :=
  (s.assignments.map Prod.fst).zip
    ((Operand.fillAll params 0 (s.assignments.map Prod.snd)).map (Operand.value now))

/-- What an update finds with the parameters behind those of its assignments is what it
    changes. -/
theorem Update.apply_eq (s : Update) {given : List Json}
    (enough : given.length = Operand.placeholders (s.assignments.map Prod.snd)) :
    s.apply now (given ++ params) doc =
      (⟨((Select.matching s.table s.conditions).rows now params doc).length, .null⟩,
        doc.alter s.table (List.map fun row =>
          if Test.allHold ((Condition.fillAll params 0 s.conditions).map
            (Condition.test now none)) row then assign (s.values now given) row else row)) := by
  have values : Operand.fillAll (given ++ params) 0 (s.assignments.map Prod.snd) =
      Operand.fillAll given 0 (s.assignments.map Prod.snd) :=
    Operand.fillAll_congr _ fun i hi => by
      rw [Nat.zero_add, ← enough] at hi
      rw [List.getD_eq_getElem?_getD, List.getD_eq_getElem?_getD, List.getElem?_append_left hi]
  have rest : (given ++ params).drop
      (Operand.placeholders (s.assignments.map Prod.snd)) = params := by
    rw [← enough, List.drop_left]
  rw [Select.rows_matching_fill, ← List.countP_eq_length_filter]
  simp only [apply, bound, Update.values, Operand.bindAll_eq now (given ++ params), values, rest,
    Condition.bindAll_eq now none s.conditions params]
  exact Document.counted_alter _ doc

end Statements

/-! ## The result -/

namespace Store

variable {m : Type} [Medium m] {s : Store m}

/-- The medium takes a document in the place of the one that it holds. -/
def Saves (s : Store m) (doc : Document) : Prop := (Medium.save doc s.medium).1 = .ok ()

/-- A change that is saved. -/
theorem run_changed {change : Document → Execution × Document} {e : Execution} {doc : Document}
    (changes : change s.document = (e, doc)) (saves : s.Saves doc) :
    ∃ medium, (do return .changed (← commit change) : StoreM m Outcome).run.run s =
      (.ok (.changed e), ⟨doc, medium⟩) := by
  obtain rfl : (change s.document).2 = doc := congrArg Prod.snd changes
  have committed := run_commit_ok (s := s) (Prod.ext saves rfl)
  rw [changes] at committed
  exact ⟨_, run_bind_ok committed⟩

/-- The rows that a selection finds are those that a deletion with the same conditions takes away
    and an update changes, where what they leave can be saved. Both tell how many these are. The
    other rows stay as they are, in their order, and so do the other tables and the id counters. -/
theorem conditions_agree (s : Store m) (now : Instant) (params : List Json) (t : String)
    (conditions : List Condition) (assignments : List (String × Operand)) (given : List Json)
    (enough : given.length = Operand.placeholders (assignments.map Prod.snd)) :
    ∃ found, (execute now params (.select (.matching t conditions))).run.run s =
        (.ok (.rows found), s) ∧
      (s.Saves ((Delete.mk t conditions).apply now params s.document).2 →
        ∃ s', (execute now params (.delete ⟨t, conditions⟩)).run.run s =
          (.ok (.changed ⟨found.length, .null⟩), s') ∧
        s'.document.table t = (s.document.table t).filter (· ∉ found) ∧
        s.document.DiffersOnlyIn t s'.document) ∧
      (s.Saves ((Update.mk t assignments conditions).apply now (given ++ params) s.document).2 →
        ∃ s', (execute now (given ++ params) (.update ⟨t, assignments, conditions⟩)).run.run s =
          (.ok (.changed ⟨found.length, .null⟩), s') ∧
        List.Forall₂ (fun row row' =>
            (row ∈ found →
              Rewritten ((Update.mk t assignments conditions).values now given) row row') ∧
            (row ∉ found → row' = row))
          (s.document.table t) (s'.document.table t) ∧
        s.document.DiffersOnlyIn t s'.document) := by
  have found := Select.rows_matching_fill now params s.document t conditions
  refine ⟨_, rfl, fun saves => ?_, fun saves => ?_⟩
  · have deletes := Delete.apply_eq now params s.document ⟨t, conditions⟩
    rw [deletes] at saves
    obtain ⟨_, deleted⟩ := run_changed deletes saves
    refine ⟨_, deleted, ?_, Document.differsOnlyIn_alter _⟩
    rw [Document.table_alter rfl, found]
    refine List.filter_congr fun row there => ?_
    simp only [mem_filter_self there, Bool.not_eq_true, Bool.decide_eq_false]
  · have updates := Update.apply_eq now params s.document ⟨t, assignments, conditions⟩ enough
    rw [updates] at saves
    obtain ⟨_, updated⟩ := run_changed updates saves
    refine ⟨_, updated, ?_, Document.differsOnlyIn_alter _⟩
    rw [Document.table_alter rfl, found, List.forall₂_map_right_iff, List.forall₂_same]
    intro row there
    rw [mem_filter_self there]
    constructor
    · intro chosen
      rw [if_pos chosen]
      exact rewritten_assign _ row
    · intro other
      rw [if_neg other]

/-! ## Two users -/

def userNamed (name : String) : Record := .ofList [("name", .text name)]

/-- Users in memory that has room for any number of saves. -/
def twoUsers : Store Memory :=
  ⟨⟨.empty, .ofList [("users", [userNamed "a", userNamed "b"])]⟩, ⟨none, false, none, 0⟩⟩

/-- A name that is looked for. -/
def hasName : List Condition := [.equals (.bare "name") .placeholder]

/-- A name is set twice, where it is the first user's. -/
theorem conditions_agree_on_two_users :
    ∃ deleted updated : Store Memory,
      (execute 0 [.text "a"] (.delete ⟨"users", hasName⟩)).run.run twoUsers =
        (.ok (.changed ⟨1, .null⟩), deleted) ∧
      deleted.document.table "users" = [userNamed "b"] ∧
      (execute 0 [.text "c", .text "d", .text "a"]
          (.update ⟨"users", [("name", .placeholder), ("name", .placeholder)], hasName⟩)).run.run
            twoUsers = (.ok (.changed ⟨1, .null⟩), updated) ∧
      (updated.document.table "users").map (·.get? "name") = [some (.text "d"), some (.text "b")] ∧
      twoUsers.document.DiffersOnlyIn "users" updated.document := by
  have saves (doc : Document) : twoUsers.Saves doc := rfl
  obtain ⟨found, selected, deletes, updates⟩ := conditions_agree twoUsers 0 [.text "a"] "users"
    hasName [("name", .placeholder), ("name", .placeholder)] [.text "c", .text "d"] (by decide)
  obtain ⟨deleted, left, rest, -⟩ := deletes (saves _)
  obtain ⟨updated, changed, rewritten, differs⟩ := updates (saves _)
  have first : (Select.matching "users" hasName).rows 0 [.text "a"] twoUsers.document =
      [userNamed "a"] := by decide +kernel
  obtain rfl : [userNamed "a"] = found :=
    first.symm.trans (Outcome.rows.inj (Except.ok.inj (Prod.mk.inj selected).1))
  refine ⟨deleted, updated, left, ?_, changed, ?_, differs⟩
  · rw [rest]
    decide +kernel
  · obtain ⟨a, others, ⟨assigned, -⟩, more, same⟩ := List.forall₂_cons_left_iff.mp rewritten
    obtain ⟨b, none, ⟨-, kept⟩, ended, rfl⟩ := List.forall₂_cons_left_iff.mp more
    obtain rfl := List.forall₂_nil_left_iff.mp ended
    rw [same, kept (by decide), List.map_cons, assigned List.mem_cons_self]
    rfl

end Store

end OfferBook
