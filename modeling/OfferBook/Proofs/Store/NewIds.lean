import OfferBook.Proofs.Store.Durability

/-! # Ids of new rows

A new row gets the number after the id counter of its table. A stored document whose rows have
integer ids without a counter for them, as files of earlier versions may, is opened with a counter
of zero, and the ids are given out once more.

* `Document.Covers` — the counter of a table has reached all integer ids of its rows.
* `Covers.insert`, `Covers.update`, `Covers.delete`, `Covers.advanceCounter` — no change that names
  no ids takes this away.
* `Store.within_performAll` — no step counts an id counter down.
* `Store.new_id_differs` — where the stored counter has reached the ids, a new row gets none of
  them.
* `Store.new_id_is_taken` — where there is no counter, it does.
-/

namespace OfferBook

/-! ## The id of a new row -/

theorem Insert.map_fst_assignments_subset (now : Instant) (params : List Json) (s : Insert) :
    ∀ column ∈ (s.assignments now params).map Prod.fst, column ∈ s.columns := by
  intro column hcolumn
  obtain ⟨a, ha, rfl⟩ := List.mem_map.mp hcolumn
  exact (List.of_mem_zip ha).1

theorem Insert.get?_row_id_of_unnamed {s : Insert} (unnamed : "id" ∉ s.columns) (now : Instant)
    (params : List Json) (id : Int) : (s.row now params id).get? "id" = some (.int id) := by
  have unassigned : "id" ∉ (s.assignments now params).map Prod.fst :=
    fun named => unnamed (s.map_fst_assignments_subset now params "id" named)
  rw [row, Dict.get?_insertIfNew, if_neg (by decide), get?_assign_of_notMem unassigned,
    Dict.get?_insert_self]

theorem Update.get?_assign_id {s : Update} (unnamed : "id" ∉ s.assignments.map Prod.fst)
    (now : Instant) (params : List Json) (row : Record) :
    (assign (s.bound now params).1 row).get? "id" = row.get? "id" := by
  refine get?_assign_of_notMem (fun assigned => ?_) row
  obtain ⟨a, ha, named⟩ := List.mem_map.mp assigned
  exact unnamed (named ▸ (List.of_mem_zip ha).1)

namespace Document

/-! ## Counters that have reached the ids -/

variable {doc : Document} {now : Instant} {params : List Json} {t : String}

/-- No row of the table has an integer for its id that is greater than the table's id counter. -/
def Covers (t : String) (doc : Document) : Prop :=
  ∀ row ∈ doc.table t, ∀ id, row.get? "id" = some (.int id) → id ≤ doc.lastId t

theorem Covers.ensureKnown (h : doc.Covers t) : doc.ensureKnown.Covers t := by
  obtain ⟨rows, last, -⟩ := view_ensureKnown doc t
  rw [Covers, rows, last]
  exact h

theorem Covers.insert (h : doc.Covers t) {s : Insert} (unnamed : s.table = t → "id" ∉ s.columns) :
    (s.apply now params doc).2.Covers t := by
  intro row hrow id found
  have rows : (s.apply now params doc).2.table t =
      if t = s.table then doc.table t ++ [s.row now params (doc.lastId s.table + 1)]
      else doc.table t := by simp [Insert.apply]
  have last : (s.apply now params doc).2.lastId t =
      if t = s.table then doc.lastId t + 1 else doc.lastId t := by simp [Insert.apply]
  rw [rows] at hrow
  rw [last]
  split at hrow
  · next same =>
    rw [if_pos same]
    rcases List.mem_append.mp hrow with old | new
    · have := h row old id found
      omega
    · -- The new row has the number up to which the counter was counted.
      rw [List.mem_singleton.mp new, Insert.get?_row_id_of_unnamed (unnamed same.symm)] at found
      have : doc.lastId s.table + 1 = id := by simpa [Json.int] using found
      rw [← same] at this
      omega
  · next other =>
    rw [if_neg other]
    exact h row hrow id found

theorem Covers.update (h : doc.Covers t) {s : Update}
    (unnamed : s.table = t → "id" ∉ s.assignments.map Prod.fst) :
    (s.apply now params doc).2.Covers t := by
  unfold Update.apply
  dsimp only
  split
  · intro row hrow id found
    rw [table_setTable] at hrow
    rw [lastId_setTable]
    split at hrow
    · next same =>
      obtain ⟨old, there, rfl⟩ := List.mem_map.mp hrow
      refine h old (same ▸ there) id ?_
      split at found
      · rwa [Update.get?_assign_id (unnamed same.symm)] at found
      · exact found
    · exact h row hrow id found
  · exact h

theorem Covers.delete (h : doc.Covers t) (s : Delete) : (s.apply now params doc).2.Covers t := by
  unfold Delete.apply
  dsimp only
  split
  · intro row hrow id found
    rw [table_setTable] at hrow
    rw [lastId_setTable]
    split at hrow
    · next same => exact h row (same ▸ (List.mem_filter.mp hrow).1) id found
    · exact h row hrow id found
  · exact h

theorem get?_id_of_advanceRow {key : String} {rows rows' : List Record} {value : Int}
    (advanced : advanceRow key rows = some (value, rows')) :
    ∀ row' ∈ rows', ∃ row ∈ rows, row'.get? "id" = row.get? "id" := by
  induction rows generalizing rows' value with
  | nil => exact absurd advanced nofun
  | cons row rest ih =>
    rw [advanceRow] at advanced
    split at advanced
    · obtain ⟨-, rfl⟩ := Prod.mk.inj (Option.some.inj advanced)
      refine List.forall_mem_cons.mpr ⟨⟨row, List.mem_cons_self, ?_⟩, fun row' hrow' => ?_⟩
      · exact Dict.get?_insert_of_ne row (by decide) _
      · exact ⟨row', List.mem_cons_of_mem _ hrow', rfl⟩
    · obtain ⟨⟨value', rest'⟩, later, same⟩ := Option.map_eq_some_iff.mp advanced
      obtain ⟨-, rfl⟩ := Prod.mk.inj same
      refine List.forall_mem_cons.mpr ⟨⟨row, List.mem_cons_self, rfl⟩, fun row' hrow' => ?_⟩
      obtain ⟨old, there, kept⟩ := ih later row' hrow'
      exact ⟨old, List.mem_cons_of_mem _ there, kept⟩

theorem Covers.advanceCounter (h : doc.Covers t) (key : String) :
    (doc.advanceCounter now key).2.Covers t := by
  unfold Document.advanceCounter
  split
  · next advanced =>
    intro row hrow id found
    rw [table_setTable] at hrow
    rw [lastId_setTable]
    split at hrow
    · next same =>
      obtain ⟨old, there, kept⟩ := get?_id_of_advanceRow advanced row hrow
      exact h old (same ▸ there) id (kept ▸ found)
    · exact h row hrow id found
  · intro row hrow id found
    simp only [table_append, table_nextId, lastId_append, lastId_nextId, nextId_fst] at hrow ⊢
    split at hrow
    · next same =>
      rw [if_pos same]
      rcases List.mem_append.mp hrow with old | new
      · have := h row old id found
        omega
      · -- A named counter that is new is a row itself, and gets an id as other rows do.
        rw [List.mem_singleton.mp new] at found
        have : doc.lastId countersTable + 1 = id := by
          simpa [counterRow, Dict.ofList_eq_foldl, Dict.get?_insert, Json.int] using found
        rw [← same] at this
        omega
    · next other =>
      rw [if_neg other]
      exact h row hrow id found

end Document

/-! ## Steps that name no ids -/

/-- A statement that gives no row of the table an id of its own. -/
def Statement.LeavesIds (t : String) : Statement → Prop
  | .insert s => s.table = t → "id" ∉ s.columns
  | .update s => s.table = t → "id" ∉ s.assignments.map Prod.fst
  | .delete _ | .select _ => True

namespace Store

/-- A step on an open store that gives no row of the table an id of its own. -/
def Step.LeavesIds (t : String) : Step → Prop
  | .run _ _ sql | .first _ _ sql | .all _ _ sql =>
    ∀ s, Statement.parse? sql = some s → s.LeavesIds t
  | .bump .. => True
  | .reopen => False

variable {m : Type} [Medium m] {s s' : Store m} {t : String}

theorem covers_statementChange {now : Instant} {params : List Json} {statement : Statement}
    {change : Document → Document} {doc : Document} (leaves : statement.LeavesIds t)
    (changes : statementChange? now params (some statement) = some change)
    (covered : doc.Covers t) : (change doc).Covers t := by
  cases statement with
  | select => exact absurd changes nofun
  | insert s =>
    obtain rfl := Option.some.inj changes
    exact covered.insert leaves
  | update s =>
    obtain rfl := Option.some.inj changes
    exact covered.update leaves
  | delete s =>
    obtain rfl := Option.some.inj changes
    exact covered.delete s

theorem Step.LeavesIds.covers_change {step : Step} {change : Document → Document}
    {doc : Document} (leaves : step.LeavesIds t) (changes : step.change? = some change)
    (covered : doc.Covers t) : (change doc).Covers t := by
  have text (now : Instant) (params : List Json) (sql : String)
      (leaves : ∀ s, Statement.parse? sql = some s → s.LeavesIds t)
      (changes : statementChange? now params (Statement.parse? sql) = some change) :
      (change doc).Covers t := by
    cases read : Statement.parse? sql with
    | none =>
      rw [read] at changes
      exact absurd changes nofun
    | some statement =>
      rw [read] at changes
      exact covers_statementChange (leaves statement read) changes covered
  cases step with
  | run now params sql => exact text now params sql leaves changes
  | first now params sql => exact text now params sql leaves changes
  | all now params sql => exact text now params sql leaves changes
  | bump now key =>
    obtain rfl := Option.some.inj changes
    exact covered.advanceCounter key
  | reopen => exact leaves.elim

theorem Step.LeavesIds.ended {step : Step} (leaves : step.LeavesIds t) :
    Ended s step.change? (step.perform.run.run s) := by
  refine ended_of_ne_reopen ?_
  rintro rfl
  exact leaves.elim

theorem Step.LeavesIds.covers {step : Step} (leaves : step.LeavesIds t)
    (covered : s.document.Covers t) : (step.perform.run.run s).2.document.Covers t := by
  have ended := leaves.ended (s := s)
  generalize changes : step.change? = change? at ended
  generalize step.perform.run.run s = result at ended
  -- What is not saved is undone, the counter included.
  cases ended with
  | read | undone => exact covered
  | saved => exact leaves.covers_change changes covered

/-- A change that takes nothing away and counts nothing down, or none. -/
theorem Ended.within {α : Type} {change? : Option (Document → Document)}
    {result : Except StorageError α × Store m} (h : Ended s change? result)
    (grows : ∀ change, change? = some change → ∀ doc : Document, doc.Within (change doc)) :
    s.document.Within result.2.document := by
  cases h with
  | read | undone => exact .refl _
  | saved => exact grows _ rfl _

theorem within_performAll {steps : List Step} (leave : ∀ step ∈ steps, step.LeavesIds t) :
    s.document.Within (performAll s steps).document := by
  induction steps generalizing s with
  | nil => exact .refl _
  | cons step rest ih =>
    obtain ⟨first, others⟩ := List.forall_mem_cons.mp leave
    exact (first.ended.within fun _ => Step.within_change).trans (ih others)

theorem covers_performAll {steps : List Step} (leave : ∀ step ∈ steps, step.LeavesIds t)
    (covered : s.document.Covers t) : (performAll s steps).document.Covers t := by
  induction steps generalizing s with
  | nil => exact covered
  | cons step rest ih =>
    obtain ⟨first, others⟩ := List.forall_mem_cons.mp leave
    exact ih others (first.covers covered)

/-- What is opened is covered if what is stored is; a fresh document has no rows. -/
theorem covers_of_openFrom {medium opened : m} {doc : Document}
    (h : openFrom medium = (.ok doc, opened))
    (covered : ∀ stored, Medium.load medium = .ok (some stored) → stored.Covers t) :
    doc.Covers t := by
  unfold openFrom at h
  split at h
  · next loaded stored =>
    obtain rfl := Except.ok.inj (Prod.mk.inj h).1
    exact (covered loaded stored).ensureKnown
  · have blank : Document.blank.Covers t := nofun
    cases saved : (Medium.save Document.fresh medium).1 with
    | error e => simp [saved, Except.map] at h
    | ok =>
      simp only [saved, Except.map, Prod.mk.injEq, Except.ok.injEq] at h
      obtain ⟨rfl, -⟩ := h
      exact blank.ensureKnown

/-- An insertion that was saved gave out the number after the counter. -/
theorem insertedId_of_run {now : Instant} {params : List Json} {sql : String} {inserted : Insert}
    {e : Execution} (read : Statement.parse? sql = some (.insert inserted))
    (unnamed : "id" ∉ inserted.columns) (ran : (run now params sql).run.run s = (.ok e, s')) :
    e.insertedId = .int (s.document.lastId inserted.table + 1) := by
  rcases saved : Medium.save (inserted.apply now params s.document).2 s.medium with
    ⟨error | _, medium⟩
  · have failed : (execute now params (.insert inserted)).run.run s =
        (.error error, ⟨s.document, medium⟩) := run_bind_error (run_commit_error saved)
    rw [run, read] at ran
    cases (Prod.mk.inj ((run_bind_error failed).symm.trans ran)).1
  · obtain ⟨same, -⟩ := Prod.mk.inj ((run_insert read saved).symm.trans ran)
    rw [← Except.ok.inj same]
    exact congrArg (·.getD .null) (Insert.get?_row_id_of_unnamed unnamed now params _)

/-! ## The result -/

/-- A store was opened on a medium of any kind, where the counter of a table has reached the ids
    of the table's rows or nothing can be read. After any steps that name no ids for the table,
    whichever of them fail, a row that is inserted without an id gets an integer that is the id of
    no row of the table. Where the ids have 64 bits after that, none on the way was beyond the
    greatest integer of that width, so that counting without bounds is counting in such words. -/
theorem new_id_differs {medium opened : m} {doc : Document}
    (h : openFrom medium = (.ok doc, opened))
    (covered : ∀ stored, Medium.load medium = .ok (some stored) → stored.Covers t)
    {steps : List Step} (leave : ∀ step ∈ steps, step.LeavesIds t) {now : Instant}
    {params : List Json} {sql : String} {inserted : Insert}
    (read : Statement.parse? sql = some (.insert inserted)) (into : inserted.table = t)
    (unnamed : "id" ∉ inserted.columns) {e : Execution}
    (ran : (run now params sql).run.run (performAll ⟨doc, opened⟩ steps) = (.ok e, s')) :
    (∃ id, e.insertedId = .int id ∧
      ∀ row ∈ (performAll ⟨doc, opened⟩ steps).document.table t,
        row.get? "id" ≠ some (.int id)) ∧
    (s'.document.CountersFit → ∀ earlier, earlier <+: steps → ∀ u,
      (performAll ⟨doc, opened⟩ earlier).document.lastId u < 9223372036854775808) := by
  constructor
  · have covers : (performAll ⟨doc, opened⟩ steps).document.Covers t :=
      covers_performAll leave (covers_of_openFrom h covered)
    refine ⟨_, insertedId_of_run read unnamed ran, fun row hrow same => ?_⟩
    have := covers row hrow _ same
    rw [into] at this
    omega
  · rintro fits earlier ⟨later, rfl⟩
    have last := (ended_run (s := performAll ⟨doc, opened⟩ (earlier ++ later)) now params
      sql).within fun change => @Step.within_change (.run now params sql) change
    rw [ran, performAll, List.foldl_append] at last
    exact fits.lastId_lt ((within_performAll fun step mem =>
      leave step (List.mem_append_right earlier mem)).trans last)

/-- Rows of an earlier version, without and with a counter. -/
def legacyRows : Dict (List Record) :=
  .ofList [("calculations", [.ofList [("id", .int 1), ("kunde", .text "Alt")]])]

/-- After a named counter was counted up, a second row gets the next number. -/
theorem new_id_differs_after_bump :
    ∃ e s, (run 0 [] "INSERT INTO calculations (kunde) VALUES ('Neu')").run.run
        (performAll (⟨Document.ensureKnown ⟨.ofList [("calculations", 1)], legacyRows⟩,
            ⟨some ⟨.ofList [("calculations", 1)], legacyRows⟩, false, none, 0⟩⟩ : Store Memory)
          [.bump 0 "offers"]) = (.ok e, s) ∧
      ∃ id, e.insertedId = .int id ∧
        ∀ row ∈ (performAll (⟨Document.ensureKnown ⟨.ofList [("calculations", 1)], legacyRows⟩,
            ⟨some ⟨.ofList [("calculations", 1)], legacyRows⟩, false, none, 0⟩⟩ : Store Memory)
          [.bump 0 "offers"]).document.table "calculations", row.get? "id" ≠ some (.int id) := by
  have read : Statement.parse? "INSERT INTO calculations (kunde) VALUES ('Neu')" =
      some (.insert ⟨"calculations", ["kunde"], [.literal (.text "Neu")]⟩) := by decide +kernel
  have opened : openFrom
      (⟨some ⟨.ofList [("calculations", 1)], legacyRows⟩, false, none, 0⟩ : Memory) =
        (.ok (Document.ensureKnown ⟨.ofList [("calculations", 1)], legacyRows⟩), _) := rfl
  have covered : Document.Covers "calculations" ⟨.ofList [("calculations", 1)], legacyRows⟩ := by
    intro row hrow id found
    obtain rfl := List.mem_singleton.mp (show row ∈ [_] from hrow)
    have : id = 1 := by simpa [Dict.ofList_eq_foldl, Dict.get?_insert, Json.int] using found.symm
    exact Int.le_of_eq this
  have leaves : Step.LeavesIds "calculations" (.bump 0 "offers") := trivial
  refine ⟨_, _, run_insert read rfl, (new_id_differs opened (fun stored loaded => ?_)
    (List.forall_mem_singleton.mpr leaves) read rfl (by decide) (run_insert read rfl)).1⟩
  obtain rfl := Option.some.inj (Except.ok.inj loaded)
  exact covered

/-- A row without a counter for its id is joined by another one with that id. -/
theorem new_id_is_taken :
    ∃ doc e s, openFrom (⟨some ⟨.empty, legacyRows⟩, false, none, 0⟩ : Memory) =
        (.ok doc, ⟨some ⟨.empty, legacyRows⟩, false, none, 0⟩) ∧
      (run 0 [] "INSERT INTO calculations (kunde) VALUES ('Neu')").run.run
        (⟨doc, ⟨some ⟨.empty, legacyRows⟩, false, none, 0⟩⟩ : Store Memory) = (.ok e, s) ∧
      ∃ row ∈ doc.table "calculations", row.get? "id" = some e.insertedId := by
  have read : Statement.parse? "INSERT INTO calculations (kunde) VALUES ('Neu')" =
      some (.insert ⟨"calculations", ["kunde"], [.literal (.text "Neu")]⟩) := by decide +kernel
  refine ⟨_, _, _, rfl, run_insert read rfl, ?_⟩
  decide +kernel

end Store

end OfferBook
