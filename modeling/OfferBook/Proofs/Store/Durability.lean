import OfferBook.Proofs.Document.Filling
import OfferBook.Proofs.Store.Formats
import OfferBook.Proofs.Store.Reopening

/-! # What is left of accepted statements

Texts are run on a store whose medium holds the text of its document, and none of them fails. What
they did is found again when the medium is opened the next time, unless it has made a document that
cannot be read from its own text.

* `Store.runAll` — run texts one after the other.
* `Store.Recorded` — the invariant: the medium holds the text of the document in memory, or a
  document that is the same up to known tables.
* `Store.runs_are_found_again` — when what was done is found, and what is found otherwise.
-/

namespace OfferBook

/-! ## Known tables -/

namespace Document

variable {doc : Document} {t : String}

@[simp] theorem table_ensureTable (doc : Document) (name t : String) :
    (doc.ensureTable name).table t = doc.table t := by
  unfold table ensureTable
  rw [Dict.get?_insertIfNew]
  split
  · next same => rw [same]; cases doc.tables.get? name <;> rfl
  · rfl

theorem hasTable_ensureTable {name : String} (h : (doc.ensureTable name).hasTable t = true) :
    t = name ∨ doc.hasTable t = true := by
  unfold hasTable ensureTable Dict.contains at h
  rw [Dict.get?_insertIfNew] at h
  split at h
  · next same => exact .inl same
  · exact .inr h

/-- The tables that are added are empty, and their ids begin with the first. -/
theorem view_ensureKnown (doc : Document) (t : String) :
    doc.ensureKnown.table t = doc.table t ∧ doc.ensureKnown.lastId t = doc.lastId t ∧
      (doc.ensureKnown.hasTable t = true → t ∈ knownTables ∨ doc.hasTable t = true) := by
  have all (names : List String) (doc : Document) :
      (names.foldl ensureTable doc).table t = doc.table t ∧
        (names.foldl ensureTable doc).lastId t = doc.lastId t ∧
        ((names.foldl ensureTable doc).hasTable t = true →
          t ∈ names ∨ doc.hasTable t = true) := by
    induction names generalizing doc with
    | nil => exact ⟨rfl, rfl, .inr⟩
    | cons name rest ih =>
      obtain ⟨rows, id, tables⟩ := ih (doc.ensureTable name)
      refine ⟨rows.trans (table_ensureTable ..), id.trans (lastId_ensureTable ..), fun h => ?_⟩
      rcases tables h with later | there
      · exact .inl (List.mem_cons_of_mem _ later)
      · rcases hasTable_ensureTable there with rfl | before
        · exact .inl List.mem_cons_self
        · exact .inr before
  exact all knownTables doc

theorem Values.ensureKnown {p : Json → Prop} (h : doc.Values p) : doc.ensureKnown.Values p := by
  intro t row hrow
  rw [(view_ensureKnown doc t).1] at hrow
  exact h t row hrow

theorem Legible.ensureKnown (h : doc.Legible) : doc.ensureKnown.Legible where
  free := by
    rw [Bool.eq_false_iff]
    intro there
    rcases (view_ensureKnown doc countersField).2.2 there with known | before
    · exact absurd known (by decide)
    · exact Bool.false_ne_true (h.free.symm.trans before)
  shallow := h.shallow.ensureKnown

theorem Proper.fills (h : doc.Proper) : doc.ensureKnown.Fills Json.Proper where
  low t := by
    rw [(view_ensureKnown doc t).2.1]
    exact (fitsSigned_iff.mp (countersFit_iff.mpr h.counters t)).1
  values _ := h.values.ensureKnown

end Document

namespace Store

/-! ## Runs -/

/-- A text with its parameters, and the time at which it is run. -/
structure Command where
  now : Instant
  params : List Json
  sql : String

variable {m : Type} [Medium m] {s s' : Store m}

def Command.run (c : Command) : StoreM m Execution := Store.run c.now c.params c.sql

/-- Run texts one after the other, up to the first that fails. -/
def runAll : List Command → StoreM m (List Execution)
  | [] => return []
  | c :: rest => do
    let e ← c.run
    let es ← runAll rest
    return e :: es

/-- What is so at first and is kept by each text is so in the end. -/
theorem runAll_induction {P : Store m → Prop} {commands : List Command} {es : List Execution}
    (step : ∀ c ∈ commands, ∀ s e s', P s → c.run.run.run s = (.ok e, s') → P s') (h : P s)
    (ran : (runAll commands).run.run s = (.ok es, s')) : P s' := by
  induction commands generalizing s es with
  | nil =>
    obtain ⟨-, rfl⟩ := Prod.mk.inj ran
    exact h
  | cons c rest ih =>
    rw [runAll] at ran
    rcases first : c.run.run.run s with ⟨e | a, s₁⟩
    · rw [run_bind_error first] at ran
      exact absurd (Prod.mk.inj ran).1 nofun
    · rw [run_bind_ok first] at ran
      rcases others : (runAll rest).run.run s₁ with ⟨e | as, s₂⟩
      · rw [run_bind_error others] at ran
        exact absurd (Prod.mk.inj ran).1 nofun
      · rw [run_bind_ok others] at ran
        obtain ⟨-, rfl⟩ := Prod.mk.inj ran
        exact ih (fun d hd => step d (List.mem_cons_of_mem _ hd))
          (step c List.mem_cons_self s a s₁ h first) others

/-- A text that did not fail changed nothing, or it was a statement whose change was saved. -/
theorem run_ok_cases {now : Instant} {params : List Json} {sql : String} {e : Execution}
    (ran : (run now params sql).run.run s = (.ok e, s')) :
    s' = s ∨ ∃ statement change, Statement.parse? sql = some statement ∧
      statementChange? now params (some statement) = some change ∧
      s'.document = change s.document ∧
      Medium.save s'.document s.medium = (.ok (), s'.medium) := by
  have ended := ended_run (s := s) now params sql
  rw [ran] at ended
  cases read : Statement.parse? sql with
  | none =>
    rw [read] at ended
    cases ended
    exact .inl rfl
  | some statement =>
    rw [read] at ended
    generalize changes : statementChange? now params (some statement) = change? at ended
    cases ended with
    | read => exact .inl rfl
    | saved _ saved => exact .inr ⟨statement, _, rfl, changes, rfl, saved⟩

section Changes

variable {now : Instant} {params : List Json} {statement : Statement}
  {change : Document → Document} {doc : Document}

theorem fills_change {p : Json → Prop} (scalars : TakesScalars p) {sql : String}
    (read : Statement.parse? sql = some statement)
    (changes : statementChange? now params (some statement) = some change)
    (given : ∀ v ∈ params, p v) (h : doc.Fills p) : (change doc).Fills p := by
  have plain := Statement.isPlain_of_parse? read
  cases statement with
  | select s => exact absurd changes nofun
  | insert s =>
    obtain rfl := Option.some.inj changes
    exact h.insert scalars plain given
  | update s =>
    obtain rfl := Option.some.inj changes
    exact h.update scalars (fun o ho => plain o (List.mem_append_left _ ho)) given
  | delete s =>
    obtain rfl := Option.some.inj changes
    exact h.delete s

theorem hasTable_change {t : String}
    (changes : statementChange? now params (some statement) = some change)
    (h : (change doc).hasTable t = true) :
    doc.hasTable t = true ∨ ∃ s, statement = .insert s ∧ s.table = t := by
  cases statement with
  | select s => exact absurd changes nofun
  | insert s =>
    obtain rfl := Option.some.inj changes
    rw [Document.hasTable_insert, Bool.or_eq_true, decide_eq_true_eq] at h
    rcases h with rfl | before
    · exact .inr ⟨s, rfl, rfl⟩
    · exact .inl before
  | update s =>
    obtain rfl := Option.some.inj changes
    exact .inl ((Document.hasTable_update s).symm.trans h)
  | delete s =>
    obtain rfl := Option.some.inj changes
    exact .inl ((Document.hasTable_delete s).symm.trans h)

end Changes

/-! ## The invariant -/

/-- The medium holds the text of the document in memory, or a document that can be read and is the
    same up to known tables. Values are proper for as long as ids have 64 bits. -/
structure Recorded (s : Store m) : Prop where
  known : s.document.IsKnown
  fills : s.document.Fills Json.Proper
  held : Medium.load s.medium = JsonFile.load ⟨some (JsonFile.encode s.document)⟩ ∨
    s.document.Legible ∧
      ∃ doc, Medium.load s.medium = .ok (some doc) ∧ doc.ensureKnown = s.document

namespace Recorded

variable [TextMedium m]

theorem of_openFrom {medium opened : m} {doc : Document}
    (h : openFrom medium = (.ok doc, opened)) : Recorded ⟨doc, opened⟩ ∧ doc.Legible := by
  unfold openFrom at h
  split at h
  · next loaded stored =>
    obtain ⟨found, rfl⟩ := Prod.mk.inj h
    obtain rfl := Except.ok.inj found
    obtain ⟨text, read⟩ := TextMedium.decode?_of_load stored
    have legible := (JsonFile.legible_of_decode? read).ensureKnown
    exact ⟨⟨Document.isKnown_ensureKnown loaded, (JsonFile.proper_of_decode? read).fills,
      .inr ⟨legible, loaded, stored, rfl⟩⟩, legible⟩
  · rcases saved : Medium.save Document.fresh medium with ⟨e | _, medium'⟩
    · simp [saved, Except.map] at h
    · simp only [saved, Except.map, Prod.mk.injEq, Except.ok.injEq] at h
      obtain ⟨rfl, rfl⟩ := h
      have blank : Document.blank.Proper ∧ Document.blank.Legible := by decide
      exact ⟨⟨Document.isKnown_ensureKnown Document.blank, blank.1.fills,
        .inl (TextMedium.load_of_save_ok saved)⟩, blank.2.ensureKnown⟩

theorem run (h : s.Recorded) {now : Instant} {params : List Json} {sql : String} {e : Execution}
    (proper : ∀ v ∈ params, v.Proper)
    (ran : (Store.run now params sql).run.run s = (.ok e, s')) : s'.Recorded := by
  rcases run_ok_cases ran with rfl | ⟨statement, change, read, changes, same, saved⟩
  · exact h
  · have change? : (Step.run now params sql).change? = some change := by
      rw [Step.change?, read, changes]
    have within := Step.within_change change? s.document
    refine ⟨?_, ?_, .inl (TextMedium.load_of_save_ok saved)⟩
    · rw [same]
      exact h.known.mono within
    · rw [same]
      exact fills_change takesScalars_proper read changes proper h.fills

theorem runAll (h : s.Recorded) {commands : List Command} {es : List Execution}
    (proper : ∀ c ∈ commands, ∀ v ∈ c.params, v.Proper)
    (ran : (Store.runAll commands).run.run s = (.ok es, s')) : s'.Recorded :=
  runAll_induction (fun c hc _ _ _ recorded ran => recorded.run (proper c hc) ran) h ran

end Recorded

/-! ## What is found -/

theorem Recorded.found_iff (h : s.Recorded) (fits : s.document.CountersFit)
    (doubles : s.document.Values (·.Numbers Number.KeepsDouble)) :
    (∃ doc, Medium.load s.medium = .ok (some doc) ∧ doc.ensureKnown = s.document) ↔
      s.document.Legible := by
  rcases h.held with text | ⟨legible, found⟩
  · have proper : s.document.Proper := ⟨Document.countersFit_iff.mp fits, h.fills.values fits⟩
    rw [text, JsonFile.load_encode proper doubles]
    constructor
    · rintro ⟨doc, loaded, -⟩
      split at loaded
      · assumption
      · cases loaded
    · exact fun legible => ⟨s.document, if_pos legible, h.known.ensureKnown⟩
  · exact ⟨fun _ => legible, fun _ => found⟩

theorem Recorded.refused (h : s.Recorded) (fits : s.document.CountersFit)
    (doubles : s.document.Values (·.Numbers Number.KeepsDouble))
    (lost : ¬ s.document.Legible) : Medium.load s.medium = .error .unreadable := by
  rcases h.held with text | ⟨legible, -⟩
  · have proper : s.document.Proper := ⟨Document.countersFit_iff.mp fits, h.fills.values fits⟩
    rw [text, JsonFile.load_encode proper doubles, if_neg lost]
  · exact absurd legible lost

/-- What cannot be read is replaced by a document without rows. -/
theorem openFrom_of_error {medium : m} {e : StorageError}
    (refused : Medium.load medium = .error e) :
    openFrom medium = ((Medium.save Document.fresh medium).1.map fun _ => Document.fresh,
      (Medium.save Document.fresh medium).2) := by
  simp only [openFrom, refused]

theorem fresh_of_load_error {medium left : m} {e : StorageError} {doc : Document}
    (refused : Medium.load medium = .error e) (h : openFrom medium = (.ok doc, left)) :
    doc = Document.fresh := by
  rw [openFrom_of_error refused] at h
  have made := (Prod.mk.inj h).1
  cases saved : (Medium.save Document.fresh medium).1 with
  | error e => rw [saved] at made; exact absurd made nofun
  | ok => rw [saved] at made; exact (Except.ok.inj made).symm

/-! ## Texts that do no harm -/

/-- A text that inserts nothing into a table named as the counters, and whose parameters are not
    nested too deep. -/
structure Command.Harmless (c : Command) : Prop where
  elsewhere : ∀ s : Insert, Statement.parse? c.sql = some (.insert s) → s.table ≠ "counters"
  shallow : ∀ v ∈ c.params, v.nesting ≤ 124

theorem legible_of_harmless {commands : List Command} {es : List Execution}
    (low : s.document.Fills Json.Proper) (legible : s.document.Legible)
    (harmless : ∀ c ∈ commands, c.Harmless)
    (ran : (runAll commands).run.run s = (.ok es, s')) (fits : s'.document.CountersFit) :
    s'.document.Legible := by
  have kept : s'.document.Fills (·.nesting ≤ 124) ∧ s'.document.hasTable "counters" = false := by
    refine runAll_induction (P := fun s => s.document.Fills (·.nesting ≤ 124) ∧
      s.document.hasTable "counters" = false) (fun c hc s e s' kept ran => ?_)
      ⟨⟨low.low, fun _ => legible.shallow⟩, legible.free⟩ ran
    rcases run_ok_cases ran with rfl | ⟨statement, change, read, changes, same, -⟩
    · exact kept
    · rw [same]
      refine ⟨fills_change (takesScalars_nesting 124) read changes (harmless c hc).shallow kept.1,
        Bool.eq_false_iff.mpr fun there => ?_⟩
      rcases hasTable_change changes there with before | ⟨s, rfl, named⟩
      · exact Bool.false_ne_true (kept.2.symm.trans before)
      · exact (harmless c hc).elsewhere s read named
  exact ⟨kept.2, kept.1.values fits⟩

/-! ## The result -/

/-- A store was opened on a medium that holds texts, and texts were run that did not fail. For as
    long as ids have 64 bits and doubles are read as they are written, what was done is found on
    the medium exactly if no table is named as the counters and no value is nested in more than
    124 levels. Otherwise nothing can be read there, and what is opened next has no rows. Only an
    insertion into a table of that name and parameters that are nested too deep do this. -/
theorem runs_are_found_again [TextMedium m] {medium opened : m} {doc : Document}
    (h : openFrom medium = (.ok doc, opened)) {commands : List Command}
    (proper : ∀ c ∈ commands, ∀ v ∈ c.params, v.Proper) {es : List Execution}
    (ran : (runAll commands).run.run ⟨doc, opened⟩ = (.ok es, s)) (fits : s.document.CountersFit)
    (doubles : s.document.Values (·.Numbers Number.KeepsDouble)) :
    ((∃ found, Medium.load s.medium = .ok (some found) ∧ found.ensureKnown = s.document) ↔
        s.document.Legible) ∧
    (¬ s.document.Legible → Medium.load s.medium = .error .unreadable ∧
      ∀ again left, openFrom s.medium = (.ok again, left) → again = Document.fresh) ∧
    ((∀ c ∈ commands, c.Harmless) → s.document.Legible) := by
  obtain ⟨start, legible⟩ := Recorded.of_openFrom h
  have recorded := start.runAll proper ran
  refine ⟨recorded.found_iff fits doubles, fun lost => ?_, fun harmless => ?_⟩
  · have refused := recorded.refused fits doubles lost
    exact ⟨refused, fun _ _ opened => fresh_of_load_error refused opened⟩
  · exact legible_of_harmless start.fills legible harmless ran fits

/-! ## Two insertions -/

theorem runAll_singleton {c : Command} {e : Execution} (ran : c.run.run.run s = (.ok e, s')) :
    (runAll [c]).run.run s = (.ok [e], s') := by
  rw [runAll, run_bind_ok ran]
  rfl

/-- A file that was made for a new store. -/
def newFile : JsonFile := ⟨some (JsonFile.encode Document.fresh)⟩

/-- A user whose name is a list. -/
def listInsertion : Insert := ⟨"users", ["name"], [.placeholder]⟩

def listDocument : Document := (listInsertion.apply 0 [.array [.null]] Document.fresh).2

theorem runs_are_found_again_with_list :
    ∃ es s, (runAll [⟨0, [.array [.null]], "INSERT INTO users (name) VALUES (?)"⟩]).run.run
        (⟨Document.fresh, newFile⟩ : Store JsonFile) = (.ok es, s) ∧
      ∃ found, Medium.load s.medium = .ok (some found) ∧ found.ensureKnown = s.document := by
  have opened : openFrom (⟨none⟩ : JsonFile) = (.ok Document.fresh, newFile) := rfl
  have read : Statement.parse? "INSERT INTO users (name) VALUES (?)" =
      some (.insert listInsertion) := by decide +kernel
  have saved : Medium.save listDocument newFile = (.ok (), ⟨some (JsonFile.encode listDocument)⟩) :=
    rfl
  have ran : (runAll [⟨0, [.array [.null]], "INSERT INTO users (name) VALUES (?)"⟩]).run.run
      (⟨Document.fresh, newFile⟩ : Store JsonFile) =
        (.ok [(listInsertion.apply 0 [.array [.null]] Document.fresh).1],
          ⟨listDocument, ⟨some (JsonFile.encode listDocument)⟩⟩) :=
    runAll_singleton (run_insert read saved)
  have given : ∀ v ∈ [Json.array [.null]], v.Proper := by decide +kernel
  have proper : listDocument.Proper := by decide +kernel
  have doubles : listDocument.Values (·.Numbers Number.KeepsDouble) := by decide +kernel
  have legible : listDocument.Legible := by decide +kernel
  exact ⟨_, _, ran, (runs_are_found_again opened (List.forall_mem_singleton.mpr given) ran
    (Document.countersFit_iff.mpr proper.counters) doubles).1.mpr legible⟩

/-- A row in a table named as the counters. -/
def lostInsertion : Insert := ⟨"counters", ["a"], [.literal (.int 1)]⟩

def lostDocument : Document := (lostInsertion.apply 0 [] Document.fresh).2

/-- An insertion is accepted, and when the file is opened again there is nothing in it. -/
theorem insertion_is_lost :
    openFrom (⟨none⟩ : JsonFile) = (.ok Document.fresh, newFile) ∧
      ∃ e s, (run 0 [] "INSERT INTO counters (a) VALUES (1)").run.run
          (⟨Document.fresh, newFile⟩ : Store JsonFile) = (.ok e, s) ∧
        (s.document.table "counters").length = 1 ∧
        Medium.load s.medium = .error .unreadable ∧
        openFrom s.medium = (.ok Document.fresh, newFile) := by
  have read : Statement.parse? "INSERT INTO counters (a) VALUES (1)" =
      some (.insert lostInsertion) := by decide +kernel
  have saved : Medium.save lostDocument newFile = (.ok (), ⟨some (JsonFile.encode lostDocument)⟩) :=
    rfl
  have ran : (run 0 [] "INSERT INTO counters (a) VALUES (1)").run.run
      (⟨Document.fresh, newFile⟩ : Store JsonFile) =
        (.ok (lostInsertion.apply 0 [] Document.fresh).1,
          ⟨lostDocument, ⟨some (JsonFile.encode lostDocument)⟩⟩) := run_insert read saved
  have proper : lostDocument.Proper := by decide +kernel
  have doubles : lostDocument.Values (·.Numbers Number.KeepsDouble) := by decide +kernel
  have lost : ¬ lostDocument.Legible := by decide +kernel
  have refused : Medium.load (⟨some (JsonFile.encode lostDocument)⟩ : JsonFile) =
      .error .unreadable := (JsonFile.load_encode proper doubles).trans (if_neg lost)
  have one : (lostDocument.table "counters").length = 1 := by decide +kernel
  exact ⟨rfl, _, _, ran, one, refused, openFrom_of_error refused⟩

end Store

end OfferBook
