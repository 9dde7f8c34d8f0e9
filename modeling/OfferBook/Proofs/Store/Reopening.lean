import OfferBook.Proofs.Document.Known
import OfferBook.Proofs.Store.Work
import OfferBook.Store.Memory

/-! # Reopening a store

A store that was opened can be dropped at any time: opening its medium again gives the document
that was in memory, although known tables are added to what is loaded and not saved.

* `Store.Step` — what can be done with a store; `Step.change?` — what it saves.
* `Store.Settled` — the invariant: the medium holds the document up to known tables.
* `Store.Ended` — the three ways in which a step ends; `Settled.ended` — there is no other.
* `Store.reopening_changes_nothing` — what becomes of a store, whichever saves fail.
-/

namespace OfferBook

/-! ## Counting saves -/

/-- A medium, and how often a document was to be saved in it. -/
structure Counting (m : Type) where
  medium : m
  attempts : Nat

namespace Counting

variable {m : Type} [Medium m]

instance : Medium (Counting m) where
  load c := Medium.load c.medium
  save doc c := ((Medium.save doc c.medium).1, ⟨(Medium.save doc c.medium).2, c.attempts + 1⟩)

theorem save_eq {doc : Document} {c c' : Counting m} {r : Except StorageError Unit}
    (h : Medium.save doc c = (r, c')) :
    Medium.save doc c.medium = (r, c'.medium) ∧ c'.attempts = c.attempts + 1 := by
  obtain ⟨rfl, rfl⟩ := Prod.mk.inj h
  exact ⟨rfl, rfl⟩

instance [LawfulMedium m] : LawfulMedium (Counting m) where
  load_of_save_ok h := LawfulMedium.load_of_save_ok (m := m) (save_eq h).1
  load_of_save_error h := LawfulMedium.load_of_save_error (m := m) (save_eq h).1

end Counting

/-! ## Memory that can be read -/

namespace Memory

variable {doc : Document} {memory : Memory}

theorem unreadable_save (doc : Document) (memory : Memory) :
    (save doc memory).2.unreadable = memory.unreadable := by
  unfold save
  split <;> rfl

theorem stored_of_save_ok (h : (save doc memory).1 = .ok ()) :
    (save doc memory).2.stored = some doc := by
  unfold save at h ⊢
  split at h
  · exact absurd h (by simp)
  · rfl
  · rfl

theorem stored_of_save_error {e : StorageError} (h : (save doc memory).1 = .error e) :
    (save doc memory).2.stored = memory.stored := by
  unfold save at h ⊢
  split at h
  · rfl
  · exact absurd h (by simp)
  · exact absurd h (by simp)

end Memory

/-- Memory that is not marked as unreadable. -/
structure ReadableMemory where
  memory : Memory
  readable : memory.unreadable = false

namespace ReadableMemory

def save (doc : Document) (r : ReadableMemory) : Except StorageError Unit × ReadableMemory :=
  ((Memory.save doc r.memory).1,
    ⟨(Memory.save doc r.memory).2, (Memory.unreadable_save doc r.memory).trans r.readable⟩)

instance : Medium ReadableMemory where
  load r := Memory.load r.memory
  save := save

theorem load_eq (r : ReadableMemory) : Medium.load r = .ok r.memory.stored :=
  if_neg (by simp [r.readable])

instance : LawfulMedium ReadableMemory where
  load_of_save_ok {doc r t} h := by
    obtain ⟨ok, rfl⟩ := Prod.mk.inj h
    exact (load_eq _).trans (congrArg _ (Memory.stored_of_save_ok ok))
  load_of_save_error {doc r t e} h := by
    obtain ⟨failed, rfl⟩ := Prod.mk.inj h
    refine (load_eq _).trans (.trans ?_ (load_eq r).symm)
    exact congrArg _ (Memory.stored_of_save_error failed)

end ReadableMemory

namespace Store

variable {m : Type} [Medium m]

/-! ## Steps -/

/-- Take up the document of the medium once more, in place of the one in memory. -/
def reopen : StoreM m Unit := do
  let store ← get
  match openFrom store.medium with
  | (.ok doc, medium) => set (⟨doc, medium⟩ : Store m)
  | (.error e, medium) =>
    set (⟨store.document, medium⟩ : Store m)
    throw e

/-- What can be done with a store. -/
inductive Step
  | run (now : Instant) (params : List Json) (sql : String)
  | first (now : Instant) (params : List Json) (sql : String)
  | all (now : Instant) (params : List Json) (sql : String)
  | bump (now : Instant) (key : String)
  | reopen

namespace Step

/-- Do it; the result goes to the caller alone. -/
def perform : Step → StoreM m Unit
  | run now params sql => do let _ ← Store.run now params sql
  | first now params sql => do let _ ← Store.first now params sql
  | all now params sql => do let _ ← Store.all now params sql
  | bump now key => do let _ ← Store.bumpCounter now key
  | reopen => Store.reopen

/-- Whether a text is a statement that changes rows. -/
def changesRows (sql : String) : Bool :=
  match Statement.parse? sql with
  | some (.insert _) | some (.update _) | some (.delete _) => true
  | some (.select _) | none => false

/-- Whether the document is to be saved. -/
def isSaving : Step → Bool
  | run _ _ sql | first _ _ sql | all _ _ sql => changesRows sql
  | bump .. => true
  | reopen => false

/-- How many saves are attempted. -/
def attempts (step : Step) (s : Store m) : Nat :=
  ((step.perform (m := Counting m)).run.run ⟨s.document, s.medium, 0⟩).2.medium.attempts

end Step

/-- What steps leave behind that are made one after the other, failed ones too. -/
def performAll (s : Store m) (steps : List Step) : Store m :=
  steps.foldl (fun s step => (step.perform.run.run s).2) s

/-! ## What a step does -/

/-- The change of a statement; none where it only reads. -/
def statementChange? (now : Instant) (params : List Json) :
    Option Statement → Option (Document → Document)
  | some (.insert s) => some fun doc => (s.apply now params doc).2
  | some (.update s) => some fun doc => (s.apply now params doc).2
  | some (.delete s) => some fun doc => (s.apply now params doc).2
  | some (.select _) | none => none

/-- The change that a step saves. -/
def Step.change? : Step → Option (Document → Document)
  | run now params sql | first now params sql | all now params sql =>
    statementChange? now params (Statement.parse? sql)
  | bump now key => some fun doc => (doc.advanceCounter now key).2
  | reopen => none

theorem Step.isSome_change? (step : Step) : step.change?.isSome = step.isSaving := by
  have text (now : Instant) (params : List Json) (sql : String) :
      (statementChange? now params (Statement.parse? sql)).isSome = changesRows sql := by
    unfold changesRows
    match Statement.parse? sql with
    | none => rfl
    | some (.select _) => rfl
    | some (.insert _) => rfl
    | some (.update _) => rfl
    | some (.delete _) => rfl
  cases step with
  | run now params sql => exact text now params sql
  | first now params sql => exact text now params sql
  | all now params sql => exact text now params sql
  | bump => rfl
  | reopen => rfl

theorem Step.within_change {step : Step} {change : Document → Document}
    (h : step.change? = some change) (doc : Document) : doc.Within (change doc) := by
  have text (now : Instant) (params : List Json) (sql : String)
      (h : statementChange? now params (Statement.parse? sql) = some change) :
      doc.Within (change doc) := by
    revert h
    match Statement.parse? sql with
    | none => exact nofun
    | some (.select _) => exact nofun
    | some (.insert s) =>
      rintro ⟨⟩
      exact Document.within_insert now params s doc
    | some (.update s) =>
      rintro ⟨⟩
      exact Document.within_update now params s doc
    | some (.delete s) =>
      rintro ⟨⟩
      exact Document.within_delete now params s doc
  cases step with
  | run now params sql => exact text now params sql h
  | first now params sql => exact text now params sql h
  | all now params sql => exact text now params sql h
  | bump now key =>
    obtain rfl := Option.some.inj h
    exact Document.within_advanceCounter now key doc
  | reopen => exact absurd h nofun

/-- The ways in which work on a store ends: nothing is changed, or a change is saved, or it is
    undone because it could not be saved. -/
inductive Ended {α : Type} (s : Store m) :
    Option (Document → Document) → Except StorageError α × Store m → Prop
  | read (a : α) : Ended s none (.ok a, s)
  | saved {change : Document → Document} {medium : m} (a : α)
      (h : Medium.save (change s.document) s.medium = (.ok (), medium)) :
      Ended s (some change) (.ok a, ⟨change s.document, medium⟩)
  | undone {change : Document → Document} {medium : m} {e : StorageError}
      (h : Medium.save (change s.document) s.medium = (.error e, medium)) :
      Ended s (some change) (.error e, ⟨s.document, medium⟩)

variable {α β : Type} {s : Store m}

/-- What comes after the work only looks at its result. -/
theorem Ended.bind {work : StoreM m α} {next : α → StoreM m β}
    {change? : Option (Document → Document)} (h : Ended s change? (work.run.run s))
    (looks : ∀ a s', ∃ b, (next a).run.run s' = (.ok b, s')) :
    Ended s change? ((work >>= next).run.run s) := by
  rcases run : work.run.run s with ⟨e | a, s'⟩
  · -- After an error nothing comes.
    rw [run_bind_error run]
    rw [run] at h
    cases h with
    | undone failed => exact .undone failed
  · obtain ⟨b, same⟩ := looks a s'
    rw [run_bind_ok run, same]
    rw [run] at h
    cases h with
    | read => exact .read b
    | saved _ ok => exact .saved b ok

theorem ended_commit (change : Document → α × Document) :
    Ended s (some fun doc => (change doc).2) ((commit change).run.run s) := by
  rcases h : Medium.save (change s.document).2 s.medium with ⟨e | _, medium⟩
  · rw [run_commit_error h]
    exact .undone h
  · rw [run_commit_ok h]
    exact .saved _ h

theorem ended_execute (now : Instant) (params : List Json) (statement : Statement) :
    Ended s (statementChange? now params (some statement))
      ((execute now params statement).run.run s) := by
  cases statement with
  | select => exact .read _
  | insert => exact (ended_commit _).bind fun a s' => ⟨_, rfl⟩
  | update => exact (ended_commit _).bind fun a s' => ⟨_, rfl⟩
  | delete => exact (ended_commit _).bind fun a s' => ⟨_, rfl⟩

theorem ended_run (now : Instant) (params : List Json) (sql : String) :
    Ended s (statementChange? now params (Statement.parse? sql))
      ((run now params sql).run.run s) := by
  unfold run
  split
  · next unread => exact unread ▸ .read _
  · next statement read =>
    rw [read]
    exact (ended_execute ..).bind fun outcome s' => by cases outcome <;> exact ⟨_, rfl⟩

theorem ended_all (now : Instant) (params : List Json) (sql : String) :
    Ended s (statementChange? now params (Statement.parse? sql))
      ((all now params sql).run.run s) := by
  unfold all
  split
  · next unread => exact unread ▸ .read _
  · next statement read =>
    rw [read]
    exact (ended_execute ..).bind fun outcome s' => by cases outcome <;> exact ⟨_, rfl⟩

theorem ended_first (now : Instant) (params : List Json) (sql : String) :
    Ended s (statementChange? now params (Statement.parse? sql))
      ((first now params sql).run.run s) :=
  (ended_all ..).bind fun _ _ => ⟨_, rfl⟩

/-- Any other step than reopening ends in one of the three ways. -/
theorem ended_of_ne_reopen {step : Step} (stays : step ≠ .reopen) :
    Ended s step.change? (step.perform.run.run s) := by
  cases step with
  | run => exact (ended_run ..).bind fun _ _ => ⟨_, rfl⟩
  | first => exact (ended_first ..).bind fun _ _ => ⟨_, rfl⟩
  | all => exact (ended_all ..).bind fun _ _ => ⟨_, rfl⟩
  | bump => exact (ended_commit _).bind fun _ _ => ⟨_, rfl⟩
  | reopen => exact absurd rfl stays

/-! ## The invariant -/

/-- The medium holds the document in memory, up to known tables that are missing there. -/
structure Settled (s : Store m) : Prop where
  known : s.document.IsKnown
  stored : ∃ doc, Medium.load s.medium = .ok (some doc) ∧ doc.ensureKnown = s.document

namespace Settled

theorem openFrom_eq (h : s.Settled) : openFrom s.medium = (.ok s.document, s.medium) := by
  obtain ⟨doc, loaded, same⟩ := h.stored
  simp only [openFrom, loaded, same]

/-- What was opened is settled, however it was stored. -/
theorem of_openFrom [LawfulMedium m] {medium opened : m} {doc : Document}
    (h : openFrom medium = (.ok doc, opened)) : Settled ⟨doc, opened⟩ := by
  unfold openFrom at h
  split at h
  · next loaded stored =>
    obtain ⟨found, rfl⟩ := Prod.mk.inj h
    obtain rfl := Except.ok.inj found
    exact ⟨Document.isKnown_ensureKnown loaded, loaded, stored, rfl⟩
  · -- A fresh document is the one that was just saved.
    rcases saved : Medium.save Document.fresh medium with ⟨e | _, medium'⟩
    · simp [saved, Except.map] at h
    · simp only [saved, Except.map, Prod.mk.injEq, Except.ok.injEq] at h
      obtain ⟨rfl, rfl⟩ := h
      have known : Document.fresh.IsKnown := Document.isKnown_ensureKnown Document.blank
      exact ⟨known, Document.fresh, LawfulMedium.load_of_save_ok saved, known.ensureKnown⟩

theorem reopen_eq (h : s.Settled) : (reopen (m := m)).run.run s = (.ok (), s) := by
  change (match openFrom s.medium with
    | (.ok doc, medium) => (set (⟨doc, medium⟩ : Store m) : StoreM m Unit)
    | (.error e, medium) => do
      set (⟨s.document, medium⟩ : Store m)
      throw e).run.run s = _
  rw [h.openFrom_eq]
  rfl

/-- Where the store is settled, reopening only reads. -/
theorem ended (h : s.Settled) (step : Step) :
    Ended s step.change? (step.perform.run.run s) := by
  by_cases reopens : step = .reopen
  · subst reopens
    exact h.reopen_eq ▸ .read ()
  · exact ended_of_ne_reopen reopens

theorem document_of_error (h : s.Settled) {step : Step} {e : StorageError} {s' : Store m}
    (failed : step.perform.run.run s = (.error e, s')) : s'.document = s.document := by
  have ended := h.ended step
  rw [failed] at ended
  generalize step.change? = change? at ended
  cases ended
  rfl

variable [LawfulMedium m]

theorem perform (h : s.Settled) (step : Step) : (step.perform.run.run s).2.Settled := by
  have ended := h.ended step
  generalize step.perform.run.run s = result at ended
  cases changes : step.change? with
  | none =>
    rw [changes] at ended
    cases ended
    exact h
  | some change =>
    rw [changes] at ended
    cases ended with
    | saved _ ok =>
      -- The change keeps the known tables, so that nothing is added to what is loaded.
      have known := h.known.mono (Step.within_change changes s.document)
      exact ⟨known, _, LawfulMedium.load_of_save_ok ok, known.ensureKnown⟩
    | undone failed =>
      obtain ⟨doc, loaded, same⟩ := h.stored
      exact ⟨h.known, doc, (LawfulMedium.load_of_save_error failed).trans loaded, same⟩

theorem performAll (h : s.Settled) (steps : List Step) : (performAll s steps).Settled := by
  induction steps generalizing s with
  | nil => exact h
  | cons step rest ih => exact ih (h.perform step)

end Settled

/-! ## Attempts -/

/-- The store over the medium itself. -/
def forget (s : Store (Counting m)) : Store m := ⟨s.document, s.medium.medium⟩

theorem Ended.forget {s : Store (Counting m)} {change? : Option (Document → Document)}
    {result : Except StorageError α × Store (Counting m)} (h : Ended s change? result) :
    Ended s.forget change? (result.1, result.2.forget) := by
  cases h with
  | read a => exact .read a
  | saved a h => exact .saved a (Counting.save_eq h).1
  | undone h => exact .undone (Counting.save_eq h).1

theorem Ended.unique {change? : Option (Document → Document)}
    {result result' : Except StorageError Unit × Store m} (h : Ended s change? result)
    (h' : Ended s change? result') : result = result' := by
  cases h with
  | read => cases h'; rfl
  | saved _ ok =>
    cases h' with
    | saved _ ok' => rw [(Prod.mk.inj (ok.symm.trans ok')).2]
    | undone failed => exact absurd (ok.symm.trans failed) (by simp)
  | undone failed =>
    cases h' with
    | saved _ ok => exact absurd (failed.symm.trans ok) (by simp)
    | undone failed' =>
      obtain ⟨same, rfl⟩ := Prod.mk.inj (failed.symm.trans failed')
      rw [same]

/-- A step does the same whether its saves are counted or not. -/
theorem counting_changes_nothing {s : Store (Counting m)} (h : s.forget.Settled) (step : Step) :
    step.perform.run.run s.forget =
      ((step.perform.run.run s).1, (step.perform.run.run s).2.forget) := by
  have counted : s.Settled := ⟨h.known, h.stored⟩
  exact (h.ended step).unique (counted.ended step).forget

theorem Settled.attempts_eq (h : s.Settled) (step : Step) :
    step.attempts s = if step.isSaving then 1 else 0 := by
  have counted : Settled (⟨s.document, s.medium, 0⟩ : Store (Counting m)) := ⟨h.known, h.stored⟩
  have ended := counted.ended step
  rw [← step.isSome_change?]
  unfold Step.attempts
  generalize step.perform.run.run (⟨s.document, s.medium, 0⟩ : Store (Counting m)) = result
    at ended ⊢
  cases changes : step.change? with
  | none =>
    rw [changes] at ended
    cases ended
    rfl
  | some change =>
    rw [changes] at ended
    cases ended with
    | saved _ ok => exact (Counting.save_eq ok).2
    | undone failed => exact (Counting.save_eq failed).2

/-! ## Runs -/

/-- Once a store was opened, whatever the medium held before and whichever saves fail, opening it
    again at any time gives the document in memory and saves nothing. A step that fails leaves the
    document alone; a step attempts one save if it changes rows or counters, and none otherwise. -/
theorem reopening_changes_nothing [LawfulMedium m] {medium opened : m} {doc : Document}
    (h : openFrom medium = (.ok doc, opened)) (steps : List Step) :
    openFrom (performAll ⟨doc, opened⟩ steps).medium =
        (.ok (performAll ⟨doc, opened⟩ steps).document, (performAll ⟨doc, opened⟩ steps).medium) ∧
    ∀ step : Step,
      (∀ e s', step.perform.run.run (performAll ⟨doc, opened⟩ steps) = (.error e, s') →
        s'.document = (performAll ⟨doc, opened⟩ steps).document) ∧
      step.attempts (performAll ⟨doc, opened⟩ steps) = if step.isSaving then 1 else 0 := by
  have settled : (performAll ⟨doc, opened⟩ steps).Settled :=
    (Settled.of_openFrom h).performAll steps
  exact ⟨settled.openFrom_eq, fun step =>
    ⟨fun e s' failed => settled.document_of_error failed, settled.attempts_eq step⟩⟩

/-- A medium with room for one document. -/
def oneSave : ReadableMemory :=
  ⟨{ stored := none, unreadable := false, allowance := some 1, saves := 0 }, rfl⟩

/-- The same medium once it is full. -/
def oneSaved : ReadableMemory :=
  ⟨{ stored := some Document.fresh, unreadable := false, allowance := some 0, saves := 1 }, rfl⟩

/-- Rows could not be deleted; neither can a counter be saved, which is attempted once. -/
theorem reopening_of_full_medium :
    openFrom (performAll ⟨Document.fresh, oneSaved⟩ [.run 0 [] "DELETE FROM users"]).medium =
        (.ok (performAll ⟨Document.fresh, oneSaved⟩ [.run 0 [] "DELETE FROM users"]).document,
          (performAll ⟨Document.fresh, oneSaved⟩ [.run 0 [] "DELETE FROM users"]).medium) ∧
      (Step.bump 0 "key").attempts
        (performAll ⟨Document.fresh, oneSaved⟩ [.run 0 [] "DELETE FROM users"]) = 1 := by
  have opened : openFrom oneSave = (.ok Document.fresh, oneSaved) := rfl
  obtain ⟨reopened, step⟩ := reopening_changes_nothing opened [.run 0 [] "DELETE FROM users"]
  exact ⟨reopened, (step (.bump 0 "key")).2⟩

end Store

end OfferBook
