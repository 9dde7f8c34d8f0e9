import Mathlib.Data.List.Forall2
import OfferBook.Office.Accounts
import OfferBook.Proofs.Office.Outcome
import OfferBook.Proofs.Query.Unread

/-! # Offices with other passwords

Two offices that differ in the users' passwords alone, and work that ends alike in both.

* `Record.concealed`, `Document.Alike` — documents that are the same once the text of each password
  is blotted out.
* `Medium.results`, `Medium.SavesAlike` — media on which saves of such documents end alike.
* `Office.Agree` — work that returns related results in two such offices, or fails in both in one
  way; with one rule for each way in which work is composed.
* `Agree.insert`, `Agree.update`, `Agree.allocate` — changes of tables other than the users'.
-/

namespace OfferBook

/-! ## Documents -/

/-- The row of a user without the text of its password. -/
def Record.concealed (row : Record) : Record :=
  match row.get? "password" with
  | some (.text _) => row.insert "password" (.text "")
  | _ => row

theorem Record.get?_concealed_of_ne {field : String} (other : field ≠ "password") (row : Record) :
    row.concealed.get? field = row.get? field := by
  unfold concealed
  split
  · exact Dict.get?_insert_of_ne row other _
  · rfl

/-- The documents differ in the texts of the users' passwords at most. -/
structure Document.Alike (doc doc' : Document) : Prop where
  counters : doc.counters = doc'.counters
  tables : ∀ t, t ≠ Accounts.table → doc.tables.get? t = doc'.tables.get? t
  users : (doc.table Accounts.table).map Record.concealed =
    (doc'.table Accounts.table).map Record.concealed

namespace Document.Alike

variable {doc doc' : Document} {t : String}

theorem table_eq (h : doc.Alike doc') (other : t ≠ Accounts.table) :
    doc.table t = doc'.table t := congrArg (·.getD []) (h.tables t other)

theorem hasTable_eq (h : doc.Alike doc') (other : t ≠ Accounts.table) :
    doc.hasTable t = doc'.hasTable t := congrArg Option.isSome (h.tables t other)

theorem setTable (h : doc.Alike doc') (other : t ≠ Accounts.table) (rows : List Record) :
    (doc.setTable t rows).Alike (doc'.setTable t rows) where
  counters := h.counters
  tables k hk := by
    unfold Document.setTable
    rw [Dict.get?_insert, Dict.get?_insert, h.tables k hk]
  users := by
    rw [table_setTable, table_setTable, if_neg other.symm, if_neg other.symm]
    exact h.users

theorem nextId (h : doc.Alike doc') (t : String) :
    (doc.nextId t).1 = (doc'.nextId t).1 ∧ (doc.nextId t).2.Alike (doc'.nextId t).2 := by
  have same : (doc.counters.get? t).getD 0 = (doc'.counters.get? t).getD 0 := by rw [h.counters]
  refine ⟨congrArg (· + 1) same, ?_, h.tables, h.users⟩
  simp only [Document.nextId, h.counters]

theorem append (h : doc.Alike doc') (other : t ≠ Accounts.table) (row : Record) :
    (doc.append t row).Alike (doc'.append t row) := by
  unfold Document.append
  rw [h.table_eq other]
  exact h.setTable other _

theorem insert (h : doc.Alike doc') {s : Insert} (other : s.table ≠ Accounts.table)
    (now : Instant) (params : List Json) :
    (s.apply now params doc).1 = (s.apply now params doc').1 ∧
      (s.apply now params doc).2.Alike (s.apply now params doc').2 := by
  obtain ⟨id, counted⟩ := h.nextId s.table
  simp only [Insert.apply, id]
  exact ⟨trivial, counted.append other _⟩

theorem update (h : doc.Alike doc') {s : Update} (other : s.table ≠ Accounts.table)
    (now : Instant) (params : List Json) :
    (s.apply now params doc).1 = (s.apply now params doc').1 ∧
      (s.apply now params doc).2.Alike (s.apply now params doc').2 := by
  unfold Update.apply
  simp only [h.hasTable_eq other, h.table_eq other]
  split
  · exact ⟨rfl, h.setTable other _⟩
  · exact ⟨rfl, h⟩

theorem advanceCounter (h : doc.Alike doc') (now : Instant) (key : String) :
    (doc.advanceCounter now key).1 = (doc'.advanceCounter now key).1 ∧
      (doc.advanceCounter now key).2.Alike (doc'.advanceCounter now key).2 := by
  have other : countersTable ≠ Accounts.table := by decide
  unfold Document.advanceCounter
  rw [h.table_eq other]
  split
  · exact ⟨rfl, h.setTable other _⟩
  · obtain ⟨id, counted⟩ := h.nextId countersTable
    refine ⟨rfl, ?_⟩
    simp only [id]
    exact counted.append other _

end Document.Alike

/-! ## Media -/

namespace Medium

variable {m : Type} [Medium m]

/-- How it ends to save documents one after the other. -/
def results : List Document → m → List (Except StorageError Unit)
  | [], _ => []
  | doc :: rest, s => (save doc s).1 :: results rest (save doc s).2

/-- Saves of documents that are alike end alike, however many there are. -/
def SavesAlike (s s' : m) : Prop :=
  ∀ docs docs', List.Forall₂ Document.Alike docs docs' → results docs s = results docs' s'

theorem SavesAlike.save {s s' : m} (h : SavesAlike s s') {doc doc' : Document}
    (alike : doc.Alike doc') :
    (Medium.save doc s).1 = (Medium.save doc' s').1 ∧
      SavesAlike (Medium.save doc s).2 (Medium.save doc' s').2 := by
  have first := h [doc] [doc'] (.cons alike .nil)
  refine ⟨(List.cons.inj first).1, fun docs docs' later => ?_⟩
  exact (List.cons.inj (h (doc :: docs) (doc' :: docs') (.cons alike later))).2

end Medium

/-! ## Offices -/

namespace Office

variable {m : Type} [Medium m]

/-- At one time, the documents differ in passwords at most and saves end alike. -/
structure Alike (o o' : Office m) : Prop where
  now : o.now = o'.now
  document : o.store.document.Alike o'.store.document
  saves : Medium.SavesAlike o.store.medium o'.store.medium

variable {ε α α' β β' : Type} {R : α → α' → Prop} {S : β → β' → Prop}

/-- Two pieces of work that end alike in offices that are alike: with results that are related, or
    with the same error. -/
def Agree (R : α → α' → Prop) (act : OfficeM ε m α) (act' : OfficeM ε m α') : Prop :=
  ∀ o o', o.Alike o' →
    Ends act o (fun a p => Ends act' o' (fun a' p' => R a a' ∧ p.Alike p') fun _ _ => False)
      (fun e p => Ends act' o' (fun _ _ => False) fun e' p' => e = e' ∧ p.Alike p')

namespace Agree

theorem pure {a : α} {a' : α'} (related : R a a') :
    Agree R (pure a : OfficeM ε m α) (Pure.pure a') := by
  intro o o' alike
  simp only [ends_pure]
  exact ⟨related, alike⟩

theorem throw (e : ε) : Agree R (throw e : OfficeM ε m α) (MonadExcept.throw e) := by
  intro o o' alike
  simp only [ends_throw]
  exact ⟨trivial, alike⟩

theorem bind {act : OfficeM ε m α} {act' : OfficeM ε m α'} {next : α → OfficeM ε m β}
    {next' : α' → OfficeM ε m β'} (h : Agree R act act')
    (hnext : ∀ a a', R a a' → Agree S (next a) (next' a')) :
    Agree S (act >>= next) (act' >>= next') := by
  intro o o' alike
  simp only [ends_bind]
  refine (h o o' alike).mono (fun a p both => ?_) fun e p both => ?_
  · obtain ⟨a', p', run, related, alike⟩ := both.exists_ok
    -- What follows starts in both offices where the first work has left them.
    refine (hnext a a' related p p' alike).mono (fun b q ended => ?_) fun e q ended => ?_
    · exact .of_run run ended
    · exact .of_run run ended
  · exact both.mono (fun _ _ => False.elim) fun _ _ => id

theorem lift (x : Except ε α) : Agree Eq (liftM x : OfficeM ε m α) (liftM x) := by
  cases x with
  | ok a => exact pure rfl
  | error e => exact throw e

theorem storage {work : Work m α} {work' : Work m α'} (h : Agree R work work') :
    Agree R (storage work) (OfferBook.storage work') := by
  intro o o' alike
  simp only [ends_storage]
  refine (h o o' alike).mono (fun a p both => both) fun e p both => ?_
  exact both.mono (fun _ _ => id) fun e' p' ended => ⟨congrArg _ ended.1, ended.2⟩

theorem get : Agree (ε := ε) Alike (get : OfficeM ε m (Office m)) MonadState.get := by
  intro o o' alike
  simp only [ends_get]
  exact ⟨alike, alike⟩

theorem document : Agree Document.Alike (document : Work m Document) Office.document := by
  intro o o' alike
  simp only [ends_document]
  exact ⟨alike.document, alike⟩

/-! ### Reading -/

theorem select {s : Select} {R : List Record → List Record → Prop}
    (related : ∀ now doc doc', doc.Alike doc' → R (s.rows now [] doc) (s.rows now [] doc')) :
    Agree R (select s : Work m (List Record)) (Office.select s) := by
  intro o o' alike
  simp only [ends_select]
  rw [← alike.now]
  exact ⟨related _ _ _ alike.document, alike⟩

theorem mapM_read {ofRecord? : Record → Option α} {rows rows' : List Record}
    (same : rows.mapM ofRecord? = rows'.mapM ofRecord?) :
    Agree Eq (rows.mapM (read ofRecord?) : Work m (List α)) (rows'.mapM (read ofRecord?)) := by
  intro o o' alike
  simp only [ends_mapM_read, same]
  cases rows'.mapM ofRecord? with
  | none => exact ⟨trivial, alike⟩
  | some as => exact ⟨rfl, alike⟩

theorem mapM {f : β → OfficeM ε m α} (h : ∀ b, Agree Eq (f b) (f b)) (bs : List β) :
    Agree Eq (bs.mapM f) (bs.mapM f) := by
  induction bs with
  | nil => exact pure rfl
  | cons b rest ih =>
    rw [List.mapM_cons]
    refine (h b).bind ?_
    rintro a _ rfl
    refine ih.bind ?_
    rintro as _ rfl
    exact pure rfl

/-- Rows from which the same is read but for what `g` leaves out. -/
theorem read {γ : Type} {g : α → γ} {ofRecord? : Record → Option α} {row row' : Record}
    (same : (ofRecord? row).map g = (ofRecord? row').map g) :
    Agree (fun a a' => g a = g a') (read ofRecord? row : Work m α)
      (Office.read ofRecord? row') := by
  unfold Office.read
  generalize ofRecord? row = a at same
  generalize ofRecord? row' = a' at same
  cases a with
  | none =>
    obtain rfl := Option.map_eq_none_iff.mp same.symm
    exact throw _
  | some a =>
    obtain ⟨a', rfl, equal⟩ := Option.map_eq_some_iff.mp same.symm
    exact pure equal.symm

theorem read_self (ofRecord? : Record → Option α) (row : Record) :
    Agree Eq (Office.read ofRecord? row : Work m α) (Office.read ofRecord? row) :=
  read (g := id) rfl

/-- A selection without a join from a table other than the users'. -/
theorem select_elsewhere {s : Select} (alone : s.join = none) (other : s.table ≠ Accounts.table) :
    Agree Eq (Office.select s : Work m (List Record)) (Office.select s) :=
  select fun _ _ _ alike => Select.rows_congr alone (alike.table_eq other)

theorem selectAll_elsewhere {s : Select} (alone : s.join = none)
    (other : s.table ≠ Accounts.table) (ofRecord? : Record → Option α) :
    Agree Eq (selectAll ofRecord? s : Work m (List α)) (Office.selectAll ofRecord? s) := by
  refine (select_elsewhere alone other).bind ?_
  rintro rows _ rfl
  exact mapM_read rfl

theorem selectFirst_elsewhere {s : Select} (alone : s.join = none)
    (other : s.table ≠ Accounts.table) (ofRecord? : Record → Option α) :
    Agree Eq (selectFirst ofRecord? s : Work m (Option α)) (Office.selectFirst ofRecord? s) := by
  refine (select_elsewhere alone other).bind ?_
  rintro rows _ rfl
  cases rows.head? with
  | none => exact pure rfl
  | some row =>
    refine (read_self ofRecord? row).bind ?_
    rintro a _ rfl
    exact pure rfl

/-! ### Changing -/

theorem commit {change : Instant → Document → α × Document}
    (same : ∀ now doc doc', doc.Alike doc' → (change now doc).1 = (change now doc').1 ∧
      (change now doc).2.Alike (change now doc').2) :
    Agree Eq (onStore fun now => Store.commit (change now) : Work m α)
      (onStore fun now => Store.commit (change now)) := by
  intro o o' alike
  obtain ⟨result, changed⟩ := same o.now _ _ alike.document
  obtain ⟨ended, later⟩ := alike.saves.save changed
  refine Ends.commit_of_save (fun medium saved => ?_) fun e medium failed => ?_
  · refine Ends.commit_of_save (fun medium' saved' => ?_) fun e' medium' failed' => ?_
    · rw [← alike.now] at saved' ⊢
      rw [saved, saved'] at later
      exact ⟨result, alike.now, changed, later⟩
    · rw [← alike.now] at failed'
      rw [saved, failed'] at ended
      exact absurd ended nofun
  · refine Ends.commit_of_save (fun medium' saved' => ?_) fun e' medium' failed' => ?_
    · rw [← alike.now] at saved'
      rw [failed, saved'] at ended
      exact absurd ended nofun
    · rw [← alike.now] at failed'
      rw [failed, failed'] at ended later
      exact ⟨Except.error.inj ended, alike.now, alike.document, later⟩

theorem insert {s : Insert} (other : s.table ≠ Accounts.table) :
    Agree Eq (insert s : Work m Execution) (Office.insert s) :=
  commit fun now _ _ alike => alike.insert other now []

theorem update {s : Update} (other : s.table ≠ Accounts.table) :
    Agree Eq (update s : Work m Nat) (Office.update s) := by
  refine (commit fun now _ _ alike => alike.update other now []).bind ?_
  rintro e _ rfl
  exact pure rfl

theorem allocate (offerPrefix : String) (version : Int) :
    Agree Eq (allocate offerPrefix version : Work m OfferNumber)
      (Office.allocate offerPrefix version) := by
  refine get.bind fun o o' alike => ?_
  rw [alike.now]
  refine (commit fun now _ _ alike => alike.advanceCounter now _).bind ?_
  rintro counter _ rfl
  exact pure rfl

/-- An entry of the log is stored or dropped in both offices. -/
theorem record (action : Action) (entityType : String) (entityId : Option Int)
    (entityUuid : Option String) (caller : Caller) (details : Option Json) :
    Agree Eq (Log.record action entityType entityId entityUuid caller details : OfficeM ε m Unit)
      (Log.record action entityType entityId entityUuid caller details) := by
  have other : Log.table ≠ Accounts.table := by decide
  have inserted : Agree Eq
      (Office.insert (Log.entry action entityType entityId entityUuid caller details) :
        Work m Execution)
      (Office.insert (Log.entry action entityType entityId entityUuid caller details)) :=
    insert other
  refine Agree.bind (R := fun _ _ => True) (fun o o' alike => ?_) fun _ _ _ => pure rfl
  simp only [ends_attempt]
  refine (inserted o o' alike).mono (fun a p both => ?_) fun e p both => ?_
  · exact both.mono (fun _ _ ended => ⟨trivial, ended.2⟩) fun _ _ => False.elim
  · exact both.mono (fun _ _ => False.elim) fun _ _ ended => ⟨trivial, ended.2⟩

end Agree

/-- What is answered is the same in offices that are alike. -/
theorem Agree.answer_eq {act : OfficeM ε m α} (h : Agree Eq act act) {o o' : Office m}
    (alike : o.Alike o') : (act.run.run o).1 = (act.run.run o').1 := by
  rcases run : act.run.run o with ⟨e | a, p⟩
  · obtain ⟨_, p', run', rfl, -⟩ := ((h o o' alike).of_error run).exists_error
    rw [run']
  · obtain ⟨_, p', run', rfl, -⟩ := ((h o o' alike).of_ok run).exists_ok
    rw [run']

end Office

end OfferBook
