import OfferBook.Office.Log
import OfferBook.Proofs.Store.Work

/-! # How work in an office ends

`Ends act o Q E` says what becomes of an office `o` in which `act` is done: either a result is
returned, and `Q` holds of it and of the office left behind, or an error is, and `E` holds.

* `ends_pure`, `ends_bind`, … — one rule for each way in which work is composed.
* `Ends.commit` — a change is either saved or undone; nothing is assumed about the medium.
* `ends_select`, `ends_selectFirst`, `ends_selectAll` — reading leaves the office as it is.
-/

namespace OfferBook.Office

variable {ε m α β : Type}

/-- Where `act` leads from the office `o`. -/
def Ends (act : OfficeM ε m α) (o : Office m) (Q : α → Office m → Prop)
    (E : ε → Office m → Prop) : Prop :=
  match act.run.run o with
  | (.ok a, o') => Q a o'
  | (.error e, o') => E e o'

/-- The office with another document and another medium. -/
def withStore (o : Office m) (doc : Document) (medium : m) : Office m :=
  { o with store := ⟨doc, medium⟩ }

variable {o : Office m} {Q Q' : α → Office m → Prop} {E E' : ε → Office m → Prop}

theorem Ends.mono {act : OfficeM ε m α} (h : Ends act o Q E)
    (hQ : ∀ a o', Q a o' → Q' a o') (hE : ∀ e o', E e o' → E' e o') : Ends act o Q' E' := by
  unfold Ends at *
  split at h
  · exact hQ _ _ h
  · exact hE _ _ h

theorem Ends.of_ok {act : OfficeM ε m α} (h : Ends act o Q E) {a : α} {o' : Office m}
    (run : act.run.run o = (.ok a, o')) : Q a o' := by
  unfold Ends at h
  rwa [run] at h

theorem Ends.of_error {act : OfficeM ε m α} (h : Ends act o Q E) {e : ε} {o' : Office m}
    (run : act.run.run o = (.error e, o')) : E e o' := by
  unfold Ends at h
  rwa [run] at h

theorem Ends.of_run {act : OfficeM ε m α} {a : α} {o' : Office m}
    (run : act.run.run o = (.ok a, o')) (h : Q a o') : Ends act o Q E := by
  unfold Ends
  rwa [run]

theorem Ends.of_failed {act : OfficeM ε m α} {e : ε} {o' : Office m}
    (run : act.run.run o = (.error e, o')) (h : E e o') : Ends act o Q E := by
  unfold Ends
  rwa [run]

theorem Ends.and {act : OfficeM ε m α} (h : Ends act o Q E) (h' : Ends act o Q' E') :
    Ends act o (fun a o' => Q a o' ∧ Q' a o') fun e o' => E e o' ∧ E' e o' := by
  rcases run : act.run.run o with ⟨e | a, o'⟩
  · exact .of_failed run ⟨h.of_error run, h'.of_error run⟩
  · exact .of_run run ⟨h.of_ok run, h'.of_ok run⟩

theorem exists_of_ok {act : OfficeM ε m α} {P : α → Bool}
    (h : (act.run.run o).1.toOption.any P = true) :
    ∃ a o', act.run.run o = (.ok a, o') ∧ P a = true := by
  rcases run : act.run.run o with ⟨e | a, o'⟩
  · simp [run, Except.toOption] at h
  · exact ⟨a, o', rfl, by simpa [run, Except.toOption] using h⟩

theorem exists_of_error {act : OfficeM ε m α} (h : (act.run.run o).1.isOk = false) :
    ∃ e, act.run.run o = (.error e, (act.run.run o).2) := by
  rcases run : act.run.run o with ⟨e | a, o'⟩
  · exact ⟨e, rfl⟩
  · rw [run] at h
    cases h

theorem Ends.exists_ok {act : OfficeM ε m α} (h : Ends act o Q fun _ _ => False) :
    ∃ a o', act.run.run o = (.ok a, o') ∧ Q a o' := by
  rcases run : act.run.run o with ⟨e | a, o'⟩
  · exact (h.of_error run).elim
  · exact ⟨a, o', rfl, h.of_ok run⟩

theorem Ends.exists_error {act : OfficeM ε m α} (h : Ends act o (fun _ _ => False) E) :
    ∃ e o', act.run.run o = (.error e, o') ∧ E e o' := by
  rcases run : act.run.run o with ⟨e | a, o'⟩
  · exact ⟨e, o', rfl, h.of_error run⟩
  · exact (h.of_ok run).elim

theorem Ends.snd {act : OfficeM ε m α} {P : Office m → Prop}
    (h : Ends act o (fun _ => P) (fun _ => P)) : P (act.run.run o).2 := by
  unfold Ends at h
  split at h <;> simp_all

theorem ends_trivial (act : OfficeM ε m α) (o : Office m) :
    Ends act o (fun _ _ => True) fun _ _ => True := by
  rcases run : act.run.run o with ⟨e | a, o'⟩
  · exact .of_failed run trivial
  · exact .of_run run trivial

/-! ## Composition -/

@[simp] theorem ends_pure {a : α} : Ends (pure a : OfficeM ε m α) o Q E ↔ Q a o := Iff.rfl

@[simp] theorem ends_throw {e : ε} : Ends (throw e : OfficeM ε m α) o Q E ↔ E e o := Iff.rfl

@[simp] theorem ends_get {Q : Office m → Office m → Prop} :
    Ends (get : OfficeM ε m (Office m)) o Q E ↔ Q o o := Iff.rfl

@[simp] theorem ends_bind {act : OfficeM ε m β} {f : β → OfficeM ε m α} :
    Ends (act >>= f) o Q E ↔ Ends act o (fun b o' => Ends (f b) o' Q E) E := by
  unfold Ends
  change (match (ExceptT.bind act f).run.run o with
    | (.ok a, o') => Q a o'
    | (.error e, o') => E e o') ↔ _
  simp only [ExceptT.bind, ExceptT.run, ExceptT.mk, StateT.run, bind, StateT.bind]
  rcases act o with ⟨r | r, o'⟩ <;> rfl

@[simp] theorem ends_lift {x : Except ε α} :
    Ends (liftM x : OfficeM ε m α) o Q E ↔
      match x with
      | .ok a => Q a o
      | .error e => E e o := by
  cases x <;> rfl

@[simp] theorem ends_storage {work : Work m α} {E : ServiceError → Office m → Prop} :
    Ends (storage work) o Q E ↔ Ends work o Q fun e => E (.internal e) := by
  have adapted : (storage work).run.run o =
      ((work.run.run o).1.mapError .internal, (work.run.run o).2) := rfl
  unfold Ends
  rw [adapted]
  rcases work.run.run o with ⟨e | a, o'⟩ <;> rfl

/-- Work that is tried, whose error becomes a part of the result. -/
theorem ends_attempt {ε' : Type} {work : OfficeM ε' m α}
    {Q : Except ε' α → Office m → Prop} {E : ε → Office m → Prop} :
    Ends (ExceptT.lift work.run : OfficeM ε m (Except ε' α)) o Q E ↔
      Ends work o (fun a => Q (.ok a)) fun e => Q (.error e) := by
  unfold Ends
  change Q (work.run.run o).1 (work.run.run o).2 ↔ _
  rcases work.run.run o with ⟨e | a, o'⟩ <;> rfl

/-! ## Fresh values -/

@[simp] theorem ends_freshUuid {Q : String → Office m → Prop}
    {E : StorageError → Office m → Prop} :
    Ends freshUuid o Q E ↔ Q (o.supply.uuid o.supply.uuidsTaken)
      { o with supply := { o.supply with uuidsTaken := o.supply.uuidsTaken + 1 } } := Iff.rfl

@[simp] theorem ends_freshSalt {Q : Password.Salt → Office m → Prop}
    {E : StorageError → Office m → Prop} :
    Ends freshSalt o Q E ↔ Q (o.supply.salt o.supply.saltsTaken)
      { o with supply := { o.supply with saltsTaken := o.supply.saltsTaken + 1 } } := Iff.rfl

@[simp] theorem ends_document {Q : Document → Office m → Prop}
    {E : StorageError → Office m → Prop} :
    Ends document o Q E ↔ Q o.store.document o := Iff.rfl

/-! ## The store -/

theorem ends_onStore_ok {work : Instant → StoreM m α} {E : StorageError → Office m → Prop}
    {a : α} {s : Store m} (run : (work o.now).run.run o.store = (.ok a, s)) :
    Ends (onStore work) o Q E ↔ Q a { o with store := s } := by
  simp only [onStore, ends_bind, ends_get, run]
  rfl

theorem ends_onStore_error {work : Instant → StoreM m α} {E : StorageError → Office m → Prop}
    {e : StorageError} {s : Store m} (run : (work o.now).run.run o.store = (.error e, s)) :
    Ends (onStore work) o Q E ↔ E e { o with store := s } := by
  simp only [onStore, ends_bind, ends_get, run]
  rfl

@[simp] theorem ends_select {s : Select} {Q : List Record → Office m → Prop}
    {E : StorageError → Office m → Prop} :
    Ends (select s) o Q E ↔ Q (s.rows o.now [] o.store.document) o := Iff.rfl

theorem ends_read {ofRecord? : Record → Option α} {row : Record}
    {E : StorageError → Office m → Prop} :
    Ends (read ofRecord? row) o Q E ↔
      match ofRecord? row with
      | some a => Q a o
      | none => E .undecodable o := by
  unfold read
  cases ofRecord? row <;> rfl

theorem ends_mapM_read {ofRecord? : Record → Option α} {rows : List Record}
    {Q : List α → Office m → Prop} {E : StorageError → Office m → Prop} :
    Ends (rows.mapM (read ofRecord?)) o Q E ↔
      match rows.mapM ofRecord? with
      | some as => Q as o
      | none => E .undecodable o := by
  induction rows generalizing Q with
  | nil => rfl
  | cons row rest ih =>
    simp only [List.mapM_cons, ends_bind, ends_read]
    cases ofRecord? row with
    | none => rfl
    | some a =>
      simp only [ih, ends_pure]
      cases rest.mapM ofRecord? <;> rfl

@[simp] theorem ends_selectAll {ofRecord? : Record → Option α} {s : Select}
    {Q : List α → Office m → Prop} {E : StorageError → Office m → Prop} :
    Ends (selectAll ofRecord? s) o Q E ↔
      match (s.rows o.now [] o.store.document).mapM ofRecord? with
      | some as => Q as o
      | none => E .undecodable o := by
  simp only [selectAll, ends_bind, ends_select, ends_mapM_read]

@[simp] theorem ends_selectFirst {ofRecord? : Record → Option α} {s : Select}
    {Q : Option α → Office m → Prop} {E : StorageError → Office m → Prop} :
    Ends (selectFirst ofRecord? s) o Q E ↔
      match (s.rows o.now [] o.store.document).head? with
      | some row =>
        match ofRecord? row with
        | some a => Q (some a) o
        | none => E .undecodable o
      | none => Q none o := by
  simp only [selectFirst, ends_bind, ends_select]
  cases (s.rows o.now [] o.store.document).head? with
  | none => rfl
  | some row => simp only [ends_bind, ends_read, ends_pure]

/-- Selections with the same first row. -/
theorem selectFirst_congr {s s' : Select} (ofRecord? : Record → Option α)
    (same : ∀ now doc, (s.rows now [] doc).head? = (s'.rows now [] doc).head?) :
    (selectFirst ofRecord? s : Work m (Option α)) = selectFirst ofRecord? s' := by
  have asks (s : Select) : (selectFirst ofRecord? s : Work m (Option α)) =
      (get >>= fun o => match (s.rows o.now [] o.store.document).head? with
        | some row => return some (← read ofRecord? row)
        | none => return none) := rfl
  simp only [asks, same]

variable [Medium m]

/-- A change is saved, or the document stays as it was. -/
theorem Ends.commit_of_save {change : Instant → Document → α × Document}
    {E : StorageError → Office m → Prop}
    (saved : ∀ medium,
      Medium.save (change o.now o.store.document).2 o.store.medium = (.ok (), medium) →
      Q (change o.now o.store.document).1 (o.withStore (change o.now o.store.document).2 medium))
    (undone : ∀ e medium,
      Medium.save (change o.now o.store.document).2 o.store.medium = (.error e, medium) →
      E e (o.withStore o.store.document medium)) :
    Ends (onStore fun now => Store.commit (change now)) o Q E := by
  rcases h : Medium.save (change o.now o.store.document).2 o.store.medium with ⟨e | _, medium⟩
  · exact (ends_onStore_error (Store.run_commit_error h)).mpr (undone e medium h)
  · exact (ends_onStore_ok (Store.run_commit_ok h)).mpr (saved medium h)

/-- The same where it does not matter what the medium holds. -/
theorem Ends.commit {change : Instant → Document → α × Document}
    {E : StorageError → Office m → Prop}
    (saved : ∀ medium, Q (change o.now o.store.document).1
      (o.withStore (change o.now o.store.document).2 medium))
    (undone : ∀ e medium, E e (o.withStore o.store.document medium)) :
    Ends (onStore fun now => Store.commit (change now)) o Q E :=
  Ends.commit_of_save (fun medium _ => saved medium) fun e medium _ => undone e medium

/-- An entry of the log is saved or dropped, and nobody is told. -/
theorem Ends.record {action : Action} {entityType : String} {entityId : Option Int}
    {entityUuid : Option String} {caller : Caller} {details : Option Json}
    {Q : Unit → Office m → Prop}
    (saved : ∀ medium, Q () (o.withStore
      ((Log.entry action entityType entityId entityUuid caller details).apply o.now []
        o.store.document).2 medium))
    (dropped : ∀ medium, Q () (o.withStore o.store.document medium)) :
    Ends (Log.record action entityType entityId entityUuid caller details) o Q E := by
  have inserted : Ends (insert (Log.entry action entityType entityId entityUuid caller details))
      o (fun _ => Q ()) (fun _ => Q ()) := Ends.commit saved fun _ => dropped
  unfold Log.record
  simp only [ends_bind, ends_pure]
  exact inserted.snd

-- From here on the rules stand for the definition; unfolding it would run the work.
attribute [irreducible] Ends

end OfferBook.Office
