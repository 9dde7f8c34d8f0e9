import OfferBook.Proofs.Office.Completed

/-! # One office on two media

The same work in an office on a medium that takes every document, and in its twin on a medium that
refuses those with a new entry in the log.

* `Document.SameAt`, `Document.SameBut` — documents that are the same at a table, or everywhere
  else.
* `Medium.Mutes` — a property of media that shows that saves have failed for new entries alone;
  `Traced.mutes` — any medium has one while its saves are written down.
* `Office.Twins`, `Office.Parted` — the offices before an entry is recorded, and after it.
* `Office.InStep` — work that ends alike in both, with one rule for each way in which work is
  composed.
-/

namespace OfferBook

/-! ## Documents -/

/-- A table and its id counter are the same in both documents. -/
structure Document.SameAt (t : String) (doc doc' : Document) : Prop where
  rows : doc.tables.get? t = doc'.tables.get? t
  lastId : doc.counters.get? t = doc'.counters.get? t

/-- The documents differ in a table and its id counter at most. -/
def Document.SameBut (t : String) (doc doc' : Document) : Prop :=
  ∀ t', t' ≠ t → doc.SameAt t' doc'

namespace Document

variable {t : String} {doc doc' doc'' : Document} {now : Instant} {params : List Json}

namespace SameAt

theorem refl (t : String) (doc : Document) : doc.SameAt t doc := ⟨rfl, rfl⟩

theorem trans (h : doc.SameAt t doc') (h' : doc'.SameAt t doc'') : doc.SameAt t doc'' :=
  ⟨h.rows.trans h'.rows, h.lastId.trans h'.lastId⟩

theorem table_eq (h : doc.SameAt t doc') : doc.table t = doc'.table t :=
  congrArg (·.getD []) h.rows

theorem setTable {name : String} (other : t ≠ name) (rows : List Record) :
    (doc.setTable name rows).SameAt t doc := ⟨Dict.get?_insert_of_ne _ other _, rfl⟩

theorem insert {s : Insert} (other : t ≠ s.table) : (s.apply now params doc).2.SameAt t doc :=
  (setTable other _).trans ⟨rfl, Dict.get?_insert_of_ne _ other _⟩

theorem update {s : Update} (other : t ≠ s.table) : (s.apply now params doc).2.SameAt t doc := by
  unfold Update.apply
  dsimp only
  split
  · exact setTable other _
  · exact refl t doc

theorem advanceCounter {key : String} (other : t ≠ countersTable) :
    (doc.advanceCounter now key).2.SameAt t doc := by
  unfold Document.advanceCounter
  split
  · exact setTable other _
  · exact (setTable other _).trans ⟨rfl, Dict.get?_insert_of_ne _ other _⟩

end SameAt

theorem SameBut.insert (s : Insert) : (s.apply now params doc).2.SameBut s.table doc :=
  fun _ other => .insert other

end Document

/-! ## Media -/

/-- A property of media that shows which saves have failed: those of documents with another log than
    a document's, and no others. After a save it holds only where it held before. -/
def Medium.Mutes {m : Type} [Medium m] (start : Document) (P : m → Prop) : Prop :=
  ∀ doc s, P (Medium.save doc s).2 →
    ((Medium.save doc s).1.isOk = true ↔ doc.table Log.table = start.table Log.table) ∧ P s

/-- A medium together with the documents that were to be saved, and whether they were, the latest
    first. -/
structure Traced (m : Type) where
  medium : m
  saves : List (Document × Bool)

namespace Traced

variable {m : Type} [Medium m]

instance : Medium (Traced m) where
  load w := Medium.load w.medium
  save doc w :=
    let (result, medium) := Medium.save doc w.medium
    (result, ⟨medium, (doc, result.isOk) :: w.saves⟩)

/-- The saves of any medium can be written down. -/
theorem mutes (start : Document) : Medium.Mutes start fun w : Traced m =>
    ∀ save ∈ w.saves, (save.2 = true ↔ save.1.table Log.table = start.table Log.table) :=
  fun _ _ all => List.forall_mem_cons.mp all

theorem vouches : Medium.Vouches fun w : Traced m => ∀ save ∈ w.saves, save.2 = true := by
  intro doc w all
  obtain ⟨saved, before⟩ := List.forall_mem_cons.mp all
  refine ⟨?_, before⟩
  change (Medium.save doc w.medium).1 = .ok ()
  cases result : (Medium.save doc w.medium).1 with
  | ok _ => rfl
  | error e =>
    dsimp only at saved
    rw [result] at saved
    cases saved

end Traced

/-! ## Offices -/

namespace Office

variable {m m' ε α β : Type}

/-- Offices that differ in their media alone. They have the log of a document. -/
structure Twins (start : Document) (o : Office m) (o' : Office m') : Prop where
  document : o.store.document = o'.store.document
  now : o.now = o'.now
  supply : o.supply = o'.supply
  log : o'.store.document.SameAt Log.table start

/-- Offices that differ in their media and logs. The second one has the log of a document. -/
structure Parted (start : Document) (o : Office m) (o' : Office m') : Prop where
  rest : o.store.document.SameBut Log.table o'.store.document
  now : o.now = o'.now
  log : o'.store.document.SameAt Log.table start

theorem Twins.parted {start : Document} {o : Office m} {o' : Office m'} (h : Twins start o o') :
    Parted start o o' := ⟨fun t _ => h.document ▸ .refl t _, h.now, h.log⟩

/-- Work that begins in offices that are related, and ends with the same result or error in offices
    that are related, where the properties of the media hold in the end. -/
structure InStep (P : m → Prop) (P' : m' → Prop) (R S : Office m → Office m' → Prop)
    (act : OfficeM ε m α) (act' : OfficeM ε m' α) : Prop where
  before : ∀ o, P (act.run.run o).2.store.medium → P o.store.medium
  before' : ∀ o', P' (act'.run.run o').2.store.medium → P' o'.store.medium
  ends : ∀ o o', R o o' → P (act.run.run o).2.store.medium →
    P' (act'.run.run o').2.store.medium →
    (act.run.run o).1 = (act'.run.run o').1 ∧ S (act.run.run o).2 (act'.run.run o').2

namespace InStep

variable {P : m → Prop} {P' : m' → Prop} {R S T : Office m → Office m' → Prop}

theorem pure (a : α) : InStep P P' R R (pure a : OfficeM ε m α) (Pure.pure a) :=
  ⟨fun _ => id, fun _ => id, fun _ _ related _ _ => ⟨rfl, related⟩⟩

theorem throw (e : ε) : InStep P P' R R (throw e : OfficeM ε m α) (MonadExcept.throw e) :=
  ⟨fun _ => id, fun _ => id, fun _ _ related _ _ => ⟨rfl, related⟩⟩

theorem before_bind {P : m → Prop} {act : OfficeM ε m β} {f : β → OfficeM ε m α}
    (first : ∀ o, P (act.run.run o).2.store.medium → P o.store.medium)
    (later : ∀ b o, P ((f b).run.run o).2.store.medium → P o.store.medium) (o : Office m)
    (fine : P ((act >>= f).run.run o).2.store.medium) :
    P (act.run.run o).2.store.medium ∧ P o.store.medium := by
  suffices after : P (act.run.run o).2.store.medium from ⟨after, first o after⟩
  rcases run : act.run.run o with ⟨e | b, p⟩
  · rwa [run_bind_error run] at fine
  · rw [run_bind_ok run] at fine
    exact later b p fine

/-- What follows an error is left out, so the offices must be related as in the end. -/
theorem bind_of {act : OfficeM ε m β} {act' : OfficeM ε m' β} {f : β → OfficeM ε m α}
    {f' : β → OfficeM ε m' α} (h : InStep P P' R S act act')
    (sub : ∀ o o', S o o' → T o o') (next : ∀ b, InStep P P' S T (f b) (f' b)) :
    InStep P P' R T (act >>= f) (act' >>= f') := by
  have early := before_bind h.before fun b => (next b).before
  have early' := before_bind h.before' fun b => (next b).before'
  refine ⟨fun o fine => (early o fine).2, fun o' fine => (early' o' fine).2, ?_⟩
  intro o o' related fine fine'
  obtain ⟨same, left⟩ := h.ends o o' related (early o fine).1 (early' o' fine').1
  rcases run : act.run.run o with ⟨r, p⟩
  rcases run' : act'.run.run o' with ⟨r', p'⟩
  rw [run, run'] at same left
  obtain rfl : r = r' := same
  cases r with
  | error e =>
    rw [run_bind_error run, run_bind_error run']
    exact ⟨rfl, sub p p' left⟩
  | ok b =>
    rw [run_bind_ok run] at fine ⊢
    rw [run_bind_ok run'] at fine' ⊢
    exact (next b).ends p p' left fine fine'

theorem bind {act : OfficeM ε m β} {act' : OfficeM ε m' β} {f : β → OfficeM ε m α}
    {f' : β → OfficeM ε m' α} (h : InStep P P' R R act act')
    (next : ∀ b, InStep P P' R R (f b) (f' b)) : InStep P P' R R (act >>= f) (act' >>= f') :=
  h.bind_of (fun _ _ => id) next

theorem lift (x : Except ε α) :
    InStep P P' R R (liftM x : OfficeM ε m α) (liftM x) := by
  cases x with
  | ok a => exact pure a
  | error e => exact throw e

theorem storage {work : Work m α} {work' : Work m' α} (h : InStep P P' R S work work') :
    InStep P P' R S (storage work) (OfferBook.storage work') where
  before := h.before
  before' := h.before'
  ends o o' related fine fine' := by
    obtain ⟨same, left⟩ := h.ends o o' related fine fine'
    exact ⟨congrArg (Except.mapError ServiceError.internal) same, left⟩

/-- What follows may depend on the time. -/
theorem get_now (same : ∀ o o', R o o' → o.now = o'.now) {f : Instant → OfficeM ε m α}
    {f' : Instant → OfficeM ε m' α} (next : ∀ now, InStep P P' R S (f now) (f' now)) :
    InStep P P' R S (get >>= fun o => f o.now) (get >>= fun o => f' o.now) where
  before o := (next o.now).before o
  before' o' := (next o'.now).before' o'
  ends o o' related fine fine' := by
    change P ((f o.now).run.run o).2.store.medium at fine
    change ((f o.now).run.run o).1 = ((f' o'.now).run.run o').1 ∧
      S ((f o.now).run.run o).2 ((f' o'.now).run.run o').2
    rw [same o o' related] at fine ⊢
    exact (next o'.now).ends o o' related fine fine'

theorem return_now (same : ∀ o o', R o o' → o.now = o'.now) (answer : Instant → α) :
    InStep P P' R R (get >>= fun o => Pure.pure (answer o.now) : OfficeM ε m α)
      (get >>= fun o => Pure.pure (answer o.now)) :=
  get_now same fun now => pure (answer now)

theorem mapM {f : β → OfficeM ε m α} {f' : β → OfficeM ε m' α}
    (h : ∀ b, InStep P P' R R (f b) (f' b)) (bs : List β) :
    InStep P P' R R (bs.mapM f) (bs.mapM f') := by
  induction bs with
  | nil => exact pure []
  | cons b rest ih =>
    rw [List.mapM_cons, List.mapM_cons]
    exact (h b).bind fun _ => ih.bind fun _ => pure _

theorem read (ofRecord? : Record → Option α) (row : Record) :
    InStep P P' R R (read ofRecord? row : Work m α) (Office.read ofRecord? row) := by
  unfold Office.read
  cases ofRecord? row with
  | none => exact throw _
  | some a => exact pure a

/-! ### Looking -/

variable {start : Document}

theorem freshUuid :
    InStep P P' (Twins start) (Twins start) (freshUuid : Work m String) Office.freshUuid where
  before _ := id
  before' _ := id
  ends o o' twins _ _ := by
    refine ⟨congrArg (fun s : Supply => Except.ok (s.uuid s.uuidsTaken)) twins.supply,
      twins.document, twins.now, ?_, twins.log⟩
    exact congrArg (fun s : Supply => { s with uuidsTaken := s.uuidsTaken + 1 }) twins.supply

theorem select (s : Select) :
    InStep P P' (Twins start) (Twins start) (select s : Work m (List Record))
      (Office.select s) where
  before _ := id
  before' _ := id
  ends o o' twins _ _ := by
    refine ⟨?_, twins⟩
    change Except.ok (s.rows o.now [] o.store.document) =
      Except.ok (s.rows o'.now [] o'.store.document)
    rw [twins.now, twins.document]

theorem selectAll (ofRecord? : Record → Option α) (s : Select) :
    InStep P P' (Twins start) (Twins start) (selectAll ofRecord? s : Work m (List α))
      (Office.selectAll ofRecord? s) :=
  (select s).bind fun rows => mapM (read ofRecord?) rows

theorem selectFirst (ofRecord? : Record → Option α) (s : Select) :
    InStep P P' (Twins start) (Twins start) (selectFirst ofRecord? s : Work m (Option α))
      (Office.selectFirst ofRecord? s) := by
  refine (select s).bind fun rows => ?_
  cases rows.head? with
  | none => exact pure none
  | some row => exact (read ofRecord? row).bind fun a => pure (some a)

/-! ### Recording last -/

theorem parted {act : OfficeM ε m α} {act' : OfficeM ε m' α}
    (h : InStep P P' R (Twins start) act act') : InStep P P' R (Parted start) act act' where
  before := h.before
  before' := h.before'
  ends o o' related fine fine' :=
    (h.ends o o' related fine fine').imp_right Twins.parted

/-- Work that spares the log comes before the work that records an entry. -/
theorem after {act : OfficeM ε m β} {act' : OfficeM ε m' β} {f : β → OfficeM ε m α}
    {f' : β → OfficeM ε m' α} (h : InStep P P' (Twins start) (Twins start) act act')
    (next : ∀ b, InStep P P' (Twins start) (Parted start) (f b) (f' b)) :
    InStep P P' (Twins start) (Parted start) (act >>= f) (act' >>= f') :=
  h.bind_of (fun _ _ => Twins.parted) next

/-- What is left to be done after an entry does not look at the log. -/
theorem finish {act : OfficeM ε m β} {act' : OfficeM ε m' β} {f : β → OfficeM ε m α}
    {f' : β → OfficeM ε m' α} (h : InStep P P' (Twins start) (Parted start) act act')
    (next : ∀ b, InStep P P' (Parted start) (Parted start) (f b) (f' b)) :
    InStep P P' (Twins start) (Parted start) (act >>= f) (act' >>= f') :=
  h.bind_of (fun _ _ => id) next

/-! ### Changing -/

section Changing

variable [Medium m] [Medium m']

/-- A change leaves the medium behind as its save does. -/
theorem medium_commit (change : Instant → Document → α × Document) (o : Office m) :
    ((onStore fun now => Store.commit (change now)).run.run o).2.store.medium =
      (Medium.save (change o.now o.store.document).2 o.store.medium).2 := by
  have ended : Ends (onStore fun now => Store.commit (change now)) o
      (fun _ p => p.store.medium =
        (Medium.save (change o.now o.store.document).2 o.store.medium).2)
      (fun _ p => p.store.medium =
        (Medium.save (change o.now o.store.document).2 o.store.medium).2) :=
    Ends.commit_of_save (fun _ saved => (congrArg Prod.snd saved).symm)
      fun _ _ failed => (congrArg Prod.snd failed).symm
  exact ended.snd

theorem commit_saved {change : Instant → Document → α × Document} {o : Office m}
    (saved : (Medium.save (change o.now o.store.document).2 o.store.medium).1.isOk = true) :
    Ends (onStore fun now => Store.commit (change now)) o
      (fun a p => a = (change o.now o.store.document).1 ∧
        p = o.withStore (change o.now o.store.document).2 p.store.medium) fun _ _ => False := by
  refine Ends.commit_of_save (fun medium _ => ⟨rfl, rfl⟩) fun e medium failed => ?_
  rw [failed] at saved
  cases saved

theorem commit_undone {change : Instant → Document → α × Document} {o : Office m}
    (failed : ¬ (Medium.save (change o.now o.store.document).2 o.store.medium).1.isOk = true) :
    Ends (onStore fun now => Store.commit (change now)) o (fun _ _ => False)
      fun _ p => p = o.withStore o.store.document p.store.medium := by
  refine Ends.commit_of_save (fun medium saved => failed ?_) fun e medium _ => rfl
  rw [saved]
  rfl

variable (vouches : Medium.Vouches P) (mutes : Medium.Mutes start P')
include vouches mutes

/-- A change that leaves the log alone is saved in both offices. -/
theorem commit {change : Instant → Document → α × Document}
    (spares : ∀ now doc, (change now doc).2.SameAt Log.table doc) :
    InStep P P' (Twins start) (Twins start)
      (onStore fun now => Store.commit (change now) : Work m α)
      (onStore fun now => Store.commit (change now)) where
  before o fine := (vouches _ _ (medium_commit change o ▸ fine)).2
  before' o' fine' := (mutes _ _ (medium_commit change o' ▸ fine')).2
  ends o o' twins fine fine' := by
    have saved := (vouches _ _ (medium_commit change o ▸ fine)).1
    have kept : (change o'.now o'.store.document).2.SameAt Log.table start :=
      (spares _ _).trans twins.log
    have saved' := (mutes _ _ (medium_commit change o' ▸ fine')).1.mpr kept.table_eq
    obtain ⟨_, p, run, rfl, left⟩ := (commit_saved (congrArg Except.isOk saved)).exists_ok
    obtain ⟨_, p', run', rfl, left'⟩ := (commit_saved saved').exists_ok
    rw [run, run', left, left', twins.now, twins.document]
    exact ⟨rfl, rfl, twins.now, twins.supply, kept⟩

theorem insert {s : Insert} (other : s.table ≠ Log.table) :
    InStep P P' (Twins start) (Twins start) (insert s : Work m Execution) (Office.insert s) :=
  commit vouches mutes fun _ _ => .insert other.symm

theorem update {s : Update} (other : s.table ≠ Log.table) :
    InStep P P' (Twins start) (Twins start) (update s : Work m Nat) (Office.update s) :=
  (commit vouches mutes fun _ _ => .update other.symm).bind fun _ => pure _

theorem insertNumbered {s : Insert} (other : s.table ≠ Log.table) :
    InStep P P' (Twins start) (Twins start) (insertNumbered s : Work m Int)
      (Office.insertNumbered s) := by
  refine (insert vouches mutes other).bind fun e => ?_
  cases e.rowId? with
  | none => exact throw _
  | some id => exact pure id

theorem allocate (offerPrefix : String) (version : Int) :
    InStep P P' (Twins start) (Twins start) (allocate offerPrefix version : Work m OfferNumber)
      (Office.allocate offerPrefix version) := by
  have counted (year : Int) : InStep P P' (Twins start) (Twins start)
      (allocateForYear offerPrefix year version : Work m OfferNumber)
      (allocateForYear offerPrefix year version) :=
    (commit vouches mutes fun _ _ => .advanceCounter (by decide)).bind fun _ => pure _
  have dated := get_now (fun _ _ => Twins.now) fun now => counted now.year
  exact dated

/-- An entry is saved in the first office and dropped in the second one. -/
theorem record (action : Action) (entityType : String) (entityId : Option Int)
    (entityUuid : Option String) (caller : Caller) (details : Option Json) :
    InStep P P' (Twins start) (Parted start)
      (Log.record action entityType entityId entityUuid caller details : OfficeM ε m Unit)
      (Log.record action entityType entityId entityUuid caller details) := by
  let entry := Log.entry action entityType entityId entityUuid caller details
  let change (now : Instant) : Document → Execution × Document := entry.apply now []
  refine ⟨fun o fine => ?_, fun o' fine' => ?_, fun o o' twins fine fine' => ⟨rfl, ?_⟩⟩
  · exact (vouches _ _ (medium_commit change o ▸ fine)).2
  · exact (mutes _ _ (medium_commit change o' ▸ fine')).2
  · change Parted start ((onStore fun now => Store.commit (change now)).run.run o).2
      ((onStore fun now => Store.commit (change now)).run.run o').2
    have saved := (vouches _ _ (medium_commit change o ▸ fine)).1
    -- The log with the entry is not the one from before.
    have longer : (change o'.now o'.store.document).2.table Log.table ≠ start.table Log.table := by
      intro same
      have added := (@Change.table_insert o'.now o'.store.document entry Log.table).trans
        (if_pos rfl)
      have lengths := congrArg List.length (added.symm.trans (same.trans twins.log.table_eq.symm))
      simp at lengths
    have failed' := mt (mutes _ _ (medium_commit change o' ▸ fine')).1.mp longer
    obtain ⟨_, p, run, -, left⟩ := (commit_saved (congrArg Except.isOk saved)).exists_ok
    obtain ⟨_, p', run', left'⟩ := (commit_undone failed').exists_error
    rw [run, run', left, left']
    refine ⟨?_, twins.now, twins.log⟩
    change (change o.now o.store.document).2.SameBut Log.table o'.store.document
    rw [← twins.document]
    exact .insert entry

end Changing

end InStep

end Office

end OfferBook
