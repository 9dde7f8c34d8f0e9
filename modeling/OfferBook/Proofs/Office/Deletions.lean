import OfferBook.Proofs.Office.Refusals
import OfferBook.Proofs.Sheets.Frozen

/-! # Deletions

A deletion marks the row with an id. Both calculations and offers are deleted in this way.

* `Office.serveAll_few` — a request adds at most one row, so that few requests leave ids that can
  be compared.
* `Calculations.deletion`, with which both services agree — look up a row, mark it, and record it.
* `deletion_marks` — a deletion that succeeds has left a mark.
* `DeletesNothing`, `deletion_again` — where there is a mark, nothing is changed.
-/

namespace OfferBook

open Office

variable {m : Type} [Medium m] {offerPrefix : String} {o : Office m}

/-! ## Few rows -/

namespace Office

theorem serve_few (offerPrefix : String) (h : o.Sound) (r : Request) :
    (serve offerPrefix o r).calculations.length ≤ o.calculations.length + 1 ∧
      (serve offerPrefix o r).offers.length ≤ o.offers.length + 1 := by
  obtain ⟨between, core, aside⟩ : Effect offerPrefix (o.setNow r.now) (serve offerPrefix o r) :=
    serve_effect h r
  obtain ⟨f, -, calculations⟩ := aside.annotated (.inl rfl)
  obtain ⟨g, -, offers⟩ := aside.annotated (.inr rfl)
  unfold Office.calculations Office.offers at *
  rw [calculations, offers, List.length_map, List.length_map]
  cases core.growth with
  | same rows => rw [rows.calculations, rows.offers]; exact ⟨Nat.le_succ _, Nat.le_succ _⟩
  | counted rows => rw [rows.calculations, rows.offers]; exact ⟨Nat.le_succ _, Nat.le_succ _⟩
  | first _ _ rows =>
    rw [rows.calculations, rows.offers, List.length_append]
    exact ⟨Nat.le_refl _, Nat.le_succ _⟩
  | retired _ rows =>
    rw [rows.calculations, rows.offers, Office.retired, List.length_map]
    exact ⟨Nat.le_succ _, Nat.le_succ _⟩
  | next _ rows =>
    rw [rows.calculations, rows.offers, List.length_append, Office.retired, List.length_map]
    exact ⟨Nat.le_refl _, Nat.le_succ _⟩
  | offered rows =>
    rw [rows.calculations, rows.offers, List.length_append]
    exact ⟨Nat.le_succ _, Nat.le_refl _⟩

theorem serveAll_few (offerPrefix : String) (h : o.Sound) (rs : List Request) :
    (serveAll offerPrefix o rs).calculations.length ≤ o.calculations.length + rs.length ∧
      (serveAll offerPrefix o rs).offers.length ≤ o.offers.length + rs.length := by
  induction rs generalizing o with
  | nil => exact ⟨Nat.le_refl _, Nat.le_refl _⟩
  | cons r rest ih =>
    have first := serve_few offerPrefix h r
    have later := ih (o := serve offerPrefix o r) (h.serve r)
    simp only [List.length_cons]
    refine ⟨Nat.le_trans later.1 ?_, Nat.le_trans later.2 ?_⟩ <;> omega

end Office

/-! ## Named rows -/

theorem fits_of_few {rows : List Record} (few : fitsSigned rows.length = true) {k : Nat}
    {row : Record} (hk : rows[k]? = some row) : fitsSigned (k + 1) = true := by
  have inside := (List.getElem?_eq_some_iff.mp hk).1
  rw [fitsSigned_iff] at few ⊢
  omega

theorem Consecutive.exists_id {rows : List Record} (h : Consecutive rows)
    (few : fitsSigned rows.length = true) {row : Record} (mem : row ∈ rows) :
    ∃ id : Int, row.get? "id" = some (.int id) ∧ fitsSigned id = true := by
  obtain ⟨k, hk⟩ := List.getElem?_of_mem mem
  exact ⟨k + 1, h k row hk, fits_of_few few hk⟩

/-- With ids of 64 bits, an id names the row in the place that it counts to. -/
theorem Regular.isNamed_iff {form : Form} {t : String} {doc : Document} (h : Regular form t doc)
    (few : fitsSigned (doc.table t).length = true) {id : Int} (fits : fitsSigned id = true)
    {k : Nat} {row : Record} (hk : (doc.table t)[k]? = some row) :
    Calculations.isNamed id row = true ↔ id = k + 1 := by
  rw [Calculations.isNamed, h.numbered k row hk, Json.matchesValue_int (fits_of_few few hk) fits,
    decide_eq_true_iff]
  exact eq_comm

/-- No other row is named by the id of a row. -/
theorem Regular.eq_of_isNamed {form : Form} {t : String} {doc : Document} (h : Regular form t doc)
    (few : fitsSigned (doc.table t).length = true) {id : Int} {row other : Record}
    (mem : row ∈ doc.table t) (own : row.get? "id" = some (.int id)) (mem' : other ∈ doc.table t)
    (named : Calculations.isNamed id other = true) : other = row := by
  obtain ⟨k, hk⟩ := List.getElem?_of_mem mem
  obtain ⟨j, hj⟩ := List.getElem?_of_mem mem'
  obtain rfl : (k : Int) + 1 = id := by simpa [Json.int] using (h.numbered k row hk).symm.trans own
  have place := (h.isNamed_iff few (fits_of_few few hk) hj).mp named
  obtain rfl : k = j := by omega
  exact Option.some.inj (hj.symm.trans hk)

namespace Calculations

/-- A row once it is to be deleted carries a mark, a new one or one that it had. -/
theorem isText_markDeleted {now : Instant} {t : String} {id : Int} {row : Record}
    (named : isNamed id row = true) (form : Field.MayBeText (row.get? "deleted_at")) :
    Field.IsText ((Change.updateRow now (markDeleted t id) row).get? "deleted_at") := by
  have passes : Test.allHold ((markDeleted t id).bound now []).2 row =
      Json.isMissing (row.get? "deleted_at") := by
    change (isNamed id row && (Json.isMissing (row.get? "deleted_at") && true)) = _
    rw [named, Bool.true_and, Bool.and_true]
  unfold Change.updateRow
  rw [passes]
  split
  · exact ⟨now.timestamp, Dict.get?_insert_self ..⟩
  · next present =>
    rcases form with none | null | text
    · exact absurd (by rw [none]; rfl) present
    · exact absurd (by rw [null]; rfl) present
    · exact text

/-- No row is left to be marked. -/
theorem changes_markDeleted {form : Form} {t : String} {doc : Document} (h : Regular form t doc)
    (few : fitsSigned (doc.table t).length = true) {k : Nat} {row : Record}
    (hk : (doc.table t)[k]? = some row) (marked : Field.IsText (row.get? "deleted_at"))
    (now : Instant) : ((markDeleted t (k + 1)).apply now [] doc).1.changes = 0 := by
  unfold Update.apply
  dsimp only
  split
  · refine List.countP_eq_zero.mpr fun other mem passed => ?_
    obtain ⟨j, hj⟩ := List.getElem?_of_mem mem
    obtain ⟨named, missing⟩ := Bool.and_eq_true_iff.mp passed
    -- The only row that is named is the one that has a mark.
    have same : j = k := by
      have := (h.isNamed_iff few (fits_of_few few hk) hj).mp named
      omega
    subst same
    obtain rfl : row = other := Option.some.inj (hk.symm.trans hj)
    have missing : Json.isMissing (row.get? "deleted_at") = true :=
      (Bool.and_eq_true_iff.mp missing).1
    obtain ⟨s, text⟩ := marked
    rw [text] at missing
    cases missing
  · rfl

end Calculations

/-! ## Deleting -/

section Deleting

variable {β : Type}

/-- Look up a row, mark it as deleted, and record this if it has not been. -/
def deletion (require : Service m β) (t : String) (id : Int) (entry : β → Service m Unit) :
    Service m Unit := do
  let found ← require
  if 0 < (← storage (Office.update (Calculations.markDeleted t id))) then entry found

/-- Nothing is changed, and only a document that cannot be saved is an error. -/
def DeletesNothing (act : Service m Unit) (o : Office m) : Prop :=
  Ends act o (fun _ o' => o'.store.document = o.store.document) fun e o' =>
    o'.store.document = o.store.document ∧
      ∃ cause, (Medium.save o.store.document o.store.medium).1 = .error cause ∧
        e = .internal cause

theorem deletion_again {require : Service m β} {t : String} {id : Int}
    {entry : β → Service m Unit} {found : β → Prop}
    (required : Ends require o (fun x o' => found x ∧ o' = o) fun _ _ => False)
    (none : ((Calculations.markDeleted t id).apply o.now [] o.store.document).1.changes = 0) :
    DeletesNothing (deletion require t id entry) o := by
  have same := Update.apply_of_none none
  refine ends_bind.mpr (required.mono ?_ fun _ _ => False.elim)
  rintro x o' ⟨-, rfl⟩
  -- The update is saved although it finds nothing to mark; this is the one save that can fail.
  refine ends_bind.mpr (ends_storage.mpr (ends_bind.mpr (Ends.commit_of_save ?_ ?_)))
  · intro medium _
    refine ends_pure.mpr ?_
    rw [none, same]
    exact ends_pure.mpr rfl
  · intro cause medium failed
    rw [same] at failed
    exact ⟨rfl, cause, by rw [failed], rfl⟩

theorem deletion_marks {require : Service m β} {t : String} {id : Int}
    {entry : β → Service m Unit} {reads : Record → β → Prop}
    (required : Ends require o (fun x o' => (∃ row ∈ o.store.document.table t,
      Calculations.isNamed id row = true ∧ reads row x) ∧ o' = o) fun _ _ => True)
    (form : ∀ row ∈ o.store.document.table t, Field.MayBeText (row.get? "deleted_at"))
    (apart : ∀ x o, Ends (entry x) o
      (fun _ o' => o'.store.document.table t = o.store.document.table t) fun _ _ => True) :
    Ends (deletion require t id entry) o
      (fun _ o' => ∃ (k : Nat) (row : Record) (x : β) (row' : Record),
        (o.store.document.table t)[k]? = some row ∧ Calculations.isNamed id row = true ∧
        reads row x ∧ (o'.store.document.table t)[k]? = some row' ∧
        Field.IsText (row'.get? "deleted_at"))
      fun _ _ => True := by
  refine ends_bind.mpr (required.mono ?_ fun _ _ _ => trivial)
  rintro x o' ⟨⟨row, mem, named, read⟩, rfl⟩
  obtain ⟨k, hk⟩ := List.getElem?_of_mem mem
  refine ends_bind.mpr (ends_storage.mpr (Ends.mono (Performs.update _) ?_ fun _ _ _ => trivial))
  rintro n o₁ ⟨-, reached⟩
  have marked : (o₁.store.document.table t)[k]? =
      some (Change.updateRow o'.now (Calculations.markDeleted t id) row) := by
    have same : t = (Calculations.markDeleted t id).table := rfl
    rw [reached.document, Change.applyAll_cons, Change.applyAll_nil, Change.table_update,
      if_pos same, List.getElem?_map, hk]
    rfl
  have text : Field.IsText ((Change.updateRow o'.now (Calculations.markDeleted t id) row).get?
      "deleted_at") := Calculations.isText_markDeleted named (form row mem)
  split
  · refine (apart x o₁).mono (fun _ o₂ same => ?_) fun _ _ _ => trivial
    exact ⟨k, row, x, _, hk, named, read, by rw [same]; exact marked, text⟩
  · exact ends_pure.mpr ⟨k, row, x, _, hk, named, read, marked, text⟩

end Deleting

/-! ## Calculations and offers -/

theorem record_apart {t : String} (ht : t ≠ Log.table) (action : Action) (entityType : String)
    (entityId : Option Int) (entityUuid : Option String) (caller : Caller) (details : Option Json)
    (o : Office m) :
    Ends (Log.record action entityType entityId entityUuid caller details : Service m Unit) o
      (fun _ o' => o'.store.document.table t = o.store.document.table t) fun _ _ => True :=
  Ends.record (fun _ => (Change.table_insert _ _).trans (if_neg ht)) fun _ => rfl

namespace Calculations

/-- The entry of the log for a deletion. -/
def deletionEntry (id : Int) (caller : Caller) (c : Calculation) : Service m Unit :=
  Log.record .delete entityType (some id) (some c.uuid) caller (some (.ofFields
    [("kunde", Json.ofOption .text c.kunde), ("calculation_type", .text c.kind.name)]))

theorem delete_eq (id : Int) (caller : Caller) :
    (delete id caller : Service m Unit) =
      deletion (require id) table id (deletionEntry id caller) := rfl

theorem delete_marks (h : o.Sound) (id : Int) (caller : Caller) :
    Ends (delete id caller) o
      (fun _ o' => ∃ (k : Nat) (row row' : Record),
        o.calculations[k]? = some row ∧ isNamed id row = true ∧
        o'.calculations[k]? = some row' ∧ Field.IsText (row'.get? "deleted_at"))
      fun _ _ => True := by
  have form (row : Record) (mem : row ∈ o.store.document.table table) :
      Field.MayBeText (row.get? "deleted_at") :=
    h.calculations.admits row mem ("deleted_at", Field.MayBeText) (by simp [form])
  have required := (require_ends h.calculations id).mono (fun _ _ found => found)
    fun _ _ _ => trivial
  have apart (c : Calculation) (o : Office m) : Ends (deletionEntry id caller c) o
      (fun _ o' => o'.store.document.table table = o.store.document.table table) fun _ _ => True :=
    record_apart (by decide) _ _ _ _ _ _ o
  rw [delete_eq]
  refine (deletion_marks required form apart).mono ?_ fun _ _ h => h
  rintro _ o' ⟨k, row, c, row', hk, named, -, hk', text⟩
  exact ⟨k, row, row', hk, named, hk', text⟩

theorem delete_again (h : o.Sound) (few : fitsSigned o.calculations.length = true) {k : Nat}
    {row : Record} (hk : o.calculations[k]? = some row)
    (marked : Field.IsText (row.get? "deleted_at")) (caller : Caller) :
    DeletesNothing (delete (k + 1) caller) o := by
  have fits := fits_of_few few hk
  rw [delete_eq]
  exact deletion_again (require_found h.calculations hk fits)
    (changes_markDeleted h.calculations few hk marked o.now)

end Calculations

namespace Offers

/-- The entry of the log for a deletion. -/
def deletionEntry (id : Int) (caller : Caller) (offer : Offer) : Service m Unit :=
  Log.record .delete entityType (some id) (some offer.uuid) caller
    (some (details offer.kunde offer.kind))

theorem delete_eq (id : Int) (caller : Caller) :
    (delete id caller : Service m Unit) =
      deletion (require id) table id (deletionEntry id caller) := rfl

omit [Medium m] in
theorem require_reads (id : Int) :
    Ends (require id) o
      (fun offer o' => (∃ row ∈ o.store.document.table table,
        Calculations.isNamed id row = true ∧ Offer.ofRecord? row = some offer) ∧ o' = o)
      fun _ _ => True := by
  simp only [require, ends_bind, ends_storage, ends_selectFirst, Select.rows_matching]
  split
  · next row found =>
    obtain ⟨mem, passed⟩ := List.mem_filter.mp (List.mem_of_head? found)
    have named : Calculations.isNamed id row = true := (Bool.and_eq_true_iff.mp passed).1
    cases read : Offer.ofRecord? row with
    | none => trivial
    | some offer => exact ends_pure.mpr ⟨⟨row, mem, named, read⟩, rfl⟩
  · exact ends_throw.mpr trivial

/-- Only an offer that can be read is deleted. -/
theorem delete_marks (h : o.Sound) (id : Int) (caller : Caller) :
    Ends (delete id caller) o
      (fun _ o' => ∃ (k : Nat) (row row' : Record),
        o.offers[k]? = some row ∧ Calculations.isNamed id row = true ∧
        (∃ offer, Offer.ofRecord? row = some offer) ∧
        o'.offers[k]? = some row' ∧ Field.IsText (row'.get? "deleted_at"))
      fun _ _ => True := by
  have form (row : Record) (mem : row ∈ o.store.document.table table) :
      Field.MayBeText (row.get? "deleted_at") :=
    h.offers.admits row mem ("deleted_at", Field.MayBeText) (by simp [form])
  have apart (offer : Offer) (o : Office m) : Ends (deletionEntry id caller offer) o
      (fun _ o' => o'.store.document.table table = o.store.document.table table) fun _ _ => True :=
    record_apart (by decide) _ _ _ _ _ _ o
  rw [delete_eq]
  refine (deletion_marks (require_reads id) form apart).mono ?_ fun _ _ h => h
  rintro _ o' ⟨k, row, offer, row', hk, named, read, hk', text⟩
  exact ⟨k, row, row', hk, named, ⟨offer, read⟩, hk', text⟩

theorem delete_again (h : o.Sound) (few : fitsSigned o.offers.length = true) {k : Nat}
    {row : Record} (hk : o.offers[k]? = some row)
    (source : ∃ source, Fields.optional "source_calculation_id" Strict.integer? row.entries =
      some source)
    (marked : Field.IsText (row.get? "deleted_at")) (caller : Caller) :
    DeletesNothing (delete (k + 1) caller) o := by
  have fits := fits_of_few few hk
  rw [delete_eq]
  exact deletion_again (require_found h.offers hk fits source)
    (Calculations.changes_markDeleted h.offers few hk marked o.now)

end Offers

end OfferBook
