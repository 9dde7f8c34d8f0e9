import OfferBook.Proofs.Log.Entries
import OfferBook.Proofs.Office.History

/-! # What the log tells of changes

Where no save fails, each call that creates, edits, deletes or sends adds one entry to the log if
it changes anything. Changes of titles are not recorded.

* `Touches` — rows that have changed all belong to one record.
* `Call.author?` — for whom a call makes changes that are recorded.
* `Office.changes_are_recorded` — changes have entries, and entries belong to changes.
* `Office.rename_is_not_recorded` — a title has changed, and the log is the same.
-/

namespace OfferBook

/-! ## Rows that have changed -/

/-- All rows that are new or have changed have the same identifier. -/
def Touches (column uuid : String) (rows rows' : List Record) : Prop :=
  ∀ (k : Nat) (row' : Record), rows'[k]? = some row' →
    rows[k]? = some row' ∨ row'.get? column = some (.text uuid)

namespace Touches

variable {column uuid : String} {rows rows' : List Record}

theorem refl (column uuid : String) (rows : List Record) : Touches column uuid rows rows :=
  fun _ _ => .inl

theorem map {f : Record → Record}
    (h : ∀ row ∈ rows, f row = row ∨ (f row).get? column = some (.text uuid)) :
    Touches column uuid rows (rows.map f) := by
  intro k row' hk
  rw [List.getElem?_map] at hk
  obtain ⟨row, hrow, rfl⟩ := Option.map_eq_some_iff.mp hk
  refine (h row (List.mem_of_getElem? hrow)).imp_left fun same => ?_
  rw [same, hrow]

theorem concat (h : Touches column uuid rows rows') {row : Record}
    (named : row.get? column = some (.text uuid)) : Touches column uuid rows (rows' ++ [row]) := by
  intro k row' hk
  rcases getElem?_concat_cases hk with old | ⟨-, rfl⟩
  · exact h k row' old
  · exact .inr named

/-- An update of rows with an id touches one record only, the one with the id. -/
theorem updated {form : Form} {t : String} {doc : Document} (h : Regular form t doc)
    (few : fitsSigned (doc.table t).length = true) {id : Int} (fits : fitsSigned id = true)
    {now : Instant} {s : Update}
    (passes : ∀ row, Test.allHold (s.bound now []).2 row = true →
      Calculations.isNamed id row = true)
    (apart : column ∉ s.assignments.map Prod.fst) {row : Record} (mem : row ∈ doc.table t)
    (named : Calculations.isNamed id row = true) (own : row.get? column = some (.text uuid)) :
    Touches column uuid (doc.table t) ((doc.table t).map (Change.updateRow now s)) := by
  obtain ⟨k, hk⟩ := List.getElem?_of_mem mem
  obtain rfl := (h.isNamed_iff few fits hk).mp named
  refine .map fun other among => ?_
  by_cases passed : Test.allHold (s.bound now []).2 other = true
  · obtain rfl : other = row :=
      h.eq_of_isNamed few mem (h.numbered k row hk) among (passes other passed)
    exact .inr ((Change.get?_updateRow_of_notMem apart other).trans own)
  · exact .inl (if_neg passed)

/-- Rows that cease to be current belong to the chain. -/
theorem retired {m : Type} {o : Office m} (h : o.Sound) (uuid : String) :
    Touches "calculation_uuid" uuid o.calculations (o.retired uuid) := by
  refine .map fun row mem => ?_
  by_cases passed : Test.allHold ((Calculations.retire uuid).bound o.now []).2 row = true
  · have text : Field.IsText (row.get? "calculation_uuid") :=
      h.calculations.admits row mem ("calculation_uuid", Field.IsText) (by simp [Calculations.form])
    have called : Json.matchesValue (row.get? "calculation_uuid") (.text uuid) = true :=
      (Bool.and_eq_true_iff.mp passed).1
    rw [Json.matchesValue_text text] at called
    exact .inr ((Change.get?_updateRow_of_notMem (by simp [Calculations.retire]) row).trans
      (of_decide_eq_true called))
  · exact .inl (if_neg passed)

end Touches

namespace Offers

variable {m : Type} {o : Office m} {id : Int} {offer : Offer}

theorem Finds.get?_uuid (h : Finds o id offer) (sound : o.Sound) :
    ∃ row ∈ o.offers, Calculations.isNamed id row = true ∧
      row.get? "offer_uuid" = some (.text offer.uuid) := by
  obtain ⟨row, mem, named, read⟩ := h
  obtain ⟨uuid, text⟩ : Field.IsText (row.get? "offer_uuid") :=
    sound.offers.admits row mem ("offer_uuid", Field.IsText) (by simp [form])
  refine ⟨row, mem, named, text.trans ?_⟩
  have reads := Offer.reads_of_ofRecord? read
  rw [Option.some.inj ((Fields.orDefault_text text).symm.trans reads.uuid)]

end Offers

/-! ## Calls -/

/-- For whom a call creates, edits, deletes or sends. -/
def Call.author? : Call → Option Caller
  | .createCalculation _ caller | .updateCalculation _ _ caller | .deleteCalculation _ caller
  | .createOffer _ caller | .deleteOffer _ caller | .sendOffer _ _ _ _ caller => some caller
  | _ => none

/-- Whether an offer is sent that is already marked as sent at the same time. -/
def Call.Resends {m : Type} (o : Office m) : Call → Prop
  | .sendOffer _ _ id _ _ => ∃ row ∈ o.offers, Calculations.isNamed id row = true ∧
      row.get? "status" = some (.text OfferStatus.sent.name) ∧
      row.get? "sent_at" = some (.text o.now.timestamp)
  | _ => False

namespace Office

variable {m : Type} {o o' : Office m} {call : Call} {caller : Caller} {uuid : String}

/-- Exactly one entry of the log goes with what has changed, and names the record and the caller.
    Where nothing has changed there is none, unless an offer was sent once more. -/
structure Accounted (call : Call) (caller : Caller) (o o' : Office m) : Prop where
  recorded : o'.calculations ≠ o.calculations ∨ o'.offers ≠ o.offers →
    ∃ uuid, Records uuid caller o o' ∧
      Touches "calculation_uuid" uuid o.calculations o'.calculations ∧
      Touches "offer_uuid" uuid o.offers o'.offers
  unrecorded : o'.calculations = o.calculations → o'.offers = o.offers →
    o'.log = o.log ∨ call.Resends o

theorem Accounted.of_changed (changed : o'.calculations ≠ o.calculations ∨ o'.offers ≠ o.offers)
    (records : Records uuid caller o o')
    (calculations : Touches "calculation_uuid" uuid o.calculations o'.calculations)
    (offers : Touches "offer_uuid" uuid o.offers o'.offers) : Accounted call caller o o' where
  recorded _ := ⟨uuid, records, calculations, offers⟩
  unrecorded same same' := absurd changed (not_or.mpr ⟨not_not.mpr same, not_not.mpr same'⟩)

theorem Accounted.of_unchanged (calculations : o'.calculations = o.calculations)
    (offers : o'.offers = o.offers) (log : o'.log = o.log) : Accounted call caller o o' where
  recorded changed := absurd changed (not_or.mpr ⟨not_not.mpr calculations, not_not.mpr offers⟩)
  unrecorded _ _ := .inl log

end Office

/-! ## Services -/

open Office

section Services

variable {m : Type} [Medium m] {P : m → Prop} {o : Office m} {offerPrefix : String}
  (vouches : Medium.Vouches P)
include vouches

namespace Calculations

theorem create_accounted (h : o.Sound) (fits : fitsSigned (o.calculations.length + 1) = true)
    (input : CalculationInput) (caller : Caller) :
    Yields P (create offerPrefix input caller) o fun _ =>
      Accounted (.createCalculation input caller) caller o := by
  refine (create_yields vouches h fits input caller).mono ?_
  rintro saved o' ⟨-, -, records, ⟨kunde, rows⟩, offers⟩
  refine .of_changed (.inl fun same => ?_) records ?_ (offers ▸ .refl _ _ _)
  · have := congrArg List.length (rows.symm.trans same)
    simp at this
  · rw [rows]
    exact .concat (.refl _ _ _) (get?_firstRow (by simp [rowFields]))

theorem update_accounted (h : o.Sound) (fits : fitsSigned (o.calculations.length + 1) = true)
    (id : Int) (input : CalculationInput) (caller : Caller) :
    Yields P (update offerPrefix id input caller) o fun _ =>
      Accounted (.updateCalculation id input caller) caller o := by
  refine (update_yields vouches h fits id input caller).mono ?_
  rintro saved o' ⟨-, records, ⟨row, head, kunde, -, uuid, rows⟩, offers⟩
  refine .of_changed (.inl fun same => ?_) records ?_ (offers ▸ .refl _ _ _)
  · have := congrArg List.length (rows.symm.trans same)
    simp [Office.retired] at this
  · rw [rows, uuid]
    exact .concat (.retired h _) (get?_nextRow (by simp [rowFields]))

theorem delete_accounted (h : o.Sound) (few : fitsSigned o.calculations.length = true) {id : Int}
    (fits : fitsSigned id = true) (caller : Caller) :
    Yields P (delete id caller) o fun _ => Accounted (.deleteCalculation id caller) caller o := by
  refine (delete_yields vouches h id caller).mono ?_
  rintro _ o' ⟨rows, offers, c, ⟨row, mem, named, shown⟩, ⟨same, log⟩ | ⟨changed, records⟩⟩
  · exact .of_unchanged same offers log
  · refine .of_changed (.inl changed) records ?_ (offers ▸ .refl _ _ _)
    rw [rows]
    exact .updated h.calculations few fits (fun _ passed => (isMissing_of_marks passed).1)
      (by simp [markDeleted]) mem named shown.uuid

end Calculations

namespace Offers

theorem create_accounted (h : o.Sound) (fits : fitsSigned (o.offers.length + 1) = true)
    (input : OfferInput) (caller : Caller) :
    Yields P (create offerPrefix input caller) o fun _ =>
      Accounted (.createOffer input caller) caller o := by
  refine (create_yields vouches h fits input caller).mono ?_
  rintro saved o' ⟨-, records, calculations, rows⟩
  refine .of_changed (.inr fun same => ?_) records (calculations ▸ .refl _ _ _) ?_
  · have := congrArg List.length (rows.symm.trans same)
    simp at this
  · rw [rows]
    exact .concat (.refl _ _ _) (get?_row_of_mem (by simp [rowFields]) _)

theorem delete_accounted (h : o.Sound) (few : fitsSigned o.offers.length = true) {id : Int}
    (fits : fitsSigned id = true) (caller : Caller) :
    Yields P (delete id caller) o fun _ => Accounted (.deleteOffer id caller) caller o := by
  refine (delete_yields vouches id caller).mono ?_
  rintro _ o' ⟨calculations, rows, offer, found, ⟨same, log⟩ | ⟨changed, records⟩⟩
  · exact .of_unchanged calculations same log
  · obtain ⟨row, mem, named, uuid⟩ := found.get?_uuid h
    refine .of_changed (.inr changed) records (calculations ▸ .refl _ _ _) ?_
    rw [rows]
    exact .updated h.offers few fits
      (fun _ passed => (Calculations.isMissing_of_marks passed).1)
      (by simp [Calculations.markDeleted]) mem named uuid

/-- Sending records an entry in any case. -/
theorem send_accounted (h : o.Sound) (few : fitsSigned o.offers.length = true)
    (letterhead : Letterhead) (mailer : Mailer) {id : Int} (fits : fitsSigned id = true)
    (request : SendRequest) (caller : Caller) :
    Yields P (send letterhead mailer id request caller) o fun _ =>
      Accounted (.sendOffer letterhead mailer id request caller) caller o := by
  refine (send_yields vouches letterhead mailer id request caller).mono ?_
  rintro _ o' ⟨calculations, rows, offer, found, records⟩
  obtain ⟨row, mem, named, uuid⟩ := found.get?_uuid h
  have passes (row : Record) : Test.allHold ((markSent id).bound o.now []).2 row =
      Calculations.isNamed id row := Bool.and_true _
  refine ⟨fun _ => ⟨offer.uuid, records, calculations ▸ .refl _ _ _, ?_⟩, fun _ same => .inr ?_⟩
  · rw [rows]
    exact .updated h.offers few fits (fun row passed => (passes row).symm.trans passed)
      (by simp [markSent]) mem named uuid
  · -- The row is as it would be if it were marked now.
    have marked : Change.updateRow o.now (markSent id) row = row :=
      row_unchanged (rows.symm.trans same) mem
    rw [Change.updateRow, if_pos ((passes row).trans named)] at marked
    refine ⟨row, mem, named, ?_, ?_⟩ <;> rw [← marked]
    · exact (Dict.get?_insert_of_ne _ (show "status" ≠ "sent_at" by decide) _).trans
        (Dict.get?_insert_self ..)
    · exact Dict.get?_insert_self ..

end Offers

/-! ## Runs -/

namespace Office

theorem work_accounted (h : o.Sound) (fits : fitsSigned (o.calculations.length + 1) = true)
    (fits' : fitsSigned (o.offers.length + 1) = true) {call : Call} {caller : Caller}
    (author : call.author? = some caller) (words : call.InWords) :
    Yields P (call.work offerPrefix) o fun _ => Accounted call caller o := by
  have few {n : Nat} (fits : fitsSigned (n + 1 : Int) = true) : fitsSigned n = true := by
    rw [fitsSigned_iff] at fits ⊢
    omega
  cases call with
  | createCalculation input caller =>
    cases author
    exact (Calculations.create_accounted vouches h fits input caller).discard
  | updateCalculation id input caller =>
    cases author
    exact (Calculations.update_accounted vouches h fits id input caller).discard
  | deleteCalculation id caller =>
    cases author
    exact Calculations.delete_accounted vouches h (few fits) words caller
  | createOffer input caller =>
    cases author
    exact (Offers.create_accounted vouches h fits' input caller).discard
  | deleteOffer id caller =>
    cases author
    exact Offers.delete_accounted vouches h (few fits') words caller
  | sendOffer letterhead mailer id request caller =>
    cases author
    exact (Offers.send_accounted vouches h (few fits') letterhead mailer words request
      caller).discard
  | _ => cases author

/-- Whatever has been asked of a new office before, as long as no save has failed, neither then nor
    now: a call that creates, edits, deletes or sends adds one entry to the log for what it changes,
    and none where it changes nothing. -/
theorem changes_are_recorded (h : o.IsNew) (rs : List Request)
    (few : fitsSigned (rs.length + 1) = true) (r : Request) {caller : Caller}
    (author : r.call.author? = some caller) (words : r.call.InWords)
    (fine : P (serve offerPrefix (serveAll offerPrefix o rs) r).store.medium) :
    Accounted r.call caller ((serveAll offerPrefix o rs).setNow r.now)
      (serve offerPrefix (serveAll offerPrefix o rs) r) := by
  have sound : (serveAll offerPrefix o rs).Sound := (serveAll_remembers offerPrefix h.sound rs).1
  have rows := serveAll_few offerPrefix h.sound rs
  have none : o.calculations.length = 0 ∧ o.offers.length = 0 :=
    ⟨List.length_eq_zero_iff.mpr (h.isEmpty _).1, List.length_eq_zero_iff.mpr (h.isEmpty _).1⟩
  rw [none.1, none.2] at rows
  have fits {n : Nat} (fewer : n ≤ 0 + rs.length) : fitsSigned (n + 1) = true := by
    rw [fitsSigned_iff] at few ⊢
    omega
  have accounted : Yields P (r.call.work offerPrefix) _ fun _ => Accounted r.call caller _ :=
    work_accounted vouches (sound.setNow r.now) (fits rows.1) (fits rows.2) author words
  -- A call that is refused changes nothing.
  refine (accounted.snd fine).2.elim id fun same => .of_unchanged ?_ ?_ ?_ <;>
    exact congrArg (Document.table · _) same

end Office

end Services

namespace Office

theorem first_deletion_is_recorded :
    ∃ uuid, Records uuid somebody
      ((serveAll "FHD" (opened (⟨inMemory.store.medium, true⟩ : Watched Memory) 0) dayBefore).setNow
        86400000)
      (serve "FHD"
        (serveAll "FHD" (opened (⟨inMemory.store.medium, true⟩ : Watched Memory) 0) dayBefore)
        ⟨86400000, .deleteCalculation 1 somebody⟩) := by
  have run :
      (serve "FHD"
        (serveAll "FHD" (opened (⟨inMemory.store.medium, true⟩ : Watched Memory) 0) dayBefore)
        ⟨86400000, .deleteCalculation 1 somebody⟩).store.medium.fine = true ∧
      (serve "FHD"
        (serveAll "FHD" (opened (⟨inMemory.store.medium, true⟩ : Watched Memory) 0) dayBefore)
        ⟨86400000, .deleteCalculation 1 somebody⟩).calculations ≠
      (serveAll "FHD" (opened (⟨inMemory.store.medium, true⟩ : Watched Memory) 0)
        dayBefore).calculations := by decide +kernel
  have accounted := changes_are_recorded Watched.vouches
    (isNew_opened (⟨inMemory.store.medium, true⟩ : Watched Memory) 0) dayBefore (by decide)
    ⟨86400000, .deleteCalculation 1 somebody⟩ rfl (by decide : fitsSigned 1 = true) run.1
  obtain ⟨uuid, records, -⟩ := accounted.recorded (.inl run.2)
  exact ⟨uuid, records⟩

/-! ## Titles -/

/-- Whatever becomes of a new title, the log stays as it is. -/
theorem log_of_rename {m : Type} [Medium m] (offerPrefix : String) (o : Office m) (now : Instant)
    (uuid title : String) :
    (serve offerPrefix o ⟨now, .renameCalculations uuid title⟩).log = o.log := by
  have made : Made (Change.Spares Log.table) (o.setNow now)
      (serve offerPrefix o ⟨now, .renameCalculations uuid title⟩) :=
    Ends.snd ((spares_rename uuid title).discard (o.setNow now))
  exact made.log

/-- The first calculation gets another title, and there is no entry for it. -/
theorem rename_is_not_recorded :
    ((Calculations.rename (inMemory.supply.uuid 0) "Neu").run.run
      ((serveAll "FHD" inMemory dayBefore).setNow 86400000)).1.isOk = true ∧
    ((Calculations.rename (inMemory.supply.uuid 0) "Neu").run.run
      ((serveAll "FHD" inMemory dayBefore).setNow 86400000)).2.calculations ≠
      (serveAll "FHD" inMemory dayBefore).calculations ∧
    ((Calculations.rename (inMemory.supply.uuid 0) "Neu").run.run
      ((serveAll "FHD" inMemory dayBefore).setNow 86400000)).2.log =
      (serveAll "FHD" inMemory dayBefore).log := by decide +kernel

end Office

end OfferBook
