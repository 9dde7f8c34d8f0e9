import OfferBook.Proofs.Gate.Visits
import OfferBook.Proofs.Office.Looking
import OfferBook.Proofs.Office.Requests
import OfferBook.Proofs.Store.Reopening

/-! # Refusals

A caller who is told what is wrong can try again: nothing has happened.

* `Call.answer` — what a caller is answered, the gate's verdict included.
* `Office.Intact` — nothing that is stored has changed.
* `Untold` — work whose errors are internal; `Refuses` — work that does nothing when it refuses, as
  looking first and writing then does.
* `Office.refusals_change_nothing` — every call refuses in this way.
-/

namespace OfferBook

/-- Whether a caller is told what is wrong. -/
def ServiceError.isTold : ServiceError → Bool
  | .notFound _ | .validation _ | .unauthorized _ | .forbidden _ | .tooManyAttempts _ => true
  | .internal _ => false

def Answer.isTold : Answer → Bool
  | .ok _ => false
  | .error e => e.isTold

/-- An update that finds no row changes nothing. -/
theorem Update.apply_of_none {s : Update} {now : Instant} {doc : Document}
    (none : (s.apply now [] doc).1.changes = 0) : (s.apply now [] doc).2 = doc := by
  unfold apply at none ⊢
  dsimp only at none ⊢
  split
  · next has =>
    rw [if_pos has, List.countP_eq_zero] at none
    have same : ((doc.table s.table).map fun row =>
        if Test.allHold (s.bound now []).2 row then assign (s.bound now []).1 row else row) =
        doc.table s.table := by
      refine (List.map_congr_left fun row mem => ?_).trans (List.map_id _)
      exact if_neg (none row mem)
    rw [same]
    obtain ⟨rows, stored⟩ := Dict.contains_eq_true.mp has
    unfold Document.setTable Document.table
    rw [stored, Option.getD_some, Dict.insert_of_get? stored]
  · rfl

/-- The medium gives back the document in memory. -/
def Store.Reopens {m : Type} [Medium m] (s : Store m) : Prop :=
  openFrom s.medium = (.ok s.document, s.medium)

namespace Office

variable {ε m α β : Type} [Medium m] {o o' : Office m}

/-- Nothing that is stored has changed. -/
structure Intact (o o' : Office m) : Prop where
  document : o'.store.document = o.store.document
  reopens : o.store.Reopens → o'.store.Reopens

theorem Intact.refl (o : Office m) : Intact o o := ⟨rfl, id⟩

/-! ## Failing within -/

/-- Work whose errors are internal. -/
def Untold (act : Service m α) : Prop :=
  ∀ o, Ends act o (fun _ _ => True) fun e _ => e.isTold = false

namespace Untold

section

omit [Medium m]

theorem pure (a : α) : Untold (pure a : Service m α) := fun _ => ends_pure.mpr trivial

theorem storage (work : Work m α) : Untold (storage work) :=
  fun o => ends_storage.mpr ((ends_trivial work o).mono (fun _ _ => id) fun _ _ _ => rfl)

theorem bind {act : Service m β} {f : β → Service m α} (h : Untold act)
    (next : ∀ b, Untold (f b)) : Untold (act >>= f) :=
  fun o => ends_bind.mpr ((h o).mono (fun b o' _ => next b o') fun _ _ => id)

end

theorem record {action : Action} {entityType : String} {entityId : Option Int}
    {entityUuid : Option String} {caller : Caller} {details : Option Json} :
    Untold (Log.record action entityType entityId entityUuid caller details : Service m Unit) :=
  fun _ => Ends.record (fun _ => trivial) fun _ => trivial

end Untold

/-! ## Refusing -/

/-- Work that does nothing if it tells its caller what is wrong. -/
def Refuses (act : Service m α) : Prop :=
  ∀ o, Ends act o (fun _ _ => True) fun e o' => e.isTold = true → Intact o o'

theorem Looks.refuses {act : Service m α} (h : Looks act) : Refuses act :=
  fun o => (h o).mono (fun _ _ _ => trivial) fun _ _ same _ => same ▸ Intact.refl o

theorem Untold.refuses {act : Service m α} (h : Untold act) : Refuses act := by
  refine fun o => (h o).mono (fun _ _ => id) fun e _ untold told => ?_
  rw [untold] at told
  cases told

/-- What is done after a look, the look has left the office for as it was. -/
theorem Looks.then {act : Service m β} {f : β → Service m α} (h : Looks act)
    (next : ∀ b, Refuses (f b)) : Refuses (act >>= f) := by
  intro o
  refine ends_bind.mpr ((h o).mono ?_ ?_)
  · rintro b o' rfl
    exact next b o'
  · rintro e o' rfl _
    exact Intact.refl o'

namespace Refuses

variable {offerPrefix : String}

theorem discard {act : Service m α} (h : Refuses act) :
    Refuses (do let _ ← act : Service m Unit) :=
  fun o => ends_bind.mpr ((h o).mono (fun _ _ _ => ends_pure.mpr trivial) fun _ _ => id)

theorem createCalculation (input : CalculationInput) (caller : Caller) :
    Refuses (Calculations.create offerPrefix input caller : Service m SavedVersion) := by
  refine (Looks.lift _).then fun kunde => Untold.refuses ?_
  refine (Untold.storage _).bind fun uuid => (Untold.storage _).bind fun number => ?_
  exact (Untold.storage _).bind fun saved => Untold.record.bind fun _ => .pure _

theorem updateCalculation (id : Int) (input : CalculationInput) (caller : Caller) :
    Refuses (Calculations.update offerPrefix id input caller : Service m SavedVersion) := by
  -- From the look for the head on, only the store can fail.
  refine (Looks.lift _).then fun kunde => (Looks.calculations_require id).then fun edited => ?_
  refine Untold.refuses ((Untold.storage _).bind fun head => ?_)
  refine (Untold.storage _).bind fun number => ?_
  refine (Untold.storage _).bind fun retired => (Untold.storage _).bind fun saved => ?_
  exact Untold.record.bind fun _ => .pure _

theorem deleteCalculation (id : Int) (caller : Caller) :
    Refuses (Calculations.delete id caller : Service m Unit) := by
  refine (Looks.calculations_require id).then fun c => Untold.refuses ?_
  refine (Untold.storage _).bind fun n => ?_
  split
  · exact .record
  · exact .pure ()

theorem getCalculation (id : Int) :
    Refuses (Calculations.get offerPrefix id : Service m CalculationDetail) :=
  (Looks.calculations_require id).then fun _ => (Untold.storage _).refuses

theorem latestCalculation (uuid : String) :
    Refuses (Calculations.latest offerPrefix uuid : Service m CalculationDetail) := by
  refine (Looks.selectFirst _ _).storage.then fun found => ?_
  cases found with
  | none => exact (Looks.throw _).refuses
  | some c => exact (Untold.storage _).refuses

theorem createOffer (input : OfferInput) (caller : Caller) :
    Refuses (Offers.create offerPrefix input caller : Service m SavedOffer) := by
  refine (Looks.lift _).then fun _ => Untold.refuses ?_
  refine (Untold.storage _).bind fun uuid => (Untold.storage _).bind fun number => ?_
  exact (Untold.storage _).bind fun saved => Untold.record.bind fun _ => .pure _

theorem getOffer (id : Int) : Refuses (Offers.get offerPrefix id : Service m OfferDetail) :=
  (Looks.offers_require id).then fun _ => (Untold.storage _).refuses

theorem deleteOffer (id : Int) (caller : Caller) :
    Refuses (Offers.delete id caller : Service m Unit) := by
  refine (Looks.offers_require id).then fun o => Untold.refuses ?_
  refine (Untold.storage _).bind fun n => ?_
  split
  · exact .record
  · exact .pure ()

theorem sendOffer (letterhead : Letterhead) (mailer : Offers.Mailer) (id : Int)
    (request : SendRequest) (caller : Caller) :
    Refuses (Offers.send letterhead mailer id request caller : Service m String) := by
  refine (Looks.offers_require id).then fun o => (Looks.lift _).then fun mail => ?_
  exact ((Untold.storage _).bind fun _ => Untold.record.bind fun _ => .pure _).refuses

theorem changePassword (cost : Nat) (caller : Caller) (current new : String) :
    Refuses (Accounts.changePassword cost caller current new : Service m Unit) := by
  unfold Accounts.changePassword
  dsimp only
  split
  · exact (Looks.throw_bind _ _).refuses
  · refine (Looks.selectFirst _ _).storage.then fun found => ?_
    cases found with
    | none => exact (Looks.throw _).refuses
    | some a =>
      refine (Looks.passwordMatches a current).storage.then fun right => ?_
      split
      · refine Untold.refuses ((Untold.storage _).bind fun hashed => ?_)
        exact (Untold.storage _).bind fun _ => .pure _
      · exact (Looks.throw _).refuses

theorem adminLogs (caller : Caller) (limit offset : Option Nat) :
    Refuses (Admin.logs caller limit offset : Service m ActivityPage) :=
  (Looks.lift _).then fun _ => (Untold.storage _).refuses

theorem exportAll (caller : Caller) : Refuses (Admin.exportAll caller : Service m Export) := by
  refine (Looks.lift _).then fun _ => Untold.refuses ?_
  refine (Untold.storage _).bind fun calculations => (Untold.storage _).bind fun offers => ?_
  refine (Untold.storage _).bind fun logs => Untold.record.bind fun _ => ?_
  exact fun _ => ends_bind.mpr (ends_get.mpr (ends_pure.mpr trivial))

variable [LawfulMedium m]

/-- An update may be saved before it turns out that there is nothing to change. -/
theorem update_intact (s : Update) (o : Office m) :
    Ends (Office.update s) o (fun n o' => n = 0 → Intact o o') fun _ _ => True := by
  refine ends_bind.mpr (Ends.commit_of_save (fun medium saved => ?_) fun _ _ _ => trivial)
  refine ends_pure.mpr fun none => ?_
  have same := Update.apply_of_none none
  rw [same] at saved ⊢
  refine ⟨rfl, fun found => ?_⟩
  -- What was saved is the document as it was, which already had all its tables.
  have settled := Store.Settled.of_openFrom found
  exact Store.Settled.openFrom_eq (s := ⟨o.store.document, medium⟩)
    ⟨settled.known, _, LawfulMedium.load_of_save_ok saved, settled.known.ensureKnown⟩

theorem renameCalculations (uuid title : String) :
    Refuses (Calculations.rename uuid title : Service m Nat) := by
  unfold Calculations.rename
  dsimp only
  split
  · exact (Looks.throw_bind _ _).refuses
  · intro o
    refine ends_bind.mpr (ends_storage.mpr ((update_intact _ o).mono ?_ ?_))
    · intro n o' intact
      split
      · next none => exact ends_bind.mpr (ends_throw.mpr fun _ => intact none)
      · exact ends_pure.mpr trivial
    · exact fun _ _ _ told => Bool.noConfusion told

theorem work (call : Call) : Refuses (call.work offerPrefix : Service m Unit) := by
  cases call with
  | createCalculation input caller => exact (createCalculation input caller).discard
  | updateCalculation id input caller => exact (updateCalculation id input caller).discard
  | deleteCalculation id caller => exact deleteCalculation id caller
  | renameCalculations uuid title => exact (renameCalculations uuid title).discard
  | getCalculation id => exact (getCalculation id).discard
  | latestCalculation uuid => exact (latestCalculation uuid).discard
  | listCalculations => exact (Untold.storage _).refuses.discard
  | versions idOrUuid => exact (Looks.versions idOrUuid).refuses.discard
  | createOffer input caller => exact (createOffer input caller).discard
  | getOffer id => exact (getOffer id).discard
  | listOffers => exact (Untold.storage _).refuses.discard
  | deleteOffer id caller => exact deleteOffer id caller
  | sendOffer letterhead mailer id request caller =>
    exact (sendOffer letterhead mailer id request caller).discard
  | allocate year version => exact (Untold.storage _).refuses.discard
  | seedAdmin cost email name password => exact (Untold.storage _).refuses.discard
  | findActive id => exact (Untold.storage _).refuses.discard
  | firstActiveAdmin => exact (Untold.storage _).refuses.discard
  | changePassword cost caller current new => exact changePassword cost caller current new
  | record => exact Untold.record.refuses
  | logPage limit offset => exact (Untold.storage _).refuses.discard
  | logAll => exact (Untold.storage _).refuses.discard
  | enter gate caller password => exact (Untold.storage _).refuses.discard
  | adminLogs caller limit offset => exact (adminLogs caller limit offset).discard
  | exportAll caller => exact (exportAll caller).discard

end Refuses

end Office

/-! ## Mails -/

namespace Offers

open Office

variable {m : Type} [Medium m] {o o' : Office m} {letterhead : Letterhead} {mailer : Mailer}
  {id : Int} {request : SendRequest} {caller : Caller} {offer : Offer} {e : ServiceError}

theorem send_of_absent (absent : (require id).run.run o = (.error e, o')) :
    (send letterhead mailer id request caller).run.run o = (.error e, o') := run_bind_error absent

theorem send_of_mail_error (found : (require id).run.run o = (.ok offer, o'))
    (failed : mail letterhead mailer request offer = .error e) :
    (send letterhead mailer id request caller).run.run o = (.error e, o') := by
  refine (run_bind_ok found).trans (run_bind_error ?_)
  rw [failed]
  rfl

theorem mail_of_compose_error (composed : Mail.compose letterhead offer request = .error e) :
    mail letterhead mailer request offer = .error e := by
  unfold mail
  rw [composed]
  rfl

theorem mail_eq (mailer : Mailer) {letter : Mail}
    (composed : Mail.compose letterhead offer request = .ok letter) :
    mail letterhead mailer request offer =
      ((mailer letter).mapError .internal).map fun _ => letter := by
  simp only [mail, composed, bind, Except.bind]
  cases mailer letter <;> rfl

/-- Once a mail is delivered, its sender is told of nothing. -/
theorem send_of_delivered (found : (require id).run.run o = (.ok offer, o')) {letter : Mail}
    (delivered : mail letterhead mailer request offer = .ok letter) :
    Ends (send letterhead mailer id request caller) o (fun _ _ => True)
      fun e _ => e.isTold = false := by
  refine ends_bind.mpr (.of_run found (ends_bind.mpr (ends_lift.mpr ?_)))
  rw [delivered]
  exact (Untold.storage _).bind (fun _ => Untold.record.bind fun _ => .pure _) o'

/-- Without a mail to deliver the mailer is not called: any other would do. -/
theorem send_of_told (told : e.isTold = true)
    (refused : (send letterhead mailer id request caller).run.run o = (.error e, o'))
    (other : Mailer) : (send letterhead other id request caller).run.run o = (.error e, o') := by
  rcases found : (require id).run.run o with ⟨e₁ | offer, o₁⟩
  · rw [send_of_absent found] at refused ⊢
    exact refused
  · cases composed : Mail.compose letterhead offer request with
    | error e₁ =>
      rw [send_of_mail_error found (mail_of_compose_error composed)] at refused ⊢
      exact refused
    | ok letter =>
      have mailed := mail_eq mailer composed
      cases delivered : mailer letter with
      | error cause =>
        rw [delivered] at mailed
        rw [send_of_mail_error found mailed] at refused
        cases refused
        cases told
      | ok _ =>
        rw [delivered] at mailed
        rw [(send_of_delivered found mailed).of_error refused] at told
        cases told

end Offers

/-! ## Answers -/

variable {m : Type} [Medium m] {offerPrefix : String}

/-- What a caller is answered, and the office then. An attempt at the admin area is answered by
    the gate. -/
def Call.answer (offerPrefix : String) (o : Office m) :
    Call → Answer × Office m
  | .enter gate caller password =>
    match (gate.enter caller password).run.run o with
    | (.ok (answer, _), o') => (answer, o')
    | (.error e, o') => (.error (.internal e), o')
  | call => (call.work offerPrefix).run.run o

theorem Call.answer_eq_work {o : Office m} {call : Call}
    (noAttempt : ∀ gate caller password, call ≠ .enter gate caller password) :
    call.answer offerPrefix o = (call.work offerPrefix).run.run o := by
  cases call with
  | enter gate caller password => exact absurd rfl (noAttempt gate caller password)
  | _ => rfl

theorem Call.answer_enter (offerPrefix : String) (o : Office m) (gate : Gate) (caller : Caller)
    (password : String) :
    ∃ o', (Call.enter gate caller password).answer offerPrefix o =
        ((gate.verify caller.id password (.ofInstant o.now)).1, o') ∧
      ((gate.verify caller.id password (.ofInstant o.now)).1.isOk = false → o' = o) := by
  obtain ⟨entered, o', run, verdict, kept⟩ := (gate.enter_ends caller password o).exists_ok
  subst verdict
  refine ⟨o', ?_, kept⟩
  unfold answer
  dsimp only
  rw [run]

namespace Office

variable [LawfulMedium m] {α : Type} {o o' : Office m}

theorem intact_of_told {call : Call} {e : ServiceError} (told : e.isTold = true)
    (answered : call.answer offerPrefix o = (.error e, o')) : Intact o o' := by
  by_cases attempt : ∃ gate caller password, call = .enter gate caller password
  · obtain ⟨gate, caller, password, rfl⟩ := attempt
    obtain ⟨after, verdict, kept⟩ := Call.answer_enter offerPrefix o gate caller
      password
    rw [verdict] at answered
    obtain ⟨wrong, rfl⟩ := Prod.mk.inj answered
    rw [kept (by rw [wrong]; rfl)]
    exact Intact.refl o
  · rw [Call.answer_eq_work fun gate caller password h =>
      attempt ⟨gate, caller, password, h⟩] at answered
    exact (Refuses.work call o).of_error answered told

omit [Medium m] [LawfulMedium m] in
theorem run_discard_error {act : Service m α} {e : ServiceError} :
    (do let _ ← act : Service m Unit).run.run o = (.error e, o') ↔
      act.run.run o = (.error e, o') := by
  rcases run : act.run.run o with ⟨e₁ | a, o₁⟩
  · rw [run_bind_error run, Prod.mk.injEq, Prod.mk.injEq, Except.error.injEq, Except.error.injEq]
  · rw [run_bind_ok run]
    exact ⟨nofun, nofun⟩

/-- A caller who is told what is wrong — that something is not found or not valid, a wrong
    password, a missing right or a lock-out — has changed nothing: the document in memory is the
    same, and the medium gives it back if it did so before. In particular no number, id or entry
    of the log is used up. A mail has not been handed to the mailer then, so that any other mailer
    would have led to the same; and when the mailer fails, nothing is changed either. -/
theorem refusals_change_nothing (offerPrefix : String) (o : Office m) :
    (∀ (call : Call) e o', call.answer offerPrefix o = (.error e, o') → e.isTold = true →
      Intact o o') ∧
    ∀ letterhead mailer id request caller,
      (∀ e o', (Call.sendOffer letterhead mailer id request caller).answer offerPrefix o =
          (.error e, o') → e.isTold = true →
        ∀ other, (Call.sendOffer letterhead other id request caller).answer offerPrefix o =
          (.error e, o')) ∧
      ∀ offer o' letter cause, (Offers.require id).run.run o = (.ok offer, o') →
        Mail.compose letterhead offer request = .ok letter → mailer letter = .error cause →
        (Call.sendOffer letterhead mailer id request caller).answer offerPrefix o =
          (.error (.internal cause), o) := by
  refine ⟨fun call e o' answered told => intact_of_told told answered, ?_⟩
  intro letterhead mailer id request caller
  have discarded {other : Offers.Mailer} {e : ServiceError} {o' : Office m} :
      (Call.sendOffer letterhead other id request caller).answer offerPrefix o = (.error e, o') ↔
        (Offers.send letterhead other id request caller).run.run o = (.error e, o') :=
    run_discard_error
  refine ⟨fun e o' refused told other => ?_, fun offer o' letter cause found composed failed => ?_⟩
  · exact discarded.mpr (Offers.send_of_told told (discarded.mp refused) other)
  · have same := (Looks.offers_require id o).of_ok found
    subst same
    have mailed := Offers.mail_eq mailer composed
    rw [failed] at mailed
    exact discarded.mpr (Offers.send_of_mail_error found mailed)

/-- An office in which nothing is stored, and a medium that holds this. -/
def empty : Office ReadableMemory :=
  opened ⟨{ stored := some Document.fresh, unreadable := false, allowance := none, saves := 1 },
    rfl⟩ 0

/-- A chain that does not exist is renamed. The document is saved before this turns out. -/
theorem refused_rename_changes_nothing :
    empty.store.Reopens ∧ ∃ e o', (Call.renameCalculations "none" "Archive").answer "FHD" empty =
      (.error e, o') ∧ e.isTold = true ∧ o'.store.document = Document.fresh ∧
        o'.store.Reopens := by
  have reopens : empty.store.Reopens := by
    have known := Document.isKnown_ensureKnown Document.blank
    exact Store.Settled.openFrom_eq (s := empty.store) ⟨known, _, rfl, known.ensureKnown⟩
  have refused : Answer.isTold
      ((Call.renameCalculations "none" "Archive").answer "FHD" empty).1 = true := by
    decide +kernel
  rcases answered : (Call.renameCalculations "none" "Archive").answer "FHD" empty with ⟨e | _, o'⟩
  · have told : e.isTold = true := by rwa [answered] at refused
    have intact := (refusals_change_nothing "FHD" empty).1 _ _ _ answered told
    exact ⟨reopens, e, o', rfl, told, intact.document, intact.reopens reopens⟩
  · rw [answered] at refused
    cases refused

end Office

end OfferBook
