import OfferBook.Proofs.Office.Books

/-! # Entries of the log are few

* `Office.Notes` — work that adds at most one entry to the log, with one rule for each way in which
  work that spares the log and work that adds entries are composed.
* `Office.spares_storeCalculation`, `Office.spares_nextNumber`, … — parts of services that spare it.
* `Office.serveAll_notes` — a request adds at most one entry, wherever it is cut short.
-/

namespace OfferBook.Office

variable {ε m α β : Type}

/-- Work that adds at most one entry to the log. -/
def Notes (act : OfficeM ε m α) : Prop :=
  ∀ o, Ends act o (fun _ o' => o'.log.length ≤ o.log.length + 1)
    fun _ o' => o'.log.length ≤ o.log.length + 1

/-- Work that leaves the log alone. -/
abbrev SparesLog (act : OfficeM ε m α) : Prop := Makes (Change.Spares Log.table) act

theorem Made.log {o o' : Office m} (h : Made (Change.Spares Log.table) o o') : o'.log = o.log :=
  h.table

namespace Notes

theorem of_spares {act : OfficeM ε m α} (h : SparesLog act) : Notes act :=
  fun o => (h o).mono (fun _ _ made => made.log ▸ Nat.le_succ _) fun _ _ made =>
    made.log ▸ Nat.le_succ _

theorem after {act : OfficeM ε m β} {f : β → OfficeM ε m α} (h : SparesLog act)
    (next : ∀ b, Notes (f b)) : Notes (act >>= f) := by
  refine fun o => ends_bind.mpr ((h o).mono (fun b o' made => ?_) fun _ _ made => ?_)
  · rw [← made.log]
    exact next b o'
  · exact made.log ▸ Nat.le_succ _

theorem before {act : OfficeM ε m β} {f : β → OfficeM ε m α} (h : Notes act)
    (next : ∀ b, SparesLog (f b)) : Notes (act >>= f) := by
  refine fun o => ends_bind.mpr ((h o).mono (fun b o' few => ?_) fun _ _ => id)
  exact (next b o').mono (fun _ _ made => made.log ▸ few) fun _ _ made => made.log ▸ few

theorem storage {work : Work m α} (h : Notes work) : Notes (storage work) :=
  fun o => ends_storage.mpr (h o)

theorem discard {act : Service m α} (h : Notes act) :
    Notes (do let _ ← act : Service m Unit) := h.before fun _ => .pure ()

theorem record [Medium m] {action : Action} {entityType : String} {entityId : Option Int}
    {entityUuid : Option String} {caller : Caller} {details : Option Json} :
    Notes (Log.record action entityType entityId entityUuid caller details :
      OfficeM ε m Unit) := by
  intro o
  refine Ends.record (fun medium => ?_) fun medium => Nat.le_succ _
  have added := @Change.table_insert o.now o.store.document
    (Log.entry action entityType entityId entityUuid caller details) Log.table
  have length := congrArg List.length (added.trans (if_pos rfl))
  rw [List.length_append, List.length_singleton] at length
  exact Nat.le_of_eq length

end Notes

/-! ## Parts of services -/

theorem spares_of_performs {act : OfficeM ε m α} {changes : Office m → List Change}
    {R : Office m → α → Prop} (h : ∀ o, Performs act o (changes o) (R o))
    (spares : ∀ o, ∀ c ∈ changes o, c.Spares Log.table) : SparesLog act := by
  refine fun o => (h o).mono ?_ ?_
  · rintro a o' ⟨-, reached⟩
    exact ⟨_, spares o, reached⟩
  · rintro e o' ⟨done, part, reached⟩
    exact ⟨done, fun c hc => spares o c (part.subset hc), reached⟩

section Parts

variable [Medium m] {offerPrefix : String}

theorem spares_storeCalculation {uuid : String} {version : Int} {kunde : String}
    {createdBy : Option String} {input : CalculationInput} {number : OfferNumber}
    {parent : Option Int} :
    SparesLog (Calculations.store uuid version kunde createdBy input number parent :
      Work m SavedVersion) := by
  refine spares_of_performs (fun o => Calculations.store_performs ..) fun o => ?_
  exact List.forall_mem_cons.mpr ⟨calculations_ne_log, fun _ => LineItems.spares_log⟩

theorem spares_storeOffer {uuid : String} {input : OfferInput} {caller : Caller}
    {number : OfferNumber} :
    SparesLog (Offers.store uuid input caller number : Work m Int) := by
  refine spares_of_performs (fun o => Offers.store_performs ..) fun o => ?_
  exact List.forall_mem_cons.mpr ⟨offers_ne_log, fun _ => LineItems.spares_log⟩

theorem spares_nextNumber (head : Calculation) (version : Int) :
    SparesLog (Calculations.nextNumber offerPrefix head version : Work m OfferNumber) := by
  unfold Calculations.nextNumber
  split
  · exact .pure _
  · exact Makes.allocate (fun _ => counters_ne_log) _

theorem spares_rename (uuid title : String) :
    SparesLog (Calculations.rename uuid title : Service m Nat) := by
  unfold Calculations.rename
  dsimp only
  split
  · exact (Looks.throw_bind _ _).makes _
  · refine (Makes.update calculations_ne_log).storage.bind fun n => ?_
    split
    · exact (Looks.throw_bind _ _).makes _
    · exact .pure _

theorem spares_seedAdmin (cost : Nat) (email name password : String) :
    SparesLog (Accounts.seedAdmin cost email name password : Work m (Option String)) := by
  refine ((Looks.select _).makes _).bind fun existing => ?_
  split
  · refine Makes.freshUuid.bind fun id => (Makes.hash cost password).bind fun hashed => ?_
    exact (Makes.insert accounts_ne_log).bind fun _ => .pure _
  · exact .pure none

theorem spares_changePassword (cost : Nat) (caller : Caller) (current new : String) :
    SparesLog (Accounts.changePassword cost caller current new : Service m Unit) := by
  unfold Accounts.changePassword
  dsimp only
  split
  · exact (Looks.throw_bind _ _).makes _
  · refine ((Looks.selectFirst _ _).makes _).storage.bind fun found => ?_
    cases found with
    | none => exact (Looks.throw _).makes _
    | some a =>
      refine ((Looks.passwordMatches a current).makes _).storage.bind fun right => ?_
      split
      · refine (Makes.hash cost new).storage.bind fun hashed => ?_
        exact (Makes.update accounts_ne_log).storage.bind fun _ => .pure _
      · exact (Looks.throw _).makes _

end Parts

/-! ## Services -/

namespace Notes

variable [Medium m] {offerPrefix : String}

theorem createCalculation (input : CalculationInput) (caller : Caller) :
    Notes (Calculations.create offerPrefix input caller : Service m SavedVersion) := by
  refine after ((Looks.lift _).makes _) fun kunde => ?_
  refine after Makes.freshUuid.storage fun uuid =>
    after (Makes.allocate (fun _ => counters_ne_log) _).storage fun number => ?_
  exact after spares_storeCalculation.storage fun saved => record.before fun _ => .pure _

theorem updateCalculation (id : Int) (input : CalculationInput) (caller : Caller) :
    Notes (Calculations.update offerPrefix id input caller : Service m SavedVersion) := by
  refine after ((Looks.lift _).makes _) fun kunde => ?_
  refine after ((Looks.calculations_require _).makes _) fun edited => ?_
  refine after ((Looks.selectFirst _ _).makes _).storage fun head => ?_
  refine after (spares_nextNumber _ _).storage fun number => ?_
  refine after (Makes.update calculations_ne_log).storage fun _ => ?_
  exact after spares_storeCalculation.storage fun saved => record.before fun _ => .pure _

theorem deleteCalculation (id : Int) (caller : Caller) :
    Notes (Calculations.delete id caller : Service m Unit) := by
  refine after ((Looks.calculations_require id).makes _) fun c => ?_
  refine after (Makes.update calculations_ne_log).storage fun n => ?_
  split
  · exact record
  · exact of_spares (.pure ())

theorem createOffer (input : OfferInput) (caller : Caller) :
    Notes (Offers.create offerPrefix input caller : Service m SavedOffer) := by
  refine after ((Looks.lift _).makes _) fun _ => ?_
  refine after Makes.freshUuid.storage fun uuid =>
    after (Makes.allocate (fun _ => counters_ne_log) _).storage fun number => ?_
  exact after spares_storeOffer.storage fun id => record.before fun _ => .pure _

theorem deleteOffer (id : Int) (caller : Caller) :
    Notes (Offers.delete id caller : Service m Unit) := by
  refine after ((Looks.offers_require id).makes _) fun offer => ?_
  refine after (Makes.update offers_ne_log).storage fun n => ?_
  split
  · exact record
  · exact of_spares (.pure ())

theorem sendOffer (letterhead : Letterhead) (mailer : Offers.Mailer) (id : Int)
    (request : SendRequest) (caller : Caller) :
    Notes (Offers.send letterhead mailer id request caller : Service m String) := by
  refine after ((Looks.offers_require id).makes _) fun offer => ?_
  refine after ((Looks.lift _).makes _) fun mail => ?_
  exact after (Makes.update offers_ne_log).storage fun _ => record.before fun _ => .pure _

theorem enter (gate : Gate) (caller : Caller) (password : String) :
    Notes (gate.enter caller password : Work m (Except ServiceError Unit × Gate)) := by
  refine after (Looks.get.makes _) fun o => ?_
  dsimp only
  split
  · exact record.before fun _ => .pure _
  · exact of_spares (.pure _)

theorem exportAll (caller : Caller) : Notes (Admin.exportAll caller : Service m Export) := by
  refine after ((Looks.lift _).makes _) fun _ => ?_
  refine after ((Looks.exportTable _ _ _ _ _).storage.makes _) fun calculations => ?_
  refine after ((Looks.exportTable _ _ _ _ _).storage.makes _) fun offers => ?_
  refine after ((Looks.selectAll _ _).storage.makes _) fun logs => ?_
  exact record.before fun _ => (Looks.get.makes _).bind fun _ => .pure _

end Notes

/-! ## Requests -/

section Requests

variable {o : Office m}

/-- What only looks leaves the log as it is. -/
theorem notes_of_looks {act : Service m α}
    (h : Ends act o (fun _ o' => o' = o) fun _ o' => o' = o) :
    Ends (do let _ ← act : Service m Unit) o
      (fun _ o' => o'.log.length ≤ o.log.length + 1) fun _ o' =>
        o'.log.length ≤ o.log.length + 1 :=
  ends_discard (h.mono (fun _ _ same => same ▸ Nat.le_succ _) fun _ _ same =>
    same ▸ Nat.le_succ _)

variable [Medium m] {offerPrefix : String}

theorem work_notes (h : o.Sound) (call : Call) :
    Ends (call.work offerPrefix) o (fun _ o' => o'.log.length ≤ o.log.length + 1)
      fun _ o' => o'.log.length ≤ o.log.length + 1 := by
  cases call with
  | createCalculation input caller => exact (Notes.createCalculation input caller).discard o
  | updateCalculation id input caller => exact (Notes.updateCalculation id input caller).discard o
  | deleteCalculation id caller => exact Notes.deleteCalculation id caller o
  | renameCalculations uuid title => exact (Notes.of_spares (spares_rename uuid title)).discard o
  | getCalculation id => exact notes_of_looks (Calculations.get_looks h id)
  | latestCalculation uuid => exact notes_of_looks (Calculations.latest_looks h uuid)
  | listCalculations => exact notes_of_looks (Looks.calculations_list o)
  | versions idOrUuid => exact notes_of_looks (Looks.versions idOrUuid o)
  | createOffer input caller => exact (Notes.createOffer input caller).discard o
  | getOffer id => exact notes_of_looks (Offers.get_looks h id)
  | listOffers => exact notes_of_looks (Looks.offers_list o)
  | deleteOffer id caller => exact Notes.deleteOffer id caller o
  | sendOffer letterhead mailer id request caller =>
    exact (Notes.sendOffer letterhead mailer id request caller).discard o
  | allocate year version =>
    have spares : SparesLog (allocateForYear offerPrefix year version : Work m OfferNumber) :=
      Makes.allocateForYear (fun _ => counters_ne_log) year version
    exact (Notes.of_spares spares).storage.discard o
  | seedAdmin cost email name password =>
    exact (Notes.of_spares (spares_seedAdmin cost email name password)).storage.discard o
  | findActive id => exact notes_of_looks (((Looks.find _).bind fun _ => .pure _).storage o)
  | firstActiveAdmin => exact notes_of_looks (((Looks.find _).bind fun _ => .pure _).storage o)
  | changePassword cost caller current new =>
    exact Notes.of_spares (spares_changePassword cost caller current new) o
  | record => exact Notes.record o
  | logPage limit offset => exact notes_of_looks ((Looks.logPage limit offset).storage o)
  | logAll => exact notes_of_looks ((Looks.selectAll _ _).storage o)
  | enter gate caller password => exact (Notes.enter gate caller password).storage.discard o
  | adminLogs caller limit offset => exact notes_of_looks (Looks.adminLogs caller limit offset o)
  | exportAll caller => exact (Notes.exportAll caller).discard o

theorem serveAll_notes (offerPrefix : String) (h : o.Sound) (rs : List Request) :
    (serveAll offerPrefix o rs).log.length ≤ o.log.length + rs.length := by
  induction rs generalizing o with
  | nil => exact Nat.le_refl _
  | cons r rest ih =>
    have first : (serve offerPrefix o r).log.length ≤ o.log.length + 1 :=
      Ends.snd (work_notes (h.setNow r.now) r.call)
    refine Nat.le_trans (ih (h.serve r)) ?_
    rw [List.length_cons]
    omega

end Requests

end OfferBook.Office
