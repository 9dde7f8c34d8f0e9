import OfferBook.Proofs.Office.Books
import OfferBook.Proofs.Office.Requests
import OfferBook.Proofs.Office.Twins

/-! # Entries that are dropped

An entry is the last thing that a service writes. Where it cannot be saved, the service answers as
it would have, and all else that it wrote stays.

* `Office.InStep.storeCalculation`, `Office.InStep.exportTable`, … — parts of services, and the
  services.
* `Office.Undisturbed` — work to which it makes no difference whether its entry is saved.
* `Log.dropped_entry_disturbs_nothing` — every service that records an entry is of this kind.
-/

namespace OfferBook

open Office

/-- An attempt at an instant. -/
def Gate.attempt {m : Type} [Medium m] (g : Gate) (caller : Caller) (password : String)
    (now : Instant) : Work m (Except ServiceError Unit × Gate) := do
  let (result, g) := g.verify caller.id password (.ofInstant now)
  if result.isOk then Log.record .adminAccess "admin_panel" none none caller none
  return (result, g)

theorem Gate.enter_eq {m : Type} [Medium m] (g : Gate) (caller : Caller) (password : String) :
    (g.enter caller password : Work m (Except ServiceError Unit × Gate)) =
      get >>= fun o => g.attempt caller password o.now := rfl

namespace Office.InStep

variable {m m' α β : Type} {P : m → Prop} {P' : m' → Prop} {start : Document}

/-! ## Looking -/

theorem calculations_require (id : Int) :
    InStep P P' (Twins start) (Twins start) (Calculations.require id : Service m Calculation)
      (Calculations.require id) := by
  refine (selectFirst _ _).storage.bind fun found => ?_
  cases found with
  | none => exact throw _
  | some c => exact pure c

theorem offers_require (id : Int) :
    InStep P P' (Twins start) (Twins start) (Offers.require id : Service m Offer)
      (Offers.require id) := by
  refine (selectFirst _ _).storage.bind fun found => ?_
  cases found with
  | none => exact throw _
  | some o => exact pure o

theorem children (ofRecord? : Record → Option α) (table column : String) :
    InStep P P' (Twins start) (Twins start)
      (Admin.children ofRecord? table column : Work m (Admin.Owned α))
      (Admin.children ofRecord? table column) := by
  refine (select _).bind fun rows => mapM (fun owned => ?_) _
  exact (read ofRecord? _).bind fun a => pure _

theorem exportTable (ofRecord? : Record → Option α) (idOf : α → Int) (table shortName : String)
    (owner : Owner) :
    InStep P P' (Twins start) (Twins start)
      (Admin.exportTable ofRecord? idOf table shortName owner : Work m (List (Exported α)))
      (Admin.exportTable ofRecord? idOf table shortName owner) := by
  refine (children _ _ _).bind fun garments => (children _ _ _).bind fun sheets =>
    (select _).bind fun rows => ?_
  cases Admin.exportRows ofRecord? idOf garments sheets rows with
  | none => exact throw _
  | some exported => exact pure exported

/-! ## Storing -/

variable [Medium m] [Medium m'] (vouches : Medium.Vouches P) (mutes : Medium.Mutes start P')
include vouches mutes

theorem insertItemsFrom (owner : Owner) (place : Nat) (items : List GarmentItemInput) :
    InStep P P' (Twins start) (Twins start)
      (LineItems.insertItemsFrom owner place items : Work m Unit)
      (LineItems.insertItemsFrom owner place items) := by
  induction items generalizing place with
  | nil => exact pure ()
  | cons item rest ih =>
    refine (insert vouches mutes ?_).bind fun _ => ih (place + 1)
    cases owner <;> exact of_decide_eq_true rfl

theorem insertSheets (owner : Owner) (kind : SheetKind) (items : List GarmentItemInput)
    (warehousing : Option WarehousingInput) :
    InStep P P' (Twins start) (Twins start)
      (LineItems.insertSheets owner kind items warehousing : Work m Unit)
      (LineItems.insertSheets owner kind items warehousing) := by
  match kind, warehousing with
  | .garment, _ => exact insertItemsFrom vouches mutes owner 0 items
  | .warehousing, some w =>
    refine (insert vouches mutes ?_).bind fun _ => pure _
    cases owner <;> exact of_decide_eq_true rfl
  | .warehousing, none => exact pure _

theorem storeCalculation (uuid : String) (version : Int) (kunde : String)
    (createdBy : Option String) (input : CalculationInput) (number : OfferNumber)
    (parent : Option Int) :
    InStep P P' (Twins start) (Twins start)
      (Calculations.store uuid version kunde createdBy input number parent :
        Work m SavedVersion)
      (Calculations.store uuid version kunde createdBy input number parent) :=
  (insertNumbered vouches mutes calculations_ne_log).bind fun _ =>
    (insertSheets vouches mutes _ _ _ _).bind fun _ => pure _

theorem storeOffer (uuid : String) (input : OfferInput) (caller : Caller) (number : OfferNumber) :
    InStep P P' (Twins start) (Twins start)
      (Offers.store uuid input caller number : Work m Int)
      (Offers.store uuid input caller number) :=
  (insertNumbered vouches mutes offers_ne_log).bind fun _ =>
    (insertSheets vouches mutes _ _ _ _).bind fun _ => pure _

theorem nextNumber (offerPrefix : String) (head : Calculation) (version : Int) :
    InStep P P' (Twins start) (Twins start)
      (Calculations.nextNumber offerPrefix head version : Work m OfferNumber)
      (Calculations.nextNumber offerPrefix head version) := by
  unfold Calculations.nextNumber
  split
  · exact pure _
  · exact allocate vouches mutes _ _

/-! ## Services -/

theorem createCalculation (offerPrefix : String) (input : CalculationInput) (caller : Caller) :
    InStep P P' (Twins start) (Parted start)
      (Calculations.create offerPrefix input caller : Service m SavedVersion)
      (Calculations.create offerPrefix input caller) := by
  refine (lift _).after fun kunde => freshUuid.storage.after fun uuid => ?_
  refine (allocate vouches mutes _ _).storage.after fun number => ?_
  refine (storeCalculation vouches mutes _ _ _ _ _ _ _).storage.after fun saved => ?_
  exact (record vouches mutes _ _ _ _ _ _).finish fun _ => pure saved

theorem updateCalculation (offerPrefix : String) (id : Int) (input : CalculationInput)
    (caller : Caller) :
    InStep P P' (Twins start) (Parted start)
      (Calculations.update offerPrefix id input caller : Service m SavedVersion)
      (Calculations.update offerPrefix id input caller) := by
  refine (lift _).after fun kunde => (calculations_require id).after fun edited => ?_
  refine (selectFirst _ _).storage.after fun head => ?_
  refine (nextNumber vouches mutes _ _ _).storage.after fun number => ?_
  refine (update vouches mutes calculations_ne_log).storage.after fun _ => ?_
  refine (storeCalculation vouches mutes _ _ _ _ _ _ _).storage.after fun saved => ?_
  exact (record vouches mutes _ _ _ _ _ _).finish fun _ => pure saved

/-- Deletions of calculations and offers are alike. -/
theorem deletes {require : Service m β} {require' : Service m' β} {t : String} (id : Int)
    {entry : β → Service m Unit} {entry' : β → Service m' Unit}
    (required : InStep P P' (Twins start) (Twins start) require require')
    (apart : t ≠ Log.table)
    (records : ∀ b, InStep P P' (Twins start) (Parted start) (entry b) (entry' b)) :
    InStep P P' (Twins start) (Parted start) (deletion require t id entry)
      (deletion require' t id entry') := by
  refine required.after fun found => (update vouches mutes apart).storage.after fun n => ?_
  split
  · exact records found
  · exact (pure ()).parted

theorem createOffer (offerPrefix : String) (input : OfferInput) (caller : Caller) :
    InStep P P' (Twins start) (Parted start)
      (Offers.create offerPrefix input caller : Service m SavedOffer)
      (Offers.create offerPrefix input caller) := by
  refine (lift _).after fun _ => freshUuid.storage.after fun uuid => ?_
  refine (allocate vouches mutes _ _).storage.after fun number => ?_
  refine (storeOffer vouches mutes _ _ _ _).storage.after fun id => ?_
  exact (record vouches mutes _ _ _ _ _ _).finish fun _ => pure _

theorem sendOffer (letterhead : Letterhead) (mailer : Offers.Mailer) (id : Int)
    (request : SendRequest) (caller : Caller) :
    InStep P P' (Twins start) (Parted start)
      (Offers.send letterhead mailer id request caller : Service m String)
      (Offers.send letterhead mailer id request caller) := by
  refine (offers_require id).after fun offer => (lift _).after fun mail => ?_
  refine (update vouches mutes offers_ne_log).storage.after fun _ => ?_
  exact (record vouches mutes _ _ _ _ _ _).finish fun _ => pure _

theorem exportAll (caller : Caller) :
    InStep P P' (Twins start) (Parted start) (Admin.exportAll caller : Service m Export)
      (Admin.exportAll caller) := by
  refine (lift _).after fun _ => (exportTable _ _ _ _ _).storage.after fun calculations => ?_
  refine (exportTable _ _ _ _ _).storage.after fun offers => ?_
  refine (selectAll _ _).storage.after fun logs => ?_
  refine (record vouches mutes _ _ _ _ _ _).finish fun _ => ?_
  exact return_now (fun _ _ => Parted.now) fun now =>
    (⟨now.timestamp, caller.name, calculations, offers, logs⟩ : Export)

theorem attempt (gate : Gate) (caller : Caller) (password : String) (now : Instant) :
    InStep P P' (Twins start) (Parted start)
      (gate.attempt caller password now : Work m (Except ServiceError Unit × Gate))
      (gate.attempt caller password now) := by
  unfold Gate.attempt
  dsimp only
  split
  · exact (record vouches mutes _ _ _ _ _ _).finish fun _ => pure _
  · exact (pure _).parted

end Office.InStep

/-! ## What is left behind -/

namespace Office

variable {m m' ε α : Type}

/-- The same office on another medium. -/
def movedTo (o : Office m) (medium : m') : Office m' :=
  ⟨⟨o.store.document, medium⟩, o.now, o.supply⟩

/-- Work that is done in an office where every save succeeds, and in the same office on a medium
    where the saves of entries fail, and no others. It has the same result or error in both and
    leaves the same document but for the log. The second one has the log from before. -/
def Undisturbed (P : m → Prop) (P' : m' → Prop) (o : Office m) (medium : m')
    (act : OfficeM ε m α) (act' : OfficeM ε m' α) : Prop :=
  ∀ result left result' left', act.run.run o = (result, left) →
    act'.run.run (o.movedTo medium) = (result', left') →
    P left.store.medium → P' left'.store.medium →
    result = result' ∧
      left.store.document.SameBut Log.table left'.store.document ∧
      left'.store.document.SameAt Log.table o.store.document

theorem InStep.undisturbed {P : m → Prop} {P' : m' → Prop} {o : Office m}
    {act : OfficeM ε m α} {act' : OfficeM ε m' α}
    (h : InStep P P' (Twins o.store.document) (Parted o.store.document) act act') (medium : m') :
    Undisturbed P P' o medium act act' := by
  intro result left result' left' run run' fine fine'
  obtain ⟨same, parted⟩ := h.ends o (o.movedTo medium) ⟨rfl, rfl, rfl, .refl _ _⟩
    (by rwa [run]) (by rwa [run'])
  rw [run, run'] at same parted
  exact ⟨same, parted.rest, parted.log⟩

end Office

namespace Log

variable {m m' : Type} [Medium m] [Medium m'] {P : m → Prop} {P' : m' → Prop}

/-- Whether the entry of what is done can be saved makes no difference to what is done. -/
theorem dropped_entry_disturbs_nothing (offerPrefix : String) (vouches : Medium.Vouches P)
    (o : Office m) (medium : m') (mutes : Medium.Mutes o.store.document P') (caller : Caller) :
    (∀ input, Undisturbed P P' o medium (Calculations.create offerPrefix input caller)
      (Calculations.create offerPrefix input caller)) ∧
    (∀ id input, Undisturbed P P' o medium (Calculations.update offerPrefix id input caller)
      (Calculations.update offerPrefix id input caller)) ∧
    (∀ id, Undisturbed P P' o medium (Calculations.delete id caller)
      (Calculations.delete id caller)) ∧
    (∀ input, Undisturbed P P' o medium (Offers.create offerPrefix input caller)
      (Offers.create offerPrefix input caller)) ∧
    (∀ id, Undisturbed P P' o medium (Offers.delete id caller) (Offers.delete id caller)) ∧
    (∀ letterhead mailer id request, Undisturbed P P' o medium
      (Offers.send letterhead mailer id request caller)
      (Offers.send letterhead mailer id request caller)) ∧
    Undisturbed P P' o medium (Admin.exportAll caller) (Admin.exportAll caller) ∧
    ∀ (gate : Gate) password, Undisturbed P P' o medium (gate.enter caller password)
      (gate.enter caller password) := by
  refine ⟨fun input => ?_, fun id input => ?_, fun id => ?_, fun input => ?_, fun id => ?_,
    fun letterhead mailer id request => ?_, ?_, fun gate password => ?_⟩
  · exact (InStep.createCalculation vouches mutes offerPrefix input caller).undisturbed medium
  · exact (InStep.updateCalculation vouches mutes offerPrefix id input caller).undisturbed medium
  · rw [Calculations.delete_eq, Calculations.delete_eq]
    exact (InStep.deletes vouches mutes id (.calculations_require id) calculations_ne_log
      fun c => .record vouches mutes _ _ _ _ _ _).undisturbed medium
  · exact (InStep.createOffer vouches mutes offerPrefix input caller).undisturbed medium
  · rw [Offers.delete_eq, Offers.delete_eq]
    exact (InStep.deletes vouches mutes id (.offers_require id) offers_ne_log
      fun offer => .record vouches mutes _ _ _ _ _ _).undisturbed medium
  · exact (InStep.sendOffer vouches mutes letterhead mailer id request caller).undisturbed medium
  · exact (InStep.exportAll vouches mutes caller).undisturbed medium
  · rw [Gate.enter_eq, Gate.enter_eq]
    exact (InStep.get_now (fun _ _ => Twins.now)
      (InStep.attempt vouches mutes gate caller password)).undisturbed medium

/-- The first calculation is deleted on a medium that takes every document, and on one that takes a
    single document. The second office has no entry for it. -/
theorem deletion_outlives_its_entry :
    ∃ left left' : Office (Traced Memory),
      (Calculations.delete 1 somebody).run.run
        ((serveAll "FHD" (opened (⟨inMemory.store.medium, []⟩ : Traced Memory) 0)
          dayBefore).setNow 86400000) = (.ok (), left) ∧
      (Calculations.delete 1 somebody).run.run
        (((serveAll "FHD" (opened (⟨inMemory.store.medium, []⟩ : Traced Memory) 0)
          dayBefore).setNow 86400000).movedTo
            (⟨(withSaves 1).store.medium, []⟩ : Traced Memory)) = (.ok (), left') ∧
      left.log.length = 2 ∧ left'.log.length = 1 ∧
      left.store.document.SameBut table left'.store.document ∧
      left'.store.document.SameAt table
        (serveAll "FHD" (opened (⟨inMemory.store.medium, []⟩ : Traced Memory) 0)
          dayBefore).store.document := by
  have evaluated :
      ((Calculations.delete 1 somebody).run.run
        ((serveAll "FHD" (opened (⟨inMemory.store.medium, []⟩ : Traced Memory) 0)
          dayBefore).setNow 86400000)).1 = .ok () ∧
      (∀ save ∈ ((Calculations.delete 1 somebody).run.run
        ((serveAll "FHD" (opened (⟨inMemory.store.medium, []⟩ : Traced Memory) 0)
          dayBefore).setNow 86400000)).2.store.medium.saves, save.2 = true) ∧
      (∀ save ∈ ((Calculations.delete 1 somebody).run.run
        (((serveAll "FHD" (opened (⟨inMemory.store.medium, []⟩ : Traced Memory) 0)
          dayBefore).setNow 86400000).movedTo
            (⟨(withSaves 1).store.medium, []⟩ : Traced Memory))).2.store.medium.saves,
        (save.2 = true ↔ save.1.table table =
          (serveAll "FHD" (opened (⟨inMemory.store.medium, []⟩ : Traced Memory) 0)
            dayBefore).store.document.table table)) ∧
      ((Calculations.delete 1 somebody).run.run
        ((serveAll "FHD" (opened (⟨inMemory.store.medium, []⟩ : Traced Memory) 0)
          dayBefore).setNow 86400000)).2.log.length = 2 ∧
      ((Calculations.delete 1 somebody).run.run
        (((serveAll "FHD" (opened (⟨inMemory.store.medium, []⟩ : Traced Memory) 0)
          dayBefore).setNow 86400000).movedTo
            (⟨(withSaves 1).store.medium, []⟩ : Traced Memory))).2.log.length = 1 := by
    decide +kernel
  obtain ⟨ok, fine, fine', two, one⟩ := evaluated
  have undisturbed := (dropped_entry_disturbs_nothing "FHD" Traced.vouches
    ((serveAll "FHD" (opened (⟨inMemory.store.medium, []⟩ : Traced Memory) 0)
      dayBefore).setNow 86400000) (⟨(withSaves 1).store.medium, []⟩ : Traced Memory)
    (Traced.mutes _) somebody).2.2.1 1 _ _ _ _ rfl rfl fine fine'
  obtain ⟨same, but, log⟩ := undisturbed
  exact ⟨_, _, Prod.ext ok rfl, Prod.ext (same.symm.trans ok) rfl, two, one, but, log⟩

end Log

end OfferBook
