import OfferBook.Proofs.Office.Inputs
import OfferBook.Proofs.Office.Sequences

/-! # What each call may change

* `Stores` — the rows that a call may store: valid ones, whose integers fit into words where those
  of the call do.
* `Permits` — the changes that a call may make. Entries of the log are added by many calls, rows of
  calculations and offers by those that store; a new account and each other kind of update belong
  to one call.
* `Permits.side` — calls that do not store make changes on the side only.
* `Makes.createCalculation`, `Makes.deleteCalculation`, … — the services make permitted changes
  only, wherever they are cut short.
-/

namespace OfferBook

/-- A row that a call may store. -/
inductive Stores (call : Call) : Insert → Prop
  | firstVersion {uuid kunde createdBy : String} {input : CalculationInput} {number : OfferNumber}
      (title : Text.IsTitle kunde) :
    Stores call (Calculations.row uuid 1 kunde (some createdBy) input number none)
  | nextVersion {uuid : String} {version : Int} {kunde : String} {createdBy : Option String}
      {input : CalculationInput} {number : OfferNumber} {parent : Int}
      (title : Text.IsTitle kunde) :
    Stores call (Calculations.row uuid version kunde createdBy input number (some parent))
  | offer {uuid : String} {input : OfferInput} {caller : Caller} {number : OfferNumber}
      (source : call.InWords → ∀ id ∈ input.source, fitsSigned id = true) :
    Stores call (Offers.row uuid input caller number)
  | item {owner : Owner} {place : Nat} {item : GarmentItemInput} (first : 1 ≤ item.numberAt place)
      (fits : call.InWords → fitsSigned (item.numberAt place) = true) :
    Stores call (LineItems.itemRow owner place item)
  | warehousing (owner : Owner) (input : WarehousingInput) :
    Stores call (LineItems.warehousingRow owner input)

/-- A change that a call may make. -/
inductive Permits : Call → Change → Prop
  | insert {call : Call} (storing : call.isStoring = true) {s : Insert} (stores : Stores call s) :
    Permits call (.insert s)
  | advance {call : Call} (storing : call.isStoring = true) (key : String) :
    Permits call (.advance key)
  | entry {call : Call} {action : Action} {entityType : String} {entityId : Option Int}
      {entityUuid : Option String} {caller : Caller} {details : Option Json}
      (fits : call.InWords → ∀ id ∈ entityId, fitsSigned id = true) :
    Permits call (.insert (Log.entry action entityType entityId entityUuid caller details))
  | newAccount {cost : Nat} {email name password : String} (id hashed : String) :
    Permits (.seedAdmin cost email name password)
      (.insert (Accounts.adminRow id email hashed name))
  | account (call : Call) (id hashed : String) :
    Permits call (.update (Accounts.setPassword id hashed))
  | retire (uuid : String) {id : Int} {input : CalculationInput} {caller : Caller} :
    Permits (.updateCalculation id input caller) (.update (Calculations.retire uuid))
  | retitle {uuid title : String} (filled : Text.IsTitle (Text.trim title)) :
    Permits (.renameCalculations uuid title) (.update (Calculations.retitle uuid (Text.trim title)))
  | deleteCalculation {id : Int} {caller : Caller} :
    Permits (.deleteCalculation id caller)
      (.update (Calculations.markDeleted Calculations.table id))
  | deleteOffer {id : Int} {caller : Caller} :
    Permits (.deleteOffer id caller) (.update (Calculations.markDeleted Offers.table id))
  | markSent {letterhead : Letterhead} {mailer : Offers.Mailer} {id : Int} {request : SendRequest}
      {caller : Caller} :
    Permits (.sendOffer letterhead mailer id request caller) (.update (Offers.markSent id))

theorem Permits.side {call : Call} {c : Change} (h : Permits call c)
    (idle : call.isStoring = false) (now : Instant) : SideChange now c := by
  cases h with
  | insert storing | advance storing => exact Bool.noConfusion (storing.symm.trans idle)
  | retire => exact Bool.noConfusion idle
  | entry => exact .entry rfl
  | newAccount => exact .newAccount rfl
  | account => exact .account rfl
  | retitle =>
    exact .annotate (.inl rfl) (by simp [Calculations.retitle, Annotates, annotations])
  | deleteCalculation =>
    exact .annotate (.inl rfl) (by simp [Calculations.markDeleted, Annotates, annotations])
  | deleteOffer =>
    exact .annotate (.inr rfl) (by simp [Calculations.markDeleted, Annotates, annotations])
  | markSent => exact .annotate (.inr rfl) (by simp [Offers.markSent, Annotates, annotations])

/-- The accounts are spared, or one is made, or one gets another password. -/
theorem Permits.accounts_cases {call : Call} {c : Change} (h : Permits call c) :
    c.Spares Accounts.table ∨
      (∃ cost email name password id hashed, call = .seedAdmin cost email name password ∧
        c = .insert (Accounts.adminRow id email hashed name)) ∨
      ∃ id hashed, c = .update (Accounts.setPassword id hashed) := by
  have apart : ∀ t ∈ [Calculations.table, Offers.table, Log.table, Document.countersTable,
      "garment_data", "garment_offer_data", "warehousing_data", "warehousing_offer_data"],
      t ≠ Accounts.table := by decide
  cases h with
  | insert _ stores =>
    refine .inl (apart _ ?_)
    cases stores with
    | firstVersion | nextVersion => exact List.mem_cons_self
    | offer => exact List.mem_cons_of_mem _ List.mem_cons_self
    | @item owner => cases owner <;> simp [LineItems.itemRow, Insert.ofValues, Owner.garmentTable]
    | warehousing owner =>
      cases owner <;> simp [LineItems.warehousingRow, Insert.ofValues, Owner.warehousingTable]
  | advance => exact .inl (apart Document.countersTable (by simp))
  | entry => exact .inl (apart Log.table (by simp))
  | newAccount id hashed => exact .inr (.inl ⟨_, _, _, _, id, hashed, rfl, rfl⟩)
  | account _ id hashed => exact .inr (.inr ⟨id, hashed, rfl⟩)
  | retire | retitle | deleteCalculation => exact .inl (apart Calculations.table (by simp))
  | deleteOffer | markSent => exact .inl (apart Offers.table (by simp))

namespace Office.Gives

variable {m : Type} [Medium m]

/-- A row that is stored and returned has an id of 64 bits. -/
theorem storeCalculation {uuid : String} {version : Int} {kunde : String}
    {createdBy : Option String} {input : CalculationInput} {number : OfferNumber}
    {parent : Option Int} :
    Gives (Calculations.store uuid version kunde createdBy input number parent :
      Work m SavedVersion) (fitsSigned ·.id = true) :=
  (insertNumbered _).bind fun _ fits => (any _).bind fun _ _ => pure fits

theorem storeOffer {uuid : String} {input : OfferInput} {caller : Caller}
    {number : OfferNumber} :
    Gives (Offers.store uuid input caller number : Work m Int) (fitsSigned · = true) :=
  (insertNumbered _).bind fun _ fits => (any _).bind fun _ _ => pure fits

end Office.Gives

namespace Office.Makes

variable {ε m α β : Type} [Medium m] {call : Call} {offerPrefix : String}

theorem entry {action : Action} {entityType : String} {entityId : Option Int}
    {entityUuid : Option String} {caller : Caller} {details : Option Json}
    (fits : call.InWords → ∀ id ∈ entityId, fitsSigned id = true) :
    Makes (Permits call) (Log.record action entityType entityId entityUuid caller details :
      OfficeM ε m Unit) := record (.entry fits)

/-- An entry about something that has an id. -/
theorem entryOf {action : Action} {entityType : String} {id : Int} {entityUuid : Option String}
    {caller : Caller} {details : Option Json} (fits : call.InWords → fitsSigned id = true) :
    Makes (Permits call) (Log.record action entityType (some id) entityUuid caller details :
      OfficeM ε m Unit) := by
  refine entry fun words => ?_
  rintro _ ⟨⟩
  exact fits words

section Storing

variable (storing : call.isStoring = true)
include storing

theorem insertSheets {owner : Owner} (kind : SheetKind) {items : List GarmentItemInput}
    (warehousing : Option WarehousingInput) (valid : LineItems.validate items = .ok ())
    (given : call.InWords → LineItems.GivenFit items) :
    Makes (Permits call) (LineItems.insertSheets owner kind items warehousing : Work m Unit) := by
  have itemsFrom (place : Nat) (rest : List GarmentItemInput)
      (stores : ∀ i item, rest[i]? = some item →
        Stores call (LineItems.itemRow owner (place + i) item)) :
      Makes (Permits call) (LineItems.insertItemsFrom owner place rest : Work m Unit) := by
    induction rest generalizing place with
    | nil => exact pure ()
    | cons item rest ih =>
      refine (insert (.insert storing (stores 0 item rfl))).bind fun _ => ?_
      refine ih (place + 1) fun i other found => ?_
      rw [Nat.add_assoc, Nat.add_comm 1]
      exact stores (i + 1) other found
  cases kind with
  | garment =>
    refine itemsFrom 0 items fun i item found => ?_
    rw [Nat.zero_add]
    exact .item (LineItems.one_le_numberAt valid found) fun words =>
      LineItems.numbersFit_of_validate (given words) valid i item found
  | warehousing =>
    cases warehousing with
    | none => exact pure ()
    | some w => exact (insert (.insert storing (.warehousing owner w))).bind fun _ => pure ()

theorem insertNumbered {s : Insert} (stores : Stores call s) :
    Makes (Permits call) (insertNumbered s : Work m Int) := by
  refine (insert (.insert storing stores)).bind fun e => ?_
  split
  · exact pure _
  · exact (Looks.throw _).makes _

theorem storeCalculation {uuid : String} {version : Int} {kunde : String}
    {createdBy : Option String} {input : CalculationInput} {number : OfferNumber}
    {parent : Option Int}
    (stores : Stores call (Calculations.row uuid version kunde createdBy input number parent))
    (valid : LineItems.validate input.items = .ok ())
    (given : call.InWords → LineItems.GivenFit input.items) :
    Makes (Permits call)
      (Calculations.store uuid version kunde createdBy input number parent :
        Work m SavedVersion) :=
  (insertNumbered storing stores).bind fun _ =>
    (insertSheets storing _ _ valid given).bind fun _ => pure _

end Storing

/-! ## Services -/

theorem createCalculation (input : CalculationInput) (caller : Caller) :
    Makes (Permits (.createCalculation input caller))
      (Calculations.create offerPrefix input caller : Service m SavedVersion) := by
  refine ((Looks.lift _).makes _).bind_of (Gives.lift _) fun kunde valid => ?_
  obtain ⟨title, items⟩ := Calculations.validate_ok valid
  refine freshUuid.storage.bind fun uuid => ?_
  refine (allocate (.advance rfl) _).storage.bind fun number => ?_
  refine (storeCalculation rfl (.firstVersion title) items id).storage.bind_of
    Gives.storeCalculation.storage fun saved fits => ?_
  exact (entryOf fun _ => fits).bind fun _ => pure _

theorem updateCalculation (edited : Int) (input : CalculationInput) (caller : Caller) :
    Makes (Permits (.updateCalculation edited input caller))
      (Calculations.update offerPrefix edited input caller : Service m SavedVersion) := by
  have number (head : Calculation) (version : Int) :
      Makes (Permits (.updateCalculation edited input caller))
        (Calculations.nextNumber offerPrefix head version : Work m OfferNumber) := by
    unfold Calculations.nextNumber
    split
    · exact pure _
    · exact allocate (.advance rfl) _
  refine ((Looks.lift _).makes _).bind_of (Gives.lift _) fun kunde valid => ?_
  obtain ⟨title, items⟩ := Calculations.validate_ok valid
  refine ((Looks.calculations_require _).makes _).bind fun edited => ?_
  refine ((Looks.selectFirst _ _).makes _).storage.bind fun head => ?_
  refine (number _ _).storage.bind fun number => (update (.retire _)).storage.bind fun _ => ?_
  refine (storeCalculation rfl (.nextVersion title) items id).storage.bind_of
    Gives.storeCalculation.storage fun saved fits => ?_
  exact (entryOf fun _ => fits).bind fun _ => pure _

theorem deleteCalculation (id : Int) (caller : Caller) :
    Makes (Permits (.deleteCalculation id caller))
      (Calculations.delete id caller : Service m Unit) := by
  refine ((Looks.calculations_require id).makes _).bind fun c => ?_
  refine (update .deleteCalculation).storage.bind fun n => ?_
  split
  · exact entryOf fun words => words
  · exact pure ()

theorem renameCalculations (uuid title : String) :
    Makes (Permits (.renameCalculations uuid title))
      (Calculations.rename uuid title : Service m Nat) := by
  unfold Calculations.rename
  dsimp only
  split
  · exact (Looks.throw_bind _ _).makes _
  · next filled =>
    refine (update (.retitle (Text.isTitle_trim filled))).storage.bind fun n => ?_
    split
    · exact (Looks.throw_bind _ _).makes _
    · exact pure _

theorem createOffer (input : OfferInput) (caller : Caller) :
    Makes (Permits (.createOffer input caller))
      (Offers.create offerPrefix input caller : Service m SavedOffer) := by
  refine ((Looks.lift _).makes _).bind_of (Gives.lift _) fun _ valid => ?_
  refine freshUuid.storage.bind fun uuid => ?_
  refine (allocate (.advance rfl) _).storage.bind fun number => ?_
  have stored : Makes (Permits (.createOffer input caller))
      (Offers.store uuid input caller number : Work m Int) :=
    (insertNumbered rfl (.offer And.right)).bind fun _ =>
      (insertSheets rfl _ _ valid And.left).bind fun _ => pure _
  refine stored.storage.bind_of Gives.storeOffer.storage fun id fits => ?_
  exact (entryOf fun _ => fits).bind fun _ => pure _

theorem deleteOffer (id : Int) (caller : Caller) :
    Makes (Permits (.deleteOffer id caller)) (Offers.delete id caller : Service m Unit) := by
  refine ((Looks.offers_require id).makes _).bind fun o => ?_
  refine (update .deleteOffer).storage.bind fun n => ?_
  split
  · exact entryOf fun words => words
  · exact pure ()

theorem sendOffer (letterhead : Letterhead) (mailer : Offers.Mailer) (id : Int)
    (request : SendRequest) (caller : Caller) :
    Makes (Permits (.sendOffer letterhead mailer id request caller))
      (Offers.send letterhead mailer id request caller : Service m String) := by
  refine ((Looks.offers_require id).makes _).bind fun o => ?_
  refine ((Looks.lift _).makes _).bind fun mail => ?_
  refine (update .markSent).storage.bind fun _ => bind ?_ fun _ => pure _
  exact entryOf fun words => words

theorem seedAdmin (cost : Nat) (email name password : String) :
    Makes (Permits (.seedAdmin cost email name password))
      (Accounts.seedAdmin cost email name password : Work m (Option String)) := by
  refine ((Looks.select _).makes _).bind fun existing => ?_
  split
  · refine freshUuid.bind fun id => (hash cost password).bind fun hashed => ?_
    exact (insert (.newAccount id hashed)).bind fun _ => pure _
  · exact pure none

theorem changePassword (cost : Nat) (caller : Caller) (current new : String) :
    Makes (Permits call) (Accounts.changePassword cost caller current new : Service m Unit) := by
  unfold Accounts.changePassword
  dsimp only
  split
  · exact (Looks.throw_bind _ _).makes _
  · refine ((Looks.selectFirst _ _).makes _).storage.bind fun found => ?_
    cases found with
    | none => exact (Looks.throw _).makes _
    | some a =>
      refine ((Looks.passwordMatches a current).makes _).storage.bind fun right => ?_
      split
      · refine (hash cost new).storage.bind fun hashed => ?_
        exact (update (.account call caller.id hashed)).storage.bind fun _ => pure _
      · exact (Looks.throw _).makes _

theorem enter (gate : Gate) (caller : Caller) (password : String) :
    Makes (Permits call)
      (gate.enter caller password : Work m (Except ServiceError Unit × Gate)) := by
  refine (Looks.get.makes _).bind fun o => ?_
  dsimp only
  split
  · exact (entry (by simp)).bind fun _ => pure _
  · exact pure _

theorem exportAll (caller : Caller) :
    Makes (Permits call) (Admin.exportAll caller : Service m Export) := by
  refine ((Looks.lift _).makes _).bind fun _ => ?_
  refine ((Looks.exportTable _ _ _ _ _).storage.makes _).bind fun calculations => ?_
  refine ((Looks.exportTable _ _ _ _ _).storage.makes _).bind fun offers => ?_
  refine ((Looks.selectAll _ _).storage.makes _).bind fun logs => ?_
  refine (entry (by simp)).bind fun _ => ?_
  exact (Looks.get.makes _).bind fun _ => pure _

end Office.Makes

end OfferBook
