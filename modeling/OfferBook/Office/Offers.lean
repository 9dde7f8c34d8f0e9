import OfferBook.Office.Calculations
import OfferBook.Office.Mail

/-! # Offers

An offer is a copy of a calculation's content at the time of its creation, addressed to a
customer. It never follows later edits of the calculation.
-/

namespace OfferBook.Offers

variable {m : Type} [Medium m]

def table : String := "offers"

def entityType : String := "offer"

/-- The row with an id, which must be there. -/
def require (id : Int) : Service m Offer := do
  match ← storage (Office.selectFirst Offer.ofRecord?
    (.matching table [.is "id" (.int id)])) with
  | some o => return o
  | none => throw (.notFound ("offer " ++ intText id))

/-- A text for a row; blank ones are null. -/
def textOperand (text : Option String) : Operand :=
  .literal (Json.ofOption .text (nonBlank? text))

def row (uuid : String) (input : OfferInput) (caller : Caller) (number : OfferNumber) : Insert :=
  .ofFields table
    ([("offer_uuid", .literal (.text uuid)), ("offer_type", .literal (.text input.kind.name)),
      ("source_calculation_id", .literal (Json.ofOption .int input.source)),
      ("kunde", textOperand input.kunde)]
      ++ Customer.fieldNames.zip (input.customer.values.map textOperand) ++
     [("created_by", .literal (.text caller.id)), ("valid_until", textOperand input.validUntil),
      ("status", .literal (.text (input.status.getD default).name)),
      ("notes", textOperand input.notes), ("message", textOperand input.message),
      ("delivery_option", textOperand input.deliveryOption),
      ("snapshot_data", .literal (Json.ofOption (.text ·.compact) input.snapshot)),
      ("offer_number", .literal (.text number.text)), ("created_at", .now)])

/-- Store a row with its sheets. -/
def store (uuid : String) (input : OfferInput) (caller : Caller) (number : OfferNumber) :
    Work m Int := do
  let id ← Office.insertNumbered (row uuid input caller number)
  LineItems.insertSheets (.offer id) input.kind input.items input.warehousing
  return id

/-- Details for the log. -/
def details (kunde : Option String) (kind : SheetKind) : Json :=
  .ofFields [("kunde", Json.ofOption .text kunde), ("offer_type", .text kind.name)]

/-- A new offer. -/
def create (offerPrefix : String) (input : OfferInput) (caller : Caller) :
    Service m SavedOffer := do
  LineItems.validate input.items
  let uuid ← storage Office.freshUuid
  let number ← storage (Office.allocate offerPrefix 1)
  let id ← storage (store uuid input caller number)
  Log.record .create entityType (some id) (some uuid) caller
    (some (details input.kunde input.kind))
  return ⟨id, uuid, number.text⟩

/-- The offers that are not deleted, the newest first. -/
def list : Service m (List Offer) :=
  storage (Office.selectAll Offer.ofRecord? (Creators.remaining table "o"))

/-- Give the row with an id a number where it has none. -/
def backfill (offerPrefix : String) (id : Int) (o : Offer) : Work m Offer := do
  if (o.offerNumber.getD "").isEmpty then
    let number ← Office.allocate offerPrefix 1
    let _ ← Office.update (numbering table id number)
    return { o with offerNumber := some number.text }
  else return o

/-- The offer of an id with its sheets. -/
def detail (offerPrefix : String) (id : Int) (o : Offer) : Work m OfferDetail := do
  let o ← backfill offerPrefix id o
  return ⟨o, ← LineItems.sheets (.offer id) o.kind⟩

/-- An offer with its sheets, deleted or not. -/
def get (offerPrefix : String) (id : Int) : Service m OfferDetail := do
  let o ← require id
  storage (detail offerPrefix id o)

/-- Mark an offer as deleted. -/
def delete (id : Int) (caller : Caller) : Service m Unit := do
  let o ← require id
  if 0 < (← storage (Office.update (Calculations.markDeleted table id))) then
    Log.record .delete entityType (some id) (some o.uuid) caller
      (some (details o.kunde o.kind))

/-- Delivers a mail, or fails. -/
abbrev Mailer := Mail → Except StorageError Unit

/-- The mail of an offer, handed to the mailer. -/
def mail (letterhead : Letterhead) (mailer : Mailer) (request : SendRequest) (o : Offer) :
    Except ServiceError Mail := do
  let mail ← Mail.compose letterhead o request
  match mailer mail with
  | .ok () => return mail
  | .error e => throw (.internal e)

/-- Mark an offer as sent. -/
def markSent (id : Int) : Update :=
  ⟨table, [("status", .literal (.text OfferStatus.sent.name)), ("sent_at", .now)],
    [.is "id" (.int id)]⟩

/-- Send an offer and mark it as sent; the result is the recipient. Nothing is written when the
    mail cannot be delivered. -/
def send (letterhead : Letterhead) (mailer : Mailer) (id : Int) (request : SendRequest)
    (caller : Caller) : Service m String := do
  let o ← require id
  let mail ← mail letterhead mailer request o
  let _ ← storage (Office.update (markSent id))
  Log.record .sendEmail entityType (some id) (some o.uuid) caller (some (.ofFields
    [("kunde", Json.ofOption .text o.kunde), ("recipient", .text mail.recipient)]))
  return mail.recipient

end OfferBook.Offers
