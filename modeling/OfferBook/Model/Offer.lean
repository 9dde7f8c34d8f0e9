import OfferBook.Model.Calculation

/-! # Offers

* `Customer` — to whom an offer is addressed.
* `Offer` — a row of the table `offers`.
* `OfferInput` — the content handed in for a new offer.
* `SendRequest`, `Letterhead` — what the mail of an offer is made from.
-/

namespace OfferBook

structure Customer where
  name : Option String
  company : Option String
  street : Option String
  postalCode : Option String
  city : Option String
  country : Option String
  email : Option String
  phone : Option String
deriving DecidableEq

namespace Customer

def fieldNames : List String :=
  ["customer_name", "customer_company", "customer_street", "customer_postal_code",
   "customer_city", "customer_country", "customer_email", "customer_phone"]

/-- Read each field of a customer in one way. -/
def ofFields? (read : String → Option (Option String)) : Option Customer := do
  let name ← read "customer_name"
  let company ← read "customer_company"
  let street ← read "customer_street"
  let postalCode ← read "customer_postal_code"
  let city ← read "customer_city"
  let country ← read "customer_country"
  let email ← read "customer_email"
  let phone ← read "customer_phone"
  some { name, company, street, postalCode, city, country, email, phone }

def values (c : Customer) : List (Option String) :=
  [c.name, c.company, c.street, c.postalCode, c.city, c.country, c.email, c.phone]

def fields (c : Customer) : Fields := fieldNames.zip (c.values.map (Json.ofOption .text))

end Customer

structure Offer where
  id : Int
  uuid : String
  kind : SheetKind
  source : Option Int
  kunde : Option String
  customer : Customer
  createdBy : Option String
  validUntil : Option String
  status : OfferStatus
  notes : Option String
  message : Option String
  deliveryOption : Option String
  snapshot : Option Json
  offerNumber : Option String
  sentAt : Option String
  createdAt : Option String
  deletedAt : Option String
  /-- Filled in where the users are joined. -/
  createdByName : Option String
deriving DecidableEq

namespace Offer

def fieldNames : List String :=
  ["id", "offer_uuid", "offer_type", "source_calculation_id", "kunde"] ++ Customer.fieldNames ++
  ["created_by", "valid_until", "status", "notes", "message", "delivery_option",
   "snapshot_data", "offer_number", "sent_at", "created_at", "deleted_at", "created_by_name"]

def ofJson? (v : Json) : Option Offer := do
  let fields ← Fields.ofJson? fieldNames v
  let text (name : String) := fields.orDefault none name (always Lenient.text)
  let strict (name : String) := fields.optional name Strict.text?
  let id ← fields.required "id" Strict.integer?
  let uuid ← fields.orDefault "" "offer_uuid" (nullAs "" Strict.text?)
  let kind ← fields.orDefault default "offer_type" (nullAs default SheetKind.ofJson?)
  let source ← fields.optional "source_calculation_id" Strict.integer?
  let kunde ← text "kunde"
  let customer ← Customer.ofFields? text
  let createdBy ← text "created_by"
  let validUntil ← strict "valid_until"
  let status ← fields.orDefault default "status" (nullAs default OfferStatus.ofJson?)
  let notes ← strict "notes"
  let message ← strict "message"
  let deliveryOption ← strict "delivery_option"
  let snapshot ← fields.orDefault none "snapshot_data" (always Lenient.embedded)
  let offerNumber ← text "offer_number"
  let sentAt ← strict "sent_at"
  let createdAt ← strict "created_at"
  let deletedAt ← strict "deleted_at"
  let createdByName ← strict "created_by_name"
  some { id, uuid, kind, source, kunde, customer, createdBy, validUntil, status, notes, message,
         deliveryOption, snapshot, offerNumber, sentAt, createdAt, deletedAt, createdByName }

def ofText? : String → Option Offer := readText? (.ofNames fieldNames) ofJson?

def ofRecord? (row : Record) : Option Offer := ofJson? (Json.ofRecord row)

def fields (o : Offer) : Fields :=
  [("id", .int o.id), ("offer_uuid", .text o.uuid), ("offer_type", .text o.kind.name),
   ("source_calculation_id", Json.ofOption .int o.source),
   ("kunde", Json.ofOption .text o.kunde)] ++ o.customer.fields ++
  [("created_by", Json.ofOption .text o.createdBy),
   ("valid_until", Json.ofOption .text o.validUntil), ("status", .text o.status.name),
   ("notes", Json.ofOption .text o.notes), ("message", Json.ofOption .text o.message),
   ("delivery_option", Json.ofOption .text o.deliveryOption),
   ("snapshot_data", o.snapshot.getD .null), ("offer_number", Json.ofOption .text o.offerNumber),
   ("sent_at", Json.ofOption .text o.sentAt), ("created_at", Json.ofOption .text o.createdAt),
   ("deleted_at", Json.ofOption .text o.deletedAt)]
    ++ (o.createdByName.map fun n => ("created_by_name", .text n)).toList

def toJson (o : Offer) : Json := .object o.fields

/-- How the customer is addressed. -/
def addressee (o : Offer) : String :=
  ((o.customer.name <|> o.customer.company) <|> o.kunde).getD "Kunde"

/-- The number of the offer, or its id where it has none. -/
def reference (o : Offer) : String := o.offerNumber.getD (intText o.id)

end Offer

structure OfferDetail where
  offer : Offer
  sheets : Sheets
deriving DecidableEq

def OfferDetail.toJson (d : OfferDetail) : Json := .object (d.offer.fields ++ d.sheets.fields)

/-- The identity of an offer that was just written. -/
structure SavedOffer where
  id : Int
  uuid : String
  offerNumber : String
deriving DecidableEq

def SavedOffer.toJson (s : SavedOffer) : Json :=
  .object [("id", .int s.id), ("offer_uuid", .text s.uuid), ("offer_number", .text s.offerNumber)]

/-! ## Content handed in -/

structure OfferInput where
  kind : SheetKind
  source : Option Int
  kunde : Option String
  customer : Customer
  validUntil : Option String
  status : Option OfferStatus
  notes : Option String
  message : Option String
  deliveryOption : Option String
  snapshot : Option Json
  items : List GarmentItemInput
  warehousing : Option WarehousingInput
deriving DecidableEq

namespace OfferInput

def fieldNames : List String :=
  ["offer_type", "source_calculation_id", "kunde"] ++ Customer.fieldNames ++
  ["valid_until", "status", "notes", "message", "delivery_option", "snapshot_data", "items",
   "warehousing"]

def ofJson? (v : Json) : Option OfferInput := do
  let fields ← Fields.ofJson? fieldNames v
  let text (name : String) := fields.optional name Strict.text?
  let kind ← fields.orDefault default "offer_type" SheetKind.ofJson?
  let source ← fields.optional "source_calculation_id" Strict.integer?
  let kunde ← text "kunde"
  let customer ← Customer.ofFields? text
  let validUntil ← text "valid_until"
  let status ← fields.optional "status" OfferStatus.ofJson?
  let notes ← text "notes"
  let message ← text "message"
  let deliveryOption ← text "delivery_option"
  let snapshot ← fields.optional "snapshot_data" Strict.anything?
  let items ← fields.orDefault [] "items" (Strict.list? GarmentItemInput.ofJson?)
  let warehousing ← fields.optional "warehousing" SheetInput.ofJson?
  some { kind, source, kunde, customer, validUntil, status, notes, message, deliveryOption,
         snapshot, items, warehousing }

/-- The fields, of which the sheet has known fields of its own. -/
def shape : Shape := .ofNamesWith "warehousing" (SheetInput.shape .warehousing) fieldNames

def ofText? : String → Option OfferInput := readText? shape ofJson?

def toJson (i : OfferInput) : Json :=
  .object ([("offer_type", .text i.kind.name),
      ("source_calculation_id", Json.ofOption .int i.source),
      ("kunde", Json.ofOption .text i.kunde)] ++ i.customer.fields ++
    [("valid_until", Json.ofOption .text i.validUntil),
     ("status", Json.ofOption (.text ·.name) i.status),
     ("notes", Json.ofOption .text i.notes), ("message", Json.ofOption .text i.message),
     ("delivery_option", Json.ofOption .text i.deliveryOption),
     ("snapshot_data", i.snapshot.getD .null),
     ("items", .array (i.items.map GarmentItemInput.toJson)),
     ("warehousing", Json.ofOption SheetInput.toJson i.warehousing)])

end OfferInput

/-! ## Mails -/

/-- What the sender of an offer may set in place of the offer's own. -/
structure SendRequest where
  recipient : Option String
  subject : Option String
  message : Option String
  /-- The offer as a printed document. -/
  pdf : Option String
deriving DecidableEq

namespace SendRequest

def fieldNames : List String := ["recipient", "subject", "message", "pdf_base64"]

def ofJson? (v : Json) : Option SendRequest := do
  let fields ← Fields.ofJson? fieldNames v
  let recipient ← fields.optional "recipient" Strict.text?
  let subject ← fields.optional "subject" Strict.text?
  let message ← fields.optional "message" Strict.text?
  let pdf ← fields.optional "pdf_base64" Strict.text?
  some { recipient, subject, message, pdf }

def ofText? : String → Option SendRequest := readText? (.ofNames fieldNames) ofJson?

def toJson (r : SendRequest) : Json :=
  .object [("recipient", Json.ofOption .text r.recipient),
    ("subject", Json.ofOption .text r.subject), ("message", Json.ofOption .text r.message),
    ("pdf_base64", Json.ofOption .text r.pdf)]

end SendRequest

/-- How the office presents itself in mails. -/
structure Letterhead where
  company : String
  signature : String
deriving DecidableEq

namespace Letterhead

def standard : Letterhead :=
  ⟨"Fashion Holding Düsseldorf", "Fashion Holding Düsseldorf GmbH"⟩

def fieldNames : List String := ["company_name", "signature"]

/-- The standard letterhead with the given fields in place of its own. -/
def ofFields? (fields : Fields) : Option Letterhead := do
  let company ← fields.orDefault standard.company "company_name" Strict.text?
  let signature ← fields.orDefault standard.signature "signature" Strict.text?
  some { company, signature }

def ofJson? (v : Json) : Option Letterhead := (Fields.ofJson? fieldNames v).bind ofFields?

def ofText? : String → Option Letterhead := readText? (.ofNames fieldNames) ofJson?

def toJson (l : Letterhead) : Json :=
  .object [("company_name", .text l.company), ("signature", .text l.signature)]

end Letterhead

end OfferBook
