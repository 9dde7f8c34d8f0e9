import OfferBook.Model.Kind

/-! # The activity log

* `ActivityEntry` — a row of the table `calculation_logs`.
* `ActivityPage` — some entries, and how many there are in all.
-/

namespace OfferBook

structure ActivityEntry where
  id : Int
  action : String
  entityType : Option String
  entityId : Option Int
  entityUuid : Option String
  userId : Option String
  userName : Option String
  details : Option Json
  createdAt : Option String
deriving DecidableEq

namespace ActivityEntry

def fieldNames : List String :=
  ["id", "action", "entity_type", "entity_id", "entity_uuid", "user_id", "user_name", "details",
   "created_at"]

def ofJson? (v : Json) : Option ActivityEntry := do
  let fields ← Fields.ofJson? fieldNames v
  let id ← fields.required "id" Strict.integer?
  let action ← fields.required "action" Strict.text?
  let entityType ← fields.optional "entity_type" Strict.text?
  let entityId ← fields.optional "entity_id" Strict.integer?
  let entityUuid ← fields.optional "entity_uuid" Strict.text?
  let userId ← fields.orDefault none "user_id" (always Lenient.text)
  let userName ← fields.optional "user_name" Strict.text?
  let details ← fields.orDefault none "details" (always Lenient.embedded)
  let createdAt ← fields.optional "created_at" Strict.text?
  some { id, action, entityType, entityId, entityUuid, userId, userName, details, createdAt }

def ofText? : String → Option ActivityEntry := readText? (.ofNames fieldNames) ofJson?

def ofRecord? (row : Record) : Option ActivityEntry := ofJson? (Json.ofRecord row)

def toJson (e : ActivityEntry) : Json :=
  .object [("id", .int e.id), ("action", .text e.action),
    ("entity_type", Json.ofOption .text e.entityType),
    ("entity_id", Json.ofOption .int e.entityId),
    ("entity_uuid", Json.ofOption .text e.entityUuid),
    ("user_id", Json.ofOption .text e.userId), ("user_name", Json.ofOption .text e.userName),
    ("details", e.details.getD .null), ("created_at", Json.ofOption .text e.createdAt)]

end ActivityEntry

structure ActivityPage where
  entries : List ActivityEntry
  total : Nat
  limit : Nat
  offset : Nat
deriving DecidableEq

def ActivityPage.toJson (p : ActivityPage) : Json :=
  .object [("logs", .array (p.entries.map ActivityEntry.toJson)), ("total", .int p.total),
    ("limit", .int p.limit), ("offset", .int p.offset)]

end OfferBook
