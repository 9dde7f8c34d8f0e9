import OfferBook.Office.LineItems
import OfferBook.Office.Log

/-! # Calculations in versions

Editing a calculation never changes its row. A row with the next version is added to the chain,
and the rows before it are no longer current. The base of the offer number stays, its version
follows the row's. Deleting marks a row; it disappears from `list` but stays reachable by its id.
-/

namespace OfferBook

namespace Creators

/-- Rows of a table under an alias, together with the users who made them. -/
def joined (table shortName : String) (labels : List Projection) (conditions : List Condition)
    (orderBy : String) : Select where
  projection := .allOf shortName :: labels
  table := table
  shortName := some shortName
  join := some ⟨"users", "u", ⟨some shortName, "created_by"⟩, ⟨some "u", "id"⟩⟩
  conditions := conditions
  orderBy := some ⟨⟨some shortName, orderBy⟩, true⟩
  limit := none
  offset := none

/-- The creator's name. -/
def name : Projection := .column ⟨some "u", "name"⟩ (some "created_by_name")

/-- The creator's address for mails. -/
def email : Projection := .column ⟨some "u", "email"⟩ (some "created_by_email")

/-- The rows that are not deleted, the newest first. -/
def remaining (table shortName : String) : Select :=
  joined table shortName [name] [.isNull ⟨some shortName, "deleted_at"⟩] "id"

/-- All rows as an export asks for them, the newest first. -/
def listing (table shortName : String) : Select := joined table shortName [name, email] [] "id"

end Creators

namespace Calculations

variable {m : Type} [Medium m]

def table : String := "calculations"

def entityType : String := "calculation"

/-- What is said not to be found. -/
def notFound (what : String) : ServiceError := .notFound ("calculation " ++ what)

/-- The row with an id. -/
def find (id : Int) : Work m (Option Calculation) :=
  Office.selectFirst Calculation.ofRecord? (.matching table [.is "id" (.int id)])

/-- The row with an id, which must be there. -/
def require (id : Int) : Service m Calculation := do
  match ← storage (find id) with
  | some c => return c
  | none => throw (notFound (intText id))

/-- The row with the highest version of a chain. -/
def headOf (uuid : String) : Work m (Option Calculation) :=
  Office.selectFirst Calculation.ofRecord?
    { (Select.matching table [.is "calculation_uuid" (.text uuid)]).ordered
        (.bare "version") true with limit := some (.literal (.int 1)) }

/-! ## Reading -/

/-- Give a row without an offer number one, as the first reading of an old row does. -/
def backfill (offerPrefix : String) (c : Calculation) : Work m Calculation := do
  if (c.offerNumber.getD "").isEmpty then
    let number ← Office.allocate offerPrefix (max c.version 1)
    let _ ← Office.update (numbering table c.id number)
    return { c with offerNumber := some number.text }
  else return c

/-- A row with its sheets. -/
def detail (offerPrefix : String) (c : Calculation) : Work m CalculationDetail := do
  let c ← backfill offerPrefix c
  return ⟨c, ← LineItems.sheets (.calculation c.id) c.kind⟩

/-- The rows that are not deleted, of all chains, the newest first. -/
def list : Service m (List Calculation) :=
  storage (Office.selectAll Calculation.ofRecord? (Creators.remaining table "c"))

/-- A row with its sheets, deleted or not. -/
def get (offerPrefix : String) (id : Int) : Service m CalculationDetail := do
  let c ← require id
  storage (detail offerPrefix c)

/-- The current version of a chain. -/
def latest (offerPrefix uuid : String) : Service m CalculationDetail := do
  let found ← storage (Office.selectFirst Calculation.ofRecord?
    (.matching table [.is "calculation_uuid" (.text uuid), .is "is_current" (.int 1),
      .missing "deleted_at"]))
  match found with
  | some c => storage (detail offerPrefix c)
  | none => throw (notFound uuid)

/-- An entry of the history. -/
def versionInfo (c : Calculation) : VersionInfo where
  id := c.id
  uuid := c.uuid
  version := c.version
  changedAt := c.modifiedAt
  changedBy := c.createdByName.getD "Unknown"
  description := if c.isCurrent then "Current version" else "Version " ++ intText c.version
  isCurrent := c.isCurrent

/-- The chain that a text stands for: the one of a row's id, or the one it names. -/
def chainOf (idOrUuid : String) : Service m String := do
  match parseSigned? (Text.trimChars idOrUuid.toList) with
  | some id => return (← require id).uuid
  | none => return idOrUuid

/-- The rows of a chain, the newest version first. -/
def history (uuid : String) : Select :=
  Creators.joined table "c" [Creators.name]
    [.equals ⟨some "c", "calculation_uuid"⟩ (.literal (.text uuid))] "version"

/-- The history of a chain, the newest version first. -/
def versions (idOrUuid : String) : Service m (List VersionInfo) := do
  let uuid ← chainOf idOrUuid
  let rows ← storage (Office.selectAll Calculation.ofRecord? (history uuid))
  if rows.isEmpty then throw (.notFound ("versions of " ++ uuid))
  return rows.map versionInfo

/-! ## Writing -/

/-- The title without blanks around it, once the content is found to be valid. -/
def validate (input : CalculationInput) : Except ServiceError String := do
  let kunde := Text.trim (input.kunde.getD "")
  if kunde.isEmpty then throw (.validation "kunde is required")
  LineItems.validate input.items
  return kunde

/-- The status of new rows. -/
def status (input : CalculationInput) : String :=
  (input.status.filter (!·.isEmpty)).getD "draft"

/-- A row of the table. -/
def row (uuid : String) (version : Int) (kunde : String) (createdBy : Option String)
    (input : CalculationInput) (number : OfferNumber) (parent : Option Int) : Insert :=
  .ofFields table
    [("calculation_uuid", .literal (.text uuid)), ("version", .literal (.int version)),
     ("kunde", .literal (.text kunde)),
     ("created_by", .literal (Json.ofOption .text createdBy)),
     ("status", .literal (.text (status input))),
     ("calculation_type", .literal (.text input.kind.name)),
     ("offer_number", .literal (.text number.text)), ("is_current", .literal (.bool true)),
     ("parent_version_id", .literal (Json.ofOption .int parent)), ("created_at", .now),
     ("modified_at", .now)]

/-- Store a row with its sheets. -/
def store (uuid : String) (version : Int) (kunde : String) (createdBy : Option String)
    (input : CalculationInput) (number : OfferNumber) (parent : Option Int) :
    Work m SavedVersion := do
  let id ← Office.insertNumbered (row uuid version kunde createdBy input number parent)
  LineItems.insertSheets (.calculation id) input.kind input.items input.warehousing
  return ⟨id, uuid, version, number.text⟩

/-- Version 1 of a new calculation. -/
def create (offerPrefix : String) (input : CalculationInput) (caller : Caller) :
    Service m SavedVersion := do
  let kunde ← validate input
  let uuid ← storage Office.freshUuid
  let number ← storage (Office.allocate offerPrefix 1)
  let saved ← storage (store uuid 1 kunde (some caller.id) input number none)
  Log.record .create entityType (some saved.id) (some uuid) caller (some (.ofFields
    [("kunde", .text kunde), ("calculation_type", .text input.kind.name),
     ("offer_number", .text number.text)]))
  return saved

/-- The offer number of a new version: the head's with another version, or a fresh one where the
    head has none. -/
def nextNumber (offerPrefix : String) (head : Calculation) (version : Int) :
    Work m OfferNumber :=
  match head.offerNumber.filter (!·.isEmpty) with
  | some stored => return OfferNumber.rebase stored version
  | none => Office.allocate offerPrefix version

/-- None of a chain's rows is current any longer. -/
def retire (uuid : String) : Update :=
  ⟨table, [("is_current", .literal (.bool false))], [.is "calculation_uuid" (.text uuid)]⟩

/-- Store edited content as the next version of the chain of a row. Editing an older version
    also adds after the newest one, so that the chain stays linear. -/
def update (offerPrefix : String) (id : Int) (input : CalculationInput) (caller : Caller) :
    Service m SavedVersion := do
  let kunde ← validate input
  let edited ← require id
  let head := (← storage (headOf edited.uuid)).getD edited
  let version := head.version + 1
  let number ← storage (nextNumber offerPrefix head version)
  let _ ← storage (Office.update (retire head.uuid))
  let saved ← storage
    (store head.uuid version kunde head.createdBy input number (some head.id))
  Log.record .update entityType (some saved.id) (some head.uuid) caller (some (.ofFields
    [("kunde", .text kunde), ("calculation_type", .text input.kind.name),
     ("offer_number", .text number.text), ("version", .int version),
     ("previous_id", .int head.id)]))
  return saved

/-- Mark a row of a table as deleted, unless it is already. -/
def markDeleted (table : String) (id : Int) : Update :=
  ⟨table, [("deleted_at", .now)], [.is "id" (.int id), .missing "deleted_at"]⟩

/-- Mark a row as deleted. The row, its chain and its sheets stay. -/
def delete (id : Int) (caller : Caller) : Service m Unit := do
  let c ← require id
  if 0 < (← storage (Office.update (markDeleted table id))) then
    Log.record .delete entityType (some id) (some c.uuid) caller (some (.ofFields
      [("kunde", Json.ofOption .text c.kunde), ("calculation_type", .text c.kind.name)]))

/-- Give the rows of a chain a title, unless they are deleted. -/
def retitle (uuid title : String) : Update :=
  ⟨table, [("kunde", .literal (.text title)), ("modified_at", .now)],
    [.is "calculation_uuid" (.text uuid), .missing "deleted_at"]⟩

/-- Change the title of all rows of a chain that are not deleted, without a new version. -/
def rename (uuid title : String) : Service m Nat := do
  let title := Text.trim title
  if title.isEmpty then throw (.validation "title is required")
  let changes ← storage (Office.update (retitle uuid title))
  if changes = 0 then throw (notFound uuid)
  return changes

end Calculations

end OfferBook
