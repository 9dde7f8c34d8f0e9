import OfferBook.Model.CostSheet
import OfferBook.Model.Kind

/-! # Calculations

* `Calculation` — a row of the table `calculations`: one version of a chain.
* `CalculationDetail`, `VersionInfo`, `SavedVersion` — what is told about calculations.
* `CalculationInput` — the content handed in for a new calculation or version.
-/

namespace OfferBook

structure Calculation where
  id : Int
  uuid : String
  version : Int
  kunde : Option String
  createdBy : Option String
  status : Option String
  kind : SheetKind
  offerNumber : Option String
  isCurrent : Bool
  parent : Option Int
  createdAt : Option String
  modifiedAt : Option String
  deletedAt : Option String
  /-- Filled in where the users are joined. -/
  createdByName : Option String
deriving DecidableEq

namespace Calculation

def fieldNames : List String :=
  ["id", "calculation_uuid", "version", "kunde", "created_by", "status", "calculation_type",
   "offer_number", "is_current", "parent_version_id", "created_at", "modified_at", "deleted_at",
   "created_by_name"]

def ofJson? (v : Json) : Option Calculation := do
  let fields ← Fields.ofJson? fieldNames v
  let text (name : String) := fields.orDefault none name (always Lenient.text)
  let id ← fields.required "id" Strict.integer?
  let uuid ← fields.orDefault "" "calculation_uuid" (nullAs "" Strict.text?)
  let version ← fields.orDefault 1 "version" (always Lenient.version)
  let kunde ← text "kunde"
  let createdBy ← text "created_by"
  let status ← text "status"
  let kind ← fields.orDefault default "calculation_type" (nullAs default SheetKind.ofJson?)
  let offerNumber ← text "offer_number"
  let isCurrent ← fields.orDefault false "is_current" (always Lenient.flag)
  let parent ← fields.optional "parent_version_id" Strict.integer?
  let createdAt ← fields.optional "created_at" Strict.text?
  let modifiedAt ← fields.optional "modified_at" Strict.text?
  let deletedAt ← fields.optional "deleted_at" Strict.text?
  let createdByName ← fields.optional "created_by_name" Strict.text?
  some { id, uuid, version, kunde, createdBy, status, kind, offerNumber, isCurrent, parent,
         createdAt, modifiedAt, deletedAt, createdByName }

def ofText? : String → Option Calculation := readText? (.ofNames fieldNames) ofJson?

def ofRecord? (row : Record) : Option Calculation := ofJson? (Json.ofRecord row)

/-- The fields that are written out; the creator's name only where it is known. -/
def fields (c : Calculation) : Fields :=
  [("id", .int c.id), ("calculation_uuid", .text c.uuid), ("version", .int c.version),
   ("kunde", Json.ofOption .text c.kunde), ("created_by", Json.ofOption .text c.createdBy),
   ("status", Json.ofOption .text c.status), ("calculation_type", .text c.kind.name),
   ("offer_number", Json.ofOption .text c.offerNumber), ("is_current", .bool c.isCurrent),
   ("parent_version_id", Json.ofOption .int c.parent),
   ("created_at", Json.ofOption .text c.createdAt),
   ("modified_at", Json.ofOption .text c.modifiedAt),
   ("deleted_at", Json.ofOption .text c.deletedAt)]
    ++ (c.createdByName.map fun n => ("created_by_name", .text n)).toList

def toJson (c : Calculation) : Json := .object c.fields

end Calculation

/-! ## Sheets beside a row -/

/-- The cost sheets of a calculation or an offer. -/
structure Sheets where
  items : List GarmentItem
  warehousing : Option Warehousing
deriving DecidableEq

namespace Sheets

def none : Sheets := ⟨[], .none⟩

/-- The fields that are written out; a part that is missing is left out. -/
def fields (s : Sheets) : Fields :=
  (if s.items.isEmpty then [] else [("items", .array (s.items.map GarmentItem.toJson))])
    ++ (s.warehousing.map fun w => ("warehousing", w.toJson)).toList

end Sheets

structure CalculationDetail where
  calculation : Calculation
  sheets : Sheets
deriving DecidableEq

def CalculationDetail.toJson (d : CalculationDetail) : Json :=
  .object (d.calculation.fields ++ d.sheets.fields)

/-- An entry of the history of a chain. -/
structure VersionInfo where
  id : Int
  uuid : String
  version : Int
  changedAt : Option String
  changedBy : String
  description : String
  isCurrent : Bool
deriving DecidableEq

def VersionInfo.toJson (v : VersionInfo) : Json :=
  .object [("id", .int v.id), ("calculation_uuid", .text v.uuid), ("version", .int v.version),
    ("changed_at", Json.ofOption .text v.changedAt), ("changed_by", .text v.changedBy),
    ("change_description", .text v.description), ("is_current", .bool v.isCurrent)]

/-- The identity of a version that was just written. -/
structure SavedVersion where
  id : Int
  uuid : String
  version : Int
  offerNumber : String
deriving DecidableEq

def SavedVersion.toJson (s : SavedVersion) : Json :=
  .object [("id", .int s.id), ("calculation_uuid", .text s.uuid), ("version", .int s.version),
    ("offer_number", .text s.offerNumber)]

/-! ## Content handed in -/

structure CalculationInput where
  kunde : Option String
  status : Option String
  kind : SheetKind
  items : List GarmentItemInput
  warehousing : Option WarehousingInput
deriving DecidableEq

namespace CalculationInput

def fieldNames : List String := ["kunde", "status", "calculation_type", "items", "warehousing"]

def ofJson? (v : Json) : Option CalculationInput := do
  let fields ← Fields.ofJson? fieldNames v
  let kunde ← fields.optional "kunde" Strict.text?
  let status ← fields.optional "status" Strict.text?
  let kind ← fields.orDefault default "calculation_type" SheetKind.ofJson?
  let items ← fields.orDefault [] "items" (Strict.list? GarmentItemInput.ofJson?)
  let warehousing ← fields.optional "warehousing" SheetInput.ofJson?
  some { kunde, status, kind, items, warehousing }

/-- The fields, of which the sheet has known fields of its own. -/
def shape : Shape := .ofNamesWith "warehousing" (SheetInput.shape .warehousing) fieldNames

def ofText? : String → Option CalculationInput := readText? shape ofJson?

def toJson (i : CalculationInput) : Json :=
  .object [("kunde", Json.ofOption .text i.kunde), ("status", Json.ofOption .text i.status),
    ("calculation_type", .text i.kind.name),
    ("items", .array (i.items.map GarmentItemInput.toJson)),
    ("warehousing", Json.ofOption SheetInput.toJson i.warehousing)]

end CalculationInput

end OfferBook
