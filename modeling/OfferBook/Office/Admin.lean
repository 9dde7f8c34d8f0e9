import OfferBook.Office.Calculations
import OfferBook.Office.Offers

/-! # What administrators see

Pages of the activity log, and an export of all that is stored, deleted rows included. Every call
looks at the role of its caller.
-/

namespace OfferBook

/-- A calculation or an offer with its creator's address and its sheets. -/
structure Exported (α : Type) where
  row : α
  createdByEmail : Option String
  sheets : Sheets
deriving DecidableEq

def Exported.toJson (fields : α → Fields) (e : Exported α) : Json :=
  .object (fields e.row ++ [("created_by_email", Json.ofOption .text e.createdByEmail)]
    ++ e.sheets.fields)

structure ExportSummary where
  totalCalculations : Nat
  deletedCalculations : Nat
  totalOffers : Nat
  deletedOffers : Nat
  totalLogs : Nat
deriving DecidableEq

def ExportSummary.toJson (s : ExportSummary) : Json :=
  .object [("totalCalculations", .int s.totalCalculations),
    ("activeCalculations", .int (s.totalCalculations - s.deletedCalculations : Nat)),
    ("deletedCalculations", .int s.deletedCalculations), ("totalOffers", .int s.totalOffers),
    ("activeOffers", .int (s.totalOffers - s.deletedOffers : Nat)),
    ("deletedOffers", .int s.deletedOffers), ("totalLogs", .int s.totalLogs)]

structure Export where
  date : String
  exportedBy : String
  calculations : List (Exported Calculation)
  offers : List (Exported Offer)
  logs : List ActivityEntry
deriving DecidableEq

namespace Export

def summary (e : Export) : ExportSummary where
  totalCalculations := e.calculations.length
  deletedCalculations := e.calculations.countP (·.row.deletedAt.isSome)
  totalOffers := e.offers.length
  deletedOffers := e.offers.countP (·.row.deletedAt.isSome)
  totalLogs := e.logs.length

def toJson (e : Export) : Json :=
  .object [("exportDate", .text e.date), ("exportedBy", .text e.exportedBy),
    ("calculations", .array (e.calculations.map (Exported.toJson Calculation.fields))),
    ("offers", .array (e.offers.map (Exported.toJson Offer.fields))),
    ("logs", .array (e.logs.map ActivityEntry.toJson)), ("summary", e.summary.toJson)]

end Export

namespace Admin

variable {m : Type} [Medium m]

def pageSize : Nat := 100

def requireAdmin (caller : Caller) : Except ServiceError Unit :=
  if caller.isAdmin then .ok () else .error (.forbidden "admin access required")

/-- A page of the log; a limit of zero stands for the usual one. -/
def logs (caller : Caller) (limit offset : Option Nat) : Service m ActivityPage := do
  requireAdmin caller
  storage (Log.page ((limit.filter (0 < ·)).getD pageSize) (offset.getD 0))

/-! ## Export -/

/-- Rows with the integer id of their owner. -/
abbrev Owned (α : Type) := List (Int × α)

/-- The owner of a row, if it is an integer. -/
def ownerOf? (column : String) (row : Record) : Option Int := (row.get? column).bind Json.signed?

/-- The rows of a table that have an owner, in the order of their item numbers. -/
def children (ofRecord? : Record → Option α) (table column : String) : Work m (Owned α) := do
  let rows ← Office.select ((Select.matching table []).ordered (.bare itemNumberField) false)
  (rows.filterMap fun row => (ownerOf? column row).map (·, row)).mapM fun (id, row) =>
    return (id, ← Office.read ofRecord? row)

/-- The rows of an owner, and those of the others. -/
def takeOwned (id : Int) (rows : Owned α) : List α × Owned α :=
  ((rows.filter (·.1 = id)).map Prod.snd, rows.filter (·.1 ≠ id))

/-- The text of a field. -/
def textField (row : Record) (name : String) : Option String := (row.get? name).bind Json.text?

/-- Read rows and give each its sheets. The sheets of an id go to the first row with it. -/
def exportRows (ofRecord? : Record → Option α) (idOf : α → Int) :
    Owned GarmentItem → Owned Warehousing → List Record → Option (List (Exported α))
  | _, _, [] => some []
  | garments, warehousing, row :: rest => do
    let a ← ofRecord? row
    let (items, garments) := takeOwned (idOf a) garments
    let (sheets, warehousing) := takeOwned (idOf a) warehousing
    let exported := ⟨a, textField row "created_by_email", ⟨items, sheets.head?⟩⟩
    let rest ← exportRows ofRecord? idOf garments warehousing rest
    some (exported :: rest)

/-- All rows of a table with their creators and sheets, the newest first. -/
def exportTable (ofRecord? : Record → Option α) (idOf : α → Int) (table shortName : String)
    (owner : Owner) : Work m (List (Exported α)) := do
  let garments ← children GarmentItem.ofRecord? owner.garmentTable owner.column
  let warehousing ← children CostSheet.ofRecord? owner.warehousingTable owner.column
  let rows ← Office.select (Creators.listing table shortName)
  match exportRows ofRecord? idOf garments warehousing rows with
  | some exported => return exported
  | none => throw .undecodable

/-- Everything that is stored. -/
def exportAll (caller : Caller) : Service m Export := do
  requireAdmin caller
  let calculations ← storage
    (exportTable Calculation.ofRecord? Calculation.id Calculations.table "c" (.calculation 0))
  let offers ← storage (exportTable Offer.ofRecord? Offer.id Offers.table "o" (.offer 0))
  let logs ← storage Log.all
  Log.record .export "database" none none caller (some (.ofFields
    [("totalCalculations", .int calculations.length), ("totalOffers", .int offers.length)]))
  return ⟨(← get).now.timestamp, caller.name, calculations, offers, logs⟩

end Admin

end OfferBook
