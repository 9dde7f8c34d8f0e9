import OfferBook.Model.Calculation
import OfferBook.Office.Basic

/-! # Cost sheets of calculations and offers

Sheets are rows of tables of their own, which name the calculation or the offer that they belong
to. Offers have tables apart from those of calculations, with the same columns.
-/

namespace OfferBook

/-- To what a cost sheet belongs. -/
inductive Owner
  | calculation (id : Int)
  | offer (id : Int)
deriving DecidableEq

namespace Owner

def id : Owner → Int
  | .calculation id => id
  | .offer id => id

/-- The column that names the owner. -/
def column : Owner → String
  | .calculation _ => "calculation_id"
  | .offer _ => "offer_id"

def garmentTable : Owner → String
  | .calculation _ => "garment_data"
  | .offer _ => "garment_offer_data"

def warehousingTable : Owner → String
  | .calculation _ => "warehousing_data"
  | .offer _ => "warehousing_offer_data"

/-- The condition that a row belongs to the owner. -/
def owns (o : Owner) : Condition := .is o.column (.int o.id)

end Owner

namespace LineItems

variable {m : Type} [Medium m]

/-- Most garments of one calculation or offer. -/
def maxItems : Nat := 10

/-- The first number below one among items from a place on. -/
def badNumber? (place : Nat) : List GarmentItemInput → Option Int
  | [] => none
  | i :: rest =>
    let n := i.numberAt place
    if n < 1 then some n else badNumber? (place + 1) rest

/-- Refuse lists that are too long, and numbers below one. -/
def validate (items : List GarmentItemInput) : Except ServiceError Unit :=
  if maxItems < items.length then
    .error (.validation ("at most " ++ intText maxItems ++ " items allowed, got "
      ++ intText items.length))
  else match badNumber? 0 items with
    | some n => .error (.validation ("item numbers start at 1, got " ++ intText n))
    | none => .ok ()

/-- The row of an item at a place. -/
def itemRow (owner : Owner) (place : Nat) (item : GarmentItemInput) : Insert :=
  .ofValues owner.garmentTable
    (owner.column :: itemNumberField :: SheetLayout.garment.columns)
    (.int owner.id :: .int (item.numberAt place) :: item.costs.normalize.values)

/-- Store items one by one, counting places from `place`. -/
def insertItemsFrom (owner : Owner) (place : Nat) : List GarmentItemInput → Work m Unit
  | [] => return ()
  | item :: rest => do
    let _ ← Office.insert (itemRow owner place item)
    insertItemsFrom owner (place + 1) rest

def insertItems (owner : Owner) (items : List GarmentItemInput) : Work m Unit :=
  insertItemsFrom owner 0 items

def warehousingRow (owner : Owner) (input : WarehousingInput) : Insert :=
  .ofValues owner.warehousingTable (owner.column :: SheetLayout.warehousing.columns)
    (.int owner.id :: input.normalize.values)

def insertWarehousing (owner : Owner) (input : WarehousingInput) : Work m Unit := do
  let _ ← Office.insert (warehousingRow owner input)

/-- Store the sheets of a kind; those of the other kind do not count. -/
def insertSheets (owner : Owner) (kind : SheetKind) (items : List GarmentItemInput)
    (warehousing : Option WarehousingInput) : Work m Unit :=
  match kind, warehousing with
  | .garment, _ => insertItems owner items
  | .warehousing, some w => insertWarehousing owner w
  | .warehousing, none => return ()

/-- The items of an owner in the order of their numbers. -/
def items (owner : Owner) : Work m (List GarmentItem) :=
  Office.selectAll GarmentItem.ofRecord?
    ((Select.matching owner.garmentTable [owner.owns]).ordered (.bare itemNumberField) false)

/-- The warehousing sheet of an owner. -/
def warehousing (owner : Owner) : Work m (Option Warehousing) :=
  Office.selectFirst CostSheet.ofRecord? (.matching owner.warehousingTable [owner.owns])

/-- The sheets of a kind. -/
def sheets (owner : Owner) : SheetKind → Work m Sheets
  | .garment => return ⟨← items owner, none⟩
  | .warehousing => return ⟨[], ← warehousing owner⟩

end LineItems

end OfferBook
