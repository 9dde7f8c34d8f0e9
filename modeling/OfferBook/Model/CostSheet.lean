import OfferBook.Model.Decoding

/-! # Cost sheets

A cost sheet has numeric columns and text columns, in a fixed order:

* `SheetLayout` — the names of the columns; `SheetLayout.garment` for the import costing of one
  garment, `SheetLayout.warehousing` for prices of services.
* `CostSheet` — a sheet as it is stored, with doubles.
* `SheetInput` — a sheet as it is typed in, with amounts in German notation.
* `SheetInput.normalize` — from the one to the other.
* `GarmentItem`, `GarmentItemInput` — the sheet of a garment with its number in a list.
-/

namespace OfferBook

/-- The columns of a cost sheet. -/
structure SheetLayout where
  numbers : List String
  texts : List String
deriving DecidableEq

namespace SheetLayout

/-- All columns, the numeric ones first. -/
def columns (l : SheetLayout) : List String := l.numbers ++ l.texts

/-- Import costing of one garment. -/
def garment : SheetLayout where
  numbers :=
    ["fob_preis_usd", "kurs", "fob_preis_eur", "fracht", "zoll_prozent", "zoll", "aufbereitung",
     "selbstkosten", "fhd_aufschlag_prozent", "fhd_aufschlag_wert", "vk_roh", "vk_gesetzt",
     "provision_agent_prozent", "provision_agent_wert", "marge_real", "luftfrachtzuschlag"]
  texts :=
    ["style", "composition", "gg", "material", "lieferung", "lieferant", "lieferzeit",
     "produktionszeitraum", "frachtzeitraum", "bemerkungen"]

/-- Prices of warehousing services by unit, hour and area. -/
def warehousing : SheetLayout where
  numbers :=
    ["handling_in_entladung", "lagerplatz_verbringen", "kommissionierung_b2b",
     "kommissionierung_b2c", "zusatzarbeiten_stunden", "handling_out", "anmeldung_avisierung",
     "lieferscheintasche", "kartonage1_wert", "kartonage2_wert", "kartonage3_wert",
     "annahme_entsorgung", "grobsichtung", "einhuellen_polybag", "rueckfuehrung_bestand",
     "flaeche_m2", "preis_m2", "inventur_stunden", "etiketten_drucken_stunden",
     "etikettierung_stunden"]
  texts := ["kartonage1_text", "kartonage2_text", "kartonage3_text", "bemerkungen"]

end SheetLayout

/-- Read a value for each of some columns. -/
def readColumns (read : String → Option α) :
    (columns : List String) → Option { values : List α // values.length = columns.length }
  | [] => some ⟨[], rfl⟩
  | c :: rest => do
    let v ← read c
    let ⟨vs, h⟩ ← readColumns read rest
    some ⟨v :: vs, by simp [h]⟩

/-! ## Sheets as stored -/

/-- A value, or none, for each column. -/
structure CostSheet (l : SheetLayout) where
  numbers : List (Option Double)
  texts : List (Option String)
  numbers_length : numbers.length = l.numbers.length
  texts_length : texts.length = l.texts.length
deriving DecidableEq

namespace CostSheet

variable {l : SheetLayout}

/-- The values in the order of the columns. -/
def values (s : CostSheet l) : List Json :=
  s.numbers.map (Json.ofOption .double) ++ s.texts.map (Json.ofOption .text)

/-- Each column with its value. -/
def fields (s : CostSheet l) : Fields := l.columns.zip s.values

def toJson (s : CostSheet l) : Json := .object s.fields

/-- Read the columns among some fields. -/
def ofFields? (fields : Fields) : Option (CostSheet l) := do
  let numbers ← readColumns (fields.orDefault none · (always Lenient.number)) l.numbers
  let texts ← readColumns (fields.orDefault none · (always Lenient.text)) l.texts
  some ⟨numbers, texts, numbers.property, texts.property⟩

def ofJson? (v : Json) : Option (CostSheet l) := (Fields.ofJson? l.columns v).bind ofFields?

def ofText? : String → Option (CostSheet l) := readText? (.ofNames l.columns) ofJson?

def ofRecord? (row : Record) : Option (CostSheet l) := ofJson? (Json.ofRecord row)

end CostSheet

/-! ## Sheets as typed in -/

/-- A number of a form: a number, or a text in German notation. -/
inductive Amount
  | number (d : Double)
  | text (s : String)
deriving DecidableEq

namespace Amount

def value : Amount → Option Double
  | .number d => some d
  | .text s => German.parse? s

def ofJson? : Json → Option Amount
  | .number n => some (.number n.toDouble)
  | .text s => some (.text s)
  | _ => none

def ofText? : String → Option Amount := readText? .whole ofJson?

def toJson : Amount → Json
  | .number d => .double d
  | .text s => .text s

end Amount

/-- An entry, or none, for each column. -/
structure SheetInput (l : SheetLayout) where
  numbers : List (Option Amount)
  texts : List (Option String)
  numbers_length : numbers.length = l.numbers.length
  texts_length : texts.length = l.texts.length
deriving DecidableEq

namespace SheetInput

variable {l : SheetLayout}

def fields (s : SheetInput l) : Fields :=
  l.columns.zip
    (s.numbers.map (Json.ofOption Amount.toJson) ++ s.texts.map (Json.ofOption .text))

def toJson (s : SheetInput l) : Json := .object s.fields

def ofFields? (fields : Fields) : Option (SheetInput l) := do
  let numbers ← readColumns (fields.optional · Amount.ofJson?) l.numbers
  let texts ← readColumns (fields.optional · Strict.text?) l.texts
  some ⟨numbers, texts, numbers.property, texts.property⟩

def ofJson? (v : Json) : Option (SheetInput l) := (Fields.ofJson? l.columns v).bind ofFields?

/-- The columns of a layout. -/
def shape (l : SheetLayout) : Shape := .ofNames l.columns

def ofText? : String → Option (SheetInput l) := readText? (shape l) ofJson?

/-- Read the amounts; what is no amount and what is blank becomes none. -/
def normalize (s : SheetInput l) : CostSheet l where
  numbers := s.numbers.map (·.bind Amount.value)
  texts := s.texts.map (·.filter (!Text.isBlankText ·))
  numbers_length := by simp [s.numbers_length]
  texts_length := by simp [s.texts_length]

end SheetInput

/-! ## Garments -/

abbrev GarmentCosts := CostSheet .garment
abbrev Warehousing := CostSheet .warehousing
abbrev GarmentInput := SheetInput .garment
abbrev WarehousingInput := SheetInput .warehousing

/-- The field with the number of a garment. -/
def itemNumberField : String := "item_number"

structure GarmentItem where
  number : Int
  costs : GarmentCosts
deriving DecidableEq

namespace GarmentItem

def ofJson? (v : Json) : Option GarmentItem := do
  let fields ← Fields.ofObject? (itemNumberField :: SheetLayout.garment.columns) v
  let number ← fields.required itemNumberField Strict.integer?
  let costs ← CostSheet.ofFields? fields
  some ⟨number, costs⟩

/-- All fields are read, also those that are not known. -/
def ofText? : String → Option GarmentItem := readText? .whole ofJson?

def ofRecord? (row : Record) : Option GarmentItem := ofJson? (Json.ofRecord row)

def toJson (i : GarmentItem) : Json :=
  .object ((itemNumberField, .int i.number) :: i.costs.fields)

end GarmentItem

structure GarmentItemInput where
  /-- The place in the list stands in for a number that is not given. -/
  number : Option Int
  costs : GarmentInput
deriving DecidableEq

namespace GarmentItemInput

def ofJson? (v : Json) : Option GarmentItemInput := do
  let fields ← Fields.ofObject? (itemNumberField :: SheetLayout.garment.columns) v
  let number ← fields.optional itemNumberField Strict.integer?
  let costs ← SheetInput.ofFields? fields
  some ⟨number, costs⟩

/-- All fields are read, also those that are not known. -/
def ofText? : String → Option GarmentItemInput := readText? .whole ofJson?

def toJson (i : GarmentItemInput) : Json :=
  .object ((itemNumberField, Json.ofOption .int i.number) :: i.costs.fields)

/-- The number of the item at a place counted from zero. -/
def numberAt (i : GarmentItemInput) (place : Nat) : Int := i.number.getD (place + 1)

end GarmentItemInput

end OfferBook
