import OfferBook.Json.Basic

/-! # Values of settings

What a settings file or a variable of the environment can say.

* `ConfigValue.toJson` — the value as free-form data.
* `ConfigValue.overlay` — later values laid over earlier ones, tables field by field.
-/

namespace OfferBook

inductive ConfigValue
  | text (s : String)
  | integer (n : Int)
  | double (d : Double)
  /-- An infinite double, or one that is no number. -/
  | nonFinite
  | bool (b : Bool)
  | array (items : List ConfigValue)
  | table (fields : List (String × ConfigValue))

namespace ConfigValue

instance : Inhabited ConfigValue := ⟨.table []⟩

mutual

/-- The value as free-form data; null stands for doubles that are not finite. -/
def toJson : ConfigValue → Json
  | .text s => .text s
  | .integer n => .int n
  | .double d => .double d
  | .nonFinite => .null
  | .bool b => .bool b
  | .array items => .array (itemsToJson items)
  | .table fields => .ofFields (fieldsToJson fields)

def itemsToJson : List ConfigValue → List Json
  | [] => []
  | v :: r => v.toJson :: itemsToJson r

def fieldsToJson : List (String × ConfigValue) → List (String × Json)
  | [] => []
  | (k, v) :: r => (k, v.toJson) :: fieldsToJson r

end

mutual

/-- Lay a value over another one. Two tables are combined; any other value hides what is below. -/
def overlay (below : ConfigValue) : (above : ConfigValue) → ConfigValue
  | .table fields =>
    match below with
    | .table old => .table (overlayFields old fields)
    | _ => .table fields
  | above => above

/-- Lay fields over the fields of a table, one after the other. -/
def overlayFields (old : List (String × ConfigValue)) :
    List (String × ConfigValue) → List (String × ConfigValue)
  | [] => old
  | (k, v) :: r =>
    let value := match Entries.lookup k old with
      | some below => overlay below v
      | none => v
    overlayFields (Entries.insert k value old) r

end

theorem overlay_table (old fields : List (String × ConfigValue)) :
    (table old).overlay (.table fields) = .table (overlayFields old fields) := by
  rw [overlay]

end ConfigValue

end OfferBook
