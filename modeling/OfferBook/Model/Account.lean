import OfferBook.Model.Decoding

/-! # Users

* `Caller` — the user on whose behalf something is done, already authenticated.
* `Account` — a row of the table `users`. Its password is read but never written out.
-/

namespace OfferBook

structure Caller where
  id : String
  name : String
  email : String
  role : String
deriving DecidableEq

namespace Caller

def isAdmin (c : Caller) : Bool := c.role = "admin"

def fieldNames : List String := ["id", "name", "email", "role"]

def ofJson? (v : Json) : Option Caller := do
  let fields ← Fields.ofJson? fieldNames v
  let id ← fields.required "id" Strict.text?
  let name ← fields.required "name" Strict.text?
  let email ← fields.required "email" Strict.text?
  let role ← fields.required "role" Strict.text?
  some ⟨id, name, email, role⟩

def ofText? : String → Option Caller := readText? (.ofNames fieldNames) ofJson?

def toJson (c : Caller) : Json :=
  .object [("id", .text c.id), ("name", .text c.name), ("email", .text c.email),
    ("role", .text c.role)]

end Caller

structure Account where
  id : String
  email : String
  password : Option String
  name : String
  role : String
  active : Bool
  createdAt : Option String
deriving DecidableEq

namespace Account

def caller (a : Account) : Caller := ⟨a.id, a.name, a.email, a.role⟩

def fieldNames : List String :=
  ["id", "email", "password", "name", "role", "active", "created_at"]

def ofJson? (v : Json) : Option Account := do
  let fields ← Fields.ofJson? fieldNames v
  let id ← fields.required "id" Lenient.text
  let email ← fields.required "email" Strict.text?
  let password ← fields.optional "password" Strict.text?
  let name ← fields.orDefault "" "name" Strict.text?
  let role ← fields.orDefault "" "role" Strict.text?
  let active ← fields.orDefault false "active" (always Lenient.flag)
  let createdAt ← fields.optional "created_at" Strict.text?
  some { id, email, password, name, role, active, createdAt }

def ofText? : String → Option Account := readText? (.ofNames fieldNames) ofJson?

def ofRecord? (row : Record) : Option Account := ofJson? (Json.ofRecord row)

def toJson (a : Account) : Json :=
  .object [("id", .text a.id), ("email", .text a.email), ("name", .text a.name),
    ("role", .text a.role), ("active", .bool a.active),
    ("created_at", Json.ofOption .text a.createdAt)]

end Account

end OfferBook
