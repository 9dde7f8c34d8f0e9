import OfferBook.Config.Environment
import OfferBook.Config.Toml.Reading
import OfferBook.Model.Offer
import OfferBook.Office.Gate
import OfferBook.Path

/-! # Settings

What an office can set in a file and in the environment. Every setting has a default.

* `Settings.ofValue?` — the settings of a table. Names that are no setting do not count.
* `Settings.parse?` — the settings of a file's text alone.
* `Settings.load?` — the settings of a file, if there is one, below those of the environment.
-/

namespace OfferBook

/-- How the document is kept on the disk. -/
inductive Backend
  /-- As one text for people to read. -/
  | json
  /-- As named rows. -/
  | sqlite
deriving DecidableEq

namespace Backend

def names : List (String × Backend) := [("json", .json), ("sqlite", .sqlite)]

def name : Backend → String
  | .json => "json"
  | .sqlite => "sqlite"

def defaultFile : Backend → String
  | .json => "database.json"
  | .sqlite => "database.sqlite"

end Backend

/-- The first administrator's account. -/
structure SeedAccount where
  email : String
  name : String
  password : String
deriving DecidableEq

namespace SeedAccount

def standard : SeedAccount := ⟨"admin@fhd.agency", "Administrator", "Admin@123"⟩

def fieldNames : List String := ["email", "name", "password"]

/-- The standard account with the given fields in place of its own. -/
def ofFields? (fields : Fields) : Option SeedAccount := do
  let email ← fields.orDefault standard.email "email" Strict.text?
  let name ← fields.orDefault standard.name "name" Strict.text?
  let password ← fields.orDefault standard.password "password" Strict.text?
  some { email, name, password }

def toJson (a : SeedAccount) : Json :=
  .object [("email", .text a.email), ("name", .text a.name), ("password", .text a.password)]

end SeedAccount

structure Settings where
  dataDir : String
  backend : Backend
  /-- The name of the database file; none stands for the backend's default. -/
  fileName : Option String
  offerPrefix : String
  adminPassword : Option String
  seedAccount : SeedAccount
  letterhead : Letterhead
  hashCost : Nat
deriving DecidableEq

namespace Settings

def standard : Settings where
  dataDir := "data"
  backend := .json
  fileName := none
  offerPrefix := "FHD"
  adminPassword := none
  seedAccount := .standard
  letterhead := .standard
  hashCost := 12

/-! ## Reading -/

/-- The fields of a group of settings, given by name or as a list in the order of the names. -/
def groupFields? (names : List String) : ConfigValue → Option Fields
  | .table fields => some (ConfigValue.fieldsToJson fields)
  | .array items => some (names.zip (ConfigValue.itemsToJson items))
  | _ => none

def text? : ConfigValue → Option String
  | .text s => some s
  | _ => none

/-- A word of 32 bits. -/
def cost? : ConfigValue → Option Nat
  | .integer n => if 0 ≤ n ∧ n.toNat < shortLimit then some n.toNat else none
  | _ => none

def backend? (v : ConfigValue) : Option Backend := (text? v).bind (Entries.lookup · Backend.names)

def seedAccount? (v : ConfigValue) : Option SeedAccount :=
  (groupFields? SeedAccount.fieldNames v).bind SeedAccount.ofFields?

def letterhead? (v : ConfigValue) : Option Letterhead :=
  (groupFields? Letterhead.fieldNames v).bind Letterhead.ofFields?

/-- A password of any kind of value, as text. -/
def password? (v : ConfigValue) : Option (Option String) := some (Lenient.text v.toJson)

/-- The name of the admin password in files. -/
def passwordKey : String := "admin_password"

/-- A setting that may be left out. -/
def setting (default : α) (name : String) (read : ConfigValue → Option α)
    (fields : List (String × ConfigValue)) : Option α :=
  match Entries.lookup name fields with
  | some v => read v
  | none => some default

def ofFields? (fields : List (String × ConfigValue)) : Option Settings := do
  let dataDir ← setting standard.dataDir "data_dir" text? fields
  let backend ← setting standard.backend "backend" backend? fields
  let fileName ← setting standard.fileName "file_name" (fun v => (text? v).map some) fields
  let offerPrefix ← setting standard.offerPrefix "offer_prefix" text? fields
  let adminPassword ← setting standard.adminPassword passwordKey password? fields
  let seedAccount ← setting standard.seedAccount "seed_admin" seedAccount? fields
  let letterhead ← setting standard.letterhead "letterhead" letterhead? fields
  let hashCost ← setting standard.hashCost "bcrypt_cost" cost? fields
  some { dataDir, backend, fileName, offerPrefix, adminPassword, seedAccount, letterhead,
         hashCost }

def ofValue? : ConfigValue → Option Settings
  | .table fields => ofFields? fields
  | _ => none

/-! ## The environment -/

/-- The variables with the admin password. A later one counts more. -/
def passwordVariables : List String := ["CALC_ADMIN_PASSWORD", "CALC_ADMIN_PASSWORD_HASH"]

/-- The text of a variable; names differ in more than the case of their letters. -/
def readVariable? (environment : List (String × String)) (name : String) : Option String :=
  (environment.reverse.find? fun e => Text.equalsIgnoringCase (Text.trim e.1) name).map Prod.snd

/-- Lay the admin password of a variable over a table. -/
def overlayPassword (environment : List (String × String)) (below : ConfigValue) (name : String) :
    ConfigValue :=
  match readVariable? environment name with
  | some text => below.overlay (.table [(passwordKey, Variable.value text)])
  | none => below

/-- Lay the environment over a table. -/
def overlayEnvironment (environment : List (String × String)) (below : ConfigValue) :
    ConfigValue :=
  passwordVariables.foldl (overlayPassword environment) below

/-! ## Sources -/

/-- The settings of a text alone. -/
def parse? (text : String) : Option Settings := (Toml.read? text).bind ofValue?

/-- The settings of a file's text, if a file is given, and of the environment above it. -/
def load? (file : Option String) (environment : List (String × String)) : Option Settings := do
  let below ← match file with
    | some text => Toml.read? text
    | none => some (.table [])
  ofValue? (overlayEnvironment environment below)

/-! ## What follows from settings -/

/-- The path of the database file. -/
def databasePath (s : Settings) : String :=
  Path.join s.dataDir (s.fileName.getD s.backend.defaultFile)

def adminSecret (s : Settings) : Secret := .ofSetting s.adminPassword

def toJson (s : Settings) : Json :=
  .object [("data_dir", .text s.dataDir), ("backend", .text s.backend.name),
    ("file_name", Json.ofOption .text s.fileName), ("offer_prefix", .text s.offerPrefix),
    ("admin_password", Json.ofOption .text s.adminPassword),
    ("seed_admin", s.seedAccount.toJson), ("letterhead", s.letterhead.toJson),
    ("bcrypt_cost", .int s.hashCost)]

end Settings

end OfferBook
