import OfferBook.Office.Error
import OfferBook.OfferNumber
import OfferBook.Password.Blowfish
import OfferBook.Statement.Compose
import OfferBook.Store.Basic

/-! # The office

What the services work with: the store, the present instant, and a supply of fresh values.

* `Work` — what can fail only in the storage; `Service` — what can fail for the caller, too.
  Either leaves an office behind when it fails, with all that was done before.
* `Office.select`, `Office.change` — statements on the store at the present instant.
* `Office.allocate` — an offer number from the counter of a year; `numbering` — rows that get one.
-/

namespace OfferBook

/-- Fresh identifiers and salts, taken one after the other. -/
structure Supply where
  uuid : Nat → String
  uuidsTaken : Nat
  salt : Nat → Password.Salt
  saltsTaken : Nat

structure Office (m : Type) where
  store : Store m
  now : Instant
  supply : Supply

/-- What is done in an office and may fail. -/
abbrev OfficeM (ε m : Type) := ExceptT ε (StateM (Office m))

abbrev Work (m : Type) := OfficeM StorageError m

abbrev Service (m : Type) := OfficeM ServiceError m

/-- Work as part of a service: its failures are internal. -/
def storage (work : Work m α) : Service m α := ExceptT.adapt ServiceError.internal work

namespace Office

variable {m : Type}

/-- Work on the store at the present instant. -/
def onStore (work : Instant → StoreM m α) : Work m α := do
  let office ← get
  let (result, store) := (work office.now).run.run office.store
  set { office with store }
  match result with
  | .ok a => return a
  | .error e => throw e

def document : Work m Document := return (← get).store.document

def freshUuid : Work m String := modifyGet fun office =>
  let supply := office.supply
  (supply.uuid supply.uuidsTaken,
    { office with supply := { supply with uuidsTaken := supply.uuidsTaken + 1 } })

def freshSalt : Work m Password.Salt := modifyGet fun office =>
  let supply := office.supply
  (supply.salt supply.saltsTaken,
    { office with supply := { supply with saltsTaken := supply.saltsTaken + 1 } })

/-- A row as a typed record. -/
def read (ofRecord? : Record → Option α) (row : Record) : Work m α :=
  match ofRecord? row with
  | some a => return a
  | none => throw .undecodable

variable [Medium m]

/-- The rows of a selection. -/
def select (s : Select) : Work m (List Record) := onStore fun now => Store.select now [] s

/-- The rows of a selection as typed records. -/
def selectAll (ofRecord? : Record → Option α) (s : Select) : Work m (List α) := do
  (← select s).mapM (read ofRecord?)

/-- The first row of a selection as a typed record. -/
def selectFirst (ofRecord? : Record → Option α) (s : Select) : Work m (Option α) := do
  match (← select s).head? with
  | some row => return some (← read ofRecord? row)
  | none => return none

/-- Insert a row. -/
def insert (s : Insert) : Work m Execution := onStore fun now => Store.commit (s.apply now [])

/-- Insert a row that gets an integer for its id. -/
def insertNumbered (s : Insert) : Work m Int := do
  match (← insert s).rowId? with
  | some id => return id
  | none => throw .noId

/-- Change rows; the result is how many. -/
def update (s : Update) : Work m Nat := do
  return (← onStore fun now => Store.commit (s.apply now [])).changes

/-- A fresh offer number of a year. Each call uses up a value of the year's counter. -/
def allocateForYear (offerPrefix : String) (year version : Int) : Work m OfferNumber := do
  let counter ← onStore fun now => Store.bumpCounter now (OfferNumber.counterKey year)
  return .ofCounter offerPrefix year counter version

/-- A fresh offer number of the present year. -/
def allocate (offerPrefix : String) (version : Int) : Work m OfferNumber := do
  allocateForYear offerPrefix (← get).now.year version

end Office

/-- Give the rows of a table with an id a number. -/
def numbering (table : String) (id : Int) (n : OfferNumber) : Update :=
  ⟨table, [("offer_number", .literal (.text n.text))], [.is "id" (.int id)]⟩

end OfferBook
