import OfferBook.Query.Change
import OfferBook.Query.Select
import OfferBook.Statement.Reading
import OfferBook.Store.Medium

/-! # The store

A document in memory together with the medium that keeps it:

* `Store.openFrom` — take up what the medium holds, or start afresh where that is nothing or
  cannot be read.
* `Store.commit` — change the document and save it; a change that cannot be saved is undone.
* `Store.execute` — one statement. Whatever changes the document is saved exactly once.
* `Store.run`, `Store.all`, `Store.first` — a statement's text. A text that is no statement
  changes nothing and finds nothing.
-/

namespace OfferBook

structure Store (m : Type) where
  document : Document
  medium : m

/-- What is done with a store; a failure leaves a store behind, too. -/
abbrev StoreM (m : Type) := ExceptT StorageError (StateM (Store m))

inductive Outcome
  | rows (rows : List Record)
  | changed (execution : Execution)
deriving DecidableEq

namespace Store

variable {m : Type} [Medium m]

/-- Take up the document of a medium. Known tables that it lacks are added without a save; a
    fresh document is saved at once. -/
def openFrom (medium : m) : Except StorageError Document × m :=
  match Medium.load medium with
  | .ok (some doc) => (.ok doc.ensureKnown, medium)
  | _ =>
    let (result, medium) := Medium.save Document.fresh medium
    (result.map fun _ => Document.fresh, medium)

/-- Change the document and save it. -/
def commit (change : Document → α × Document) : StoreM m α := do
  let store ← get
  let (a, doc) := change store.document
  let (result, medium) := Medium.save doc store.medium
  match result with
  | .ok () =>
    set (⟨doc, medium⟩ : Store m)
    return a
  | .error e =>
    set (⟨store.document, medium⟩ : Store m)
    throw e

/-- The rows of a selection. -/
def select (now : Instant) (params : List Json) (s : Select) : StoreM m (List Record) := do
  return s.rows now params (← get).document

def execute (now : Instant) (params : List Json) : Statement → StoreM m Outcome
  | .select s => return .rows (← select now params s)
  | .insert s => return .changed (← commit (s.apply now params))
  | .update s => return .changed (← commit (s.apply now params))
  | .delete s => return .changed (← commit (s.apply now params))

/-- Execute a text for its effect. -/
def run (now : Instant) (params : List Json) (sql : String) : StoreM m Execution := do
  match Statement.parse? sql with
  | none => return .nothing
  | some s =>
    match ← execute now params s with
    | .changed e => return e
    | .rows _ => return .nothing

/-- Execute a text for its rows. -/
def all (now : Instant) (params : List Json) (sql : String) : StoreM m (List Record) := do
  match Statement.parse? sql with
  | none => return []
  | some s =>
    match ← execute now params s with
    | .rows rows => return rows
    | .changed _ => return []

/-- Execute a text for its first row. -/
def first (now : Instant) (params : List Json) (sql : String) : StoreM m (Option Record) :=
  return (← all now params sql).head?

/-- Count a named counter up. -/
def bumpCounter (now : Instant) (key : String) : StoreM m Int :=
  commit (Document.advanceCounter now key)

end Store

end OfferBook
