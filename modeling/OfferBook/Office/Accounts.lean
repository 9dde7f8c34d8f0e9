import OfferBook.Model.Account
import OfferBook.Office.Basic
import OfferBook.Password.Hash

/-! # User accounts

Users are told apart and let in elsewhere; here their accounts are made and their passwords are
checked and changed.
-/

namespace OfferBook.Accounts

variable {m : Type} [Medium m]

def table : String := "users"

def adminRole : String := "admin"

/-- The hash of a new password. -/
def hash (cost : Nat) (password : String) : Work m String := do
  match Password.Hash.make? cost (← Office.freshSalt) password with
  | some h => return h.text
  | none => throw .invalidCost

/-- The row of the first administrator. -/
def adminRow (id email hashed name : String) : Insert :=
  .ofFields table
    [("id", .literal (.text id)), ("email", .literal (.text email)),
     ("password", .literal (.text hashed)), ("name", .literal (.text name)),
     ("role", .literal (.text adminRole)), ("active", .literal (.bool true)), ("created_at", .now)]

/-- Make the first administrator, unless there is an account with the address; the result is the
    new id. -/
def seedAdmin (cost : Nat) (email name password : String) : Work m (Option String) := do
  let existing ← Office.select (.matching table [.is "email" (.text email)])
  if existing.isEmpty then
    let id ← Office.freshUuid
    let hashed ← hash cost password
    let _ ← Office.insert (adminRow id email hashed name)
    return some id
  else return none

/-- The first account of a selection. -/
def find (s : Select) : Work m (Option Account) := Office.selectFirst Account.ofRecord? s

/-- What is asked of the active user with an id. -/
def active (id : String) : Select :=
  (Select.matching table [.is "id" (.text id), .is "active" (.int 1)]).only
    ["id", "name", "email", "role"]

def activeAdmin : Select :=
  { Select.matching table [.is "role" (.text adminRole), .is "active" (.int 1)] with
    limit := some (.literal (.int 1)) }

/-- The active user with an id. -/
def findActive (id : String) : Work m (Option Caller) := do
  return (← find (active id)).map Account.caller

/-- The first active administrator. -/
def firstActiveAdmin : Work m (Option Caller) := do
  return (← find activeAdmin).map Account.caller

/-- Whether a password is the account's. An account without a password has none. -/
def passwordMatches (a : Account) (password : String) : Work m Bool :=
  match a.password with
  | none => return false
  | some stored =>
    match Password.Hash.verify? stored password with
    | some b => return b
    | none => throw .malformedHash

/-- Give the account of a user a password. -/
def setPassword (id hashed : String) : Update :=
  ⟨table, [("password", .literal (.text hashed))], [.is "id" (.text id)]⟩

/-- Give the caller's account a new password, the current one being right. -/
def changePassword (cost : Nat) (caller : Caller) (current new : String) : Service m Unit := do
  if current.isEmpty || new.isEmpty then
    throw (.validation "current and new password required")
  match ← storage (find (.matching table [.is "id" (.text caller.id)])) with
  | none => throw (.notFound ("user " ++ caller.id))
  | some a =>
    if ← storage (passwordMatches a current) then
      let hashed ← storage (hash cost new)
      let _ ← storage (Office.update (setPassword caller.id hashed))
    else throw (.unauthorized none)

end OfferBook.Accounts
