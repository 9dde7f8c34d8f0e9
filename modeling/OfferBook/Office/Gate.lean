import OfferBook.Office.Log
import OfferBook.Password.Hash

/-! # The gate of the admin area

The admin area is opened with a shared password. After five wrong ones a user is locked out for a
quarter of an hour, counted from the last of them.

* `Secret` — the password as it is configured: a hash, a plain text, or nothing.
* `Moment` — attempts are timed more finely than rows.
* `Gate.verify` — one attempt; attempts of other users do not matter.
-/

namespace OfferBook

inductive Secret
  | hash (text : String)
  | plain (text : String)
  /-- Nothing is configured, and every attempt fails. -/
  | unset
deriving DecidableEq

namespace Secret

/-- The secret of a configured text, without blanks around it; `$2` begins a hash. -/
def ofSetting (value : Option String) : Secret :=
  match (value.map Text.trim).filter (!·.isEmpty) with
  | some v => if v.startsWith "$2" then .hash v else .plain v
  | none => .unset

/-- Whether a password is the right one. -/
def check (password : String) : Secret → Except StorageError Bool
  | .hash text =>
    match Password.Hash.verify? text password with
    | some b => .ok b
    | none => .error .malformedHash
  | .plain text => .ok (text = password)
  | .unset => .ok false

end Secret

/-- Nanoseconds on the clock by which attempts are timed. -/
abbrev Moment := Int

def Moment.ofInstant (t : Instant) : Moment := t * 1000000

/-- The wrong attempts of a user, and the time of the last one. -/
structure Attempts where
  failed : Nat
  last : Moment
deriving DecidableEq

structure Gate where
  secret : Secret
  attempts : Dict Attempts

namespace Gate

/-- Wrong attempts after which a user is locked out. -/
def maxAttempts : Nat := 5

/-- How long a user is locked out, in nanoseconds. -/
def lockout : Nat := 15 * 60 * 1000000000

def closed (secret : Secret) : Gate := ⟨secret, .empty⟩

/-- Nanoseconds since an earlier moment; none have passed since a later one. -/
def elapsed (since now : Moment) : Nat := (now - since).toNat

/-- The attempts that count at a moment: once the lock-out is over they are forgotten. -/
def current (g : Gate) (user : String) (now : Moment) : Attempts :=
  let a := (g.attempts.get? user).getD ⟨0, now⟩
  if lockout < elapsed a.last now then { a with failed := 0 } else a

/-- Nanoseconds as minutes: whole seconds, rounded up to minutes. -/
def minutesOf (nanos : Nat) : Nat := (nanos / 1000000000 + 59) / 60

def setAttempts (g : Gate) (user : String) (a : Attempts) : Gate :=
  { g with attempts := g.attempts.insert user a }

/-- Forget the attempts of a user. -/
def forget (g : Gate) (user : String) : Gate :=
  { g with attempts := g.attempts.erase user }

/-- One attempt of a user. -/
def verify (g : Gate) (user password : String) (now : Moment) : Except ServiceError Unit × Gate :=
  let a := g.current user now
  let g := g.setAttempts user a
  if maxAttempts ≤ a.failed then
    (.error (.tooManyAttempts (minutesOf (lockout - elapsed a.last now))), g)
  else if password.isEmpty then (.error (.validation "password required"), g)
  else match g.secret.check password with
    | .error e => (.error (.internal e), g)
    | .ok false =>
      let failed := a.failed + 1
      (.error (.unauthorized (some (maxAttempts - failed))), g.setAttempts user ⟨failed, now⟩)
    | .ok true => (.ok (), g.forget user)

/-- An attempt at the present instant; a success is recorded in the log. -/
def enter {m : Type} [Medium m] (g : Gate) (caller : Caller) (password : String) :
    Work m (Except ServiceError Unit × Gate) := do
  let (result, g) := g.verify caller.id password (.ofInstant (← get).now)
  if result.isOk then Log.record .adminAccess "admin_panel" none none caller none
  return (result, g)

end Gate

end OfferBook
