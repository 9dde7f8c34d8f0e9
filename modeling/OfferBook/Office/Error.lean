import OfferBook.Json.Printer
import OfferBook.Store.Medium

/-! # What a caller is told when something fails

One constructor for each condition that a caller can tell apart. What goes wrong with the storage
is internal: its cause is kept, but the message does not name it.
-/

namespace OfferBook

inductive ServiceError
  | notFound (what : String)
  | validation (reason : String)
  /-- A password is wrong; where attempts are limited, how many remain. -/
  | unauthorized (remaining : Option Nat)
  | forbidden (reason : String)
  | tooManyAttempts (minutes : Nat)
  | internal (cause : StorageError)
deriving DecidableEq

namespace ServiceError

def message : ServiceError → String
  | .notFound what => "not found: " ++ what
  | .validation reason => "validation error: " ++ reason
  | .unauthorized _ => "wrong password"
  | .forbidden reason => "forbidden: " ++ reason
  | .tooManyAttempts minutes =>
    "too many failed attempts, retry in " ++ intText minutes ++ " minutes"
  | .internal _ => "internal error"

/-- The status with which a web server would answer. -/
def status : ServiceError → Nat
  | .notFound _ => 404
  | .validation _ => 400
  | .unauthorized _ => 401
  | .forbidden _ => 403
  | .tooManyAttempts _ => 429
  | .internal _ => 500

end ServiceError

end OfferBook
