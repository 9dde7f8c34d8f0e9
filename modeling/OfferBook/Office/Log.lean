import OfferBook.Model.Account
import OfferBook.Model.Activity
import OfferBook.Office.Basic

/-! # The activity log

Entries are only ever added. An entry that cannot be stored is dropped: what it would have
recorded has already happened.
-/

namespace OfferBook.Log

variable {m : Type} [Medium m]

def table : String := "calculation_logs"

/-- The insertion of an entry. Details are kept as text. -/
def entry (action : Action) (entityType : String) (entityId : Option Int)
    (entityUuid : Option String) (caller : Caller) (details : Option Json) : Insert :=
  .ofFields table
    [("action", .literal (.text action.name)), ("entity_type", .literal (.text entityType)),
     ("entity_id", .literal (Json.ofOption .int entityId)),
     ("entity_uuid", .literal (Json.ofOption .text entityUuid)),
     ("user_id", .literal (.text caller.id)), ("user_name", .literal (.text caller.name)),
     ("details", .literal (Json.ofOption (.text ·.compact) details)), ("created_at", .now)]

/-- Add an entry. This never fails. -/
def record {ε : Type} (action : Action) (entityType : String) (entityId : Option Int)
    (entityUuid : Option String) (caller : Caller) (details : Option Json) :
    OfficeM ε m Unit := do
  let entry := entry action entityType entityId entityUuid caller details
  let _ ← ExceptT.lift (Office.insert entry).run

/-- All entries, the newest first. -/
def newestFirst : Select := (Select.matching table []).ordered (.bare "id") true

/-- Entries of a page, the newest first. -/
def page (limit offset : Nat) : Work m ActivityPage := do
  let entries ← Office.selectAll ActivityEntry.ofRecord?
    { newestFirst with limit := some (.literal (.int limit)),
                       offset := some (.literal (.int offset)) }
  return ⟨entries, ((← Office.document).table table).length, limit, offset⟩

/-- All entries, the newest first. -/
def all : Work m (List ActivityEntry) := Office.selectAll ActivityEntry.ofRecord? newestFirst

end OfferBook.Log
