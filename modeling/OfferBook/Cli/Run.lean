import OfferBook.Cli.Invocation
import OfferBook.Config.Settings
import OfferBook.Office.Accounts
import OfferBook.Office.Admin
import OfferBook.Store.JsonFile
import OfferBook.Store.RowFile

/-! # Runs of the command line

* `Command.perform` — a command in an open office; the result is the text to print.
* `Run.onMedium` — a command on the database that a medium holds.
* `Run.onStored` — a command on the database that settings name, given the text of its file.
-/

namespace OfferBook

/-- Why a run ends without an answer. -/
inductive RunFailure
  /-- The settings file is missing. -/
  | noSettings
  /-- The settings cannot be understood. -/
  | badSettings
  /-- The database cannot be opened. -/
  | closed
  /-- There is no administrator in whose name a command could be carried out. -/
  | noAdministrator
  | storage (e : StorageError)
  | service (e : ServiceError)
deriving DecidableEq

namespace RunFailure

def message : RunFailure → String
  | .noSettings => "config file not found"
  | .badSettings => "reading config"
  | .closed => "opening database"
  | .noAdministrator => "no active admin account, make one with the command seed first"
  | .storage _ => "the database cannot be read or written"
  | .service e => e.message

end RunFailure

abbrev CommandM (m : Type) := OfficeM RunFailure m

namespace Command

variable {m : Type} [Medium m]

/-- The caller in whose name commands are carried out. -/
def administrator : CommandM m Caller := do
  match ← ExceptT.adapt RunFailure.storage Accounts.firstActiveAdmin with
  | some caller => return caller
  | none => throw .noAdministrator

/-- Carry out a command. -/
def perform (settings : Settings) : Command → CommandM m String
  | .seed => do
    let account := settings.seedAccount
    let id ← ExceptT.adapt RunFailure.storage
      (Accounts.seedAdmin settings.hashCost account.email account.name account.password)
    return (Json.object [("created", .bool id.isSome), ("id", Json.ofOption .text id)]).compact
      ++ "\n"
  | .logs limit offset => do
    let caller ← administrator
    let page ← ExceptT.adapt RunFailure.service (Admin.logs caller (some limit) (some offset))
    return page.toJson.pretty ++ "\n"
  | .export => do
    let caller ← administrator
    let all ← ExceptT.adapt RunFailure.service (Admin.exportAll caller)
    return all.toJson.pretty ++ "\n"

end Command

/-- The outcome of a run on a database file: what is printed, the text of the file afterwards, and
    what is left of the supply. -/
structure Run where
  result : Except RunFailure String
  stored : Option String
  supply : Supply

namespace Run

/-- Open an office on a medium and carry out a command. -/
def onMedium [Medium m] (settings : Settings) (command : Command) (now : Instant)
    (supply : Supply) (medium : m) : Except RunFailure String × m × Supply :=
  match Store.openFrom medium with
  | (.error _, medium) => (.error .closed, medium, supply)
  | (.ok document, medium) =>
    let (result, office) := (command.perform settings).run.run ⟨⟨document, medium⟩, now, supply⟩
    (result, office.store.medium, office.supply)

/-- Carry out a command on the database whose file has a certain text; none stands for no file. -/
def onStored (settings : Settings) (command : Command) (now : Instant) (supply : Supply)
    (stored : Option String) : Run :=
  match settings.backend with
  | .json =>
    let (result, medium, supply) := onMedium settings command now supply (⟨stored⟩ : JsonFile)
    ⟨result, medium.text, supply⟩
  | .sqlite =>
    match RowFile.ofText? (stored.getD "") with
    | none => ⟨.error .closed, stored, supply⟩
    | some rows =>
      let (result, medium, supply) := onMedium settings command now supply rows
      ⟨result, some medium.text, supply⟩

end Run

end OfferBook
