import OfferBook.Cli.Files
import OfferBook.Text.Uuid
import Std.Time.DateTime.Timestamp

/-! # The command line

Reads the settings, the environment, the clock and the database file, leaves the work to
`Run.onStored`, and writes down what has changed.
-/

namespace OfferBook.Console

/-- The text of a file; none where it cannot be read. -/
def readText? (path : String) : IO (Option String) := do
  try return some (← IO.FS.readFile path) catch _ => return none

def randomBytes (count : Nat) : IO (List UInt8) := do
  return (← IO.getRandomBytes (USize.ofNat count)).toList

/-- Identifiers and salts for one run, which takes at most one of each. -/
def randomSupply : IO Supply := do
  let uuid := Uuid.ofBytes (← randomBytes 16)
  let bytes ← randomBytes 16
  return ⟨fun _ => uuid, 0, fun _ => Vector.ofFn fun i => bytes.getD i.val 0, 0⟩

def presentInstant : IO Instant := do
  return (← Std.Time.Timestamp.now).toMillisecondsSinceUnixEpoch.val

/-- The variables with the admin password. -/
def passwordEnvironment : IO (List (String × String)) := do
  Settings.passwordVariables.filterMapM fun name => do
    return (← IO.getEnv name).map (name, ·)

/-- Make a directory, unless it is the working directory. -/
def makeDirectory (path : String) : IO Unit := do
  unless path.isEmpty do IO.FS.createDirAll path

/-- Write a text beside a file and put it in its place. -/
def replaceText (path text : String) : IO Unit := do
  let interim := JsonPlace.interim path
  IO.FS.writeFile interim text
  IO.FS.rename interim path

/-- Carry out a command on the database in a file. -/
def carryOutOn (path : String) (settings : Settings) (command : Command) :
    IO (Except RunFailure String) := do
  let stored ← readText? path
  let run := Run.onStored settings command (← presentInstant) (← randomSupply) stored
  match run.stored with
  | some text => if run.stored ≠ stored then replaceText path text
  | none => pure ()
  return run.result

/-- Carry out a command on the database that settings name. -/
def carryOut (settings : Settings) (command : Command) : IO (Except RunFailure String) := do
  let path := settings.databasePath
  makeDirectory settings.dataDir
  match settings.backend with
  | .json =>
    makeDirectory ((Path.ancestors path).headD "")
    carryOutOn path settings command
  | .sqlite =>
    match RowPlace.ofAddress? path with
    | some (.file path mustExist) =>
      if mustExist && (← readText? path).isNone then return .error .closed
      else carryOutOn path settings command
    | some .memory =>
      return (Run.onStored settings command (← presentInstant) (← randomSupply) none).result
    | none => return .error .closed

/-- The settings of a file, if one is given, and of the environment. -/
def loadSettings (file : Option String) : IO (Except RunFailure Settings) := do
  let text ← match file with
    | none => pure none
    | some path => match ← readText? path with
      | some text => pure (some text)
      | none => return .error .noSettings
  match Settings.load? text (← passwordEnvironment) with
  | some s => return .ok s
  | none => return .error .badSettings

/-- Tell why a run fails. -/
def report (failure : RunFailure) : IO UInt32 := do
  IO.eprintln ("Error: " ++ failure.message)
  return UInt32.ofNat (Ending.codeOf (.error failure))

end OfferBook.Console

open OfferBook OfferBook.Console

def main (args : List String) : IO UInt32 := do
  match Invocation.ofArgs? args with
  | none =>
    IO.eprintln "usage: [--config FILE] seed | logs [--limit N] [--offset N] | export"
    return UInt32.ofNat Ending.usageCode
  | some invocation =>
    match ← loadSettings invocation.settingsFile with
    | .error failure => report failure
    | .ok settings =>
      let result ← try carryOut settings invocation.command catch _ => pure (.error .closed)
      match result with
      | .ok text =>
        IO.print text
        return UInt32.ofNat (Ending.codeOf result)
      | .error failure => report failure
