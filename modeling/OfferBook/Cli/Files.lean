import OfferBook.Cli.Run
import OfferBook.Store.JsonPlace
import OfferBook.Store.RowPlace

/-! # Runs among files

A run of the command line in a working directory whose files are known.

* `FileTree.perform` — a command on the database that settings name.
* `FileTree.run` — what a run answers, and the files it leaves.
-/

namespace OfferBook

/-- How a run ends, and what it leaves. -/
structure Ending where
  /-- The text that is printed; none where the run fails. -/
  printed : Option String
  /-- The code that a shell sees. -/
  code : Nat
  files : FileTree
  supply : Supply

namespace Ending

/-- The code of a run by its result: one where it fails. -/
def codeOf : Except RunFailure String → Nat
  | .ok _ => 0
  | .error _ => 1

/-- The code of a command line that cannot be understood. -/
def usageCode : Nat := 2

def ofResult (result : Except RunFailure String) (files : FileTree) (supply : Supply) : Ending :=
  ⟨result.toOption, codeOf result, files, supply⟩

end Ending

namespace FileTree

/-- The text of a settings file, if one is given. -/
def settings? (files : FileTree) (environment : List (String × String)) (file : Option String) :
    Except RunFailure Settings := do
  let text ← match file with
    | none => .ok none
    | some path => match files.text? path with
      | some text => .ok (some text)
      | none => .error .noSettings
  match Settings.load? text environment with
  | some settings => .ok settings
  | none => .error .badSettings

/-- Carry out a command on the rows in a file. -/
def onRows (files : FileTree) (settings : Settings) (command : Command) (now : Instant)
    (supply : Supply) (path : String) (mustExist : Bool) : Ending :=
  match RowPlace.opened files path mustExist with
  | (none, files) => .ofResult (.error .closed) files supply
  | (some rows, files) =>
    let (result, rows, supply) := Run.onMedium settings command now supply rows
    .ofResult result (RowPlace.closed files path rows) supply

/-- Carry out a command on the database that settings name. -/
def perform (files : FileTree) (settings : Settings) (command : Command) (now : Instant)
    (supply : Supply) : Ending :=
  match files.makeDirectories settings.dataDir with
  | (.error _, files) => .ofResult (.error .closed) files supply
  | (.ok (), files) =>
    match settings.backend with
    | .json =>
      let place : JsonPlace := ⟨settings.databasePath, files⟩
      let (result, place, supply) := Run.onMedium settings command now supply place
      .ofResult result place.files supply
    | .sqlite =>
      match RowPlace.ofAddress? settings.databasePath with
      | none => .ofResult (.error .closed) files supply
      | some .memory =>
        let (result, _, supply) := Run.onMedium settings command now supply RowFile.blank
        .ofResult result files supply
      | some (.file path mustExist) => files.onRows settings command now supply path mustExist

/-- Run a command line. -/
def run (files : FileTree) (environment : List (String × String)) (now : Instant)
    (supply : Supply) (args : List String) : Ending :=
  match Invocation.ofArgs? args with
  | none => ⟨none, Ending.usageCode, files, supply⟩
  | some invocation =>
    match files.settings? environment invocation.settingsFile with
    | .error e => .ofResult (.error e) files supply
    | .ok settings => files.perform settings invocation.command now supply

end FileTree

end OfferBook
