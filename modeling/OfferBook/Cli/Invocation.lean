import OfferBook.Number.Reading

/-! # Command lines

`[-c FILE | --config FILE] seed | logs [--limit N] [--offset N] | export`

* `Command` — what can be asked for.
* `Invocation.ofArgs?` — the words of a command line; none where they cannot be understood.
  No option may be given twice.
-/

namespace OfferBook

inductive Command
  /-- Make the first administrator's account. -/
  | seed
  /-- Print a page of the activity log. -/
  | logs (limit offset : Nat)
  /-- Print all that is stored. -/
  | export
deriving DecidableEq

structure Invocation where
  settingsFile : Option String
  command : Command
deriving DecidableEq

namespace Invocation

/-- A word that begins with a hyphen and is not one alone is no value of an option. -/
def looksLikeOption (word : String) : Bool := word.startsWith "-" && word ≠ "-"

/-- The value of an option that is a word of its own, and the words after it. -/
def takeValue? : List String → Option (String × List String)
  | [] => none
  | word :: r => if looksLikeOption word then none else some (word, r)

/-- The value after an equals sign. -/
def attached? (option : String) (word : String) : Option String :=
  if word.startsWith (option ++ "=") then
    some (String.ofList (word.toList.drop (option.length + 1)))
  else none

/-- The value of an option, as a word of its own or after an equals sign. The outer result is none
    where the word is not the option. -/
def longOption? (option word : String) (r : List String) : Option (Option (String × List String)) :=
  if word = option then some (takeValue? r)
  else (attached? option word).map fun value => some (value, r)

/-! ## The log -/

/-- A count of entries. -/
def count? (text : String) : Option Nat := parseUnsigned? longLimit text.toList

/-- The options of the log. Each takes at least one word, and a unit of fuel. -/
def logOptions? : (fuel : Nat) → (limit offset : Option Nat) → List String → Option Command
  | _, limit, offset, [] | _, limit, offset, ["--"] =>
    some (.logs (limit.getD 100) (offset.getD 0))
  | 0, _, _, _ => none
  | fuel + 1, limit, offset, word :: r =>
    match longOption? "--limit" word r, longOption? "--offset" word r with
    | some value, _ => do
      let (text, r) ← value
      let n ← count? text
      if limit.isSome then none else logOptions? fuel (some n) offset r
    | none, some value => do
      let (text, r) ← value
      let n ← count? text
      if offset.isSome then none else logOptions? fuel limit (some n) r
    | none, none => none

/-! ## The whole line -/

def command? : List String → Option Command
  | "seed" :: r => if r = [] ∨ r = ["--"] then some .seed else none
  | "export" :: r => if r = [] ∨ r = ["--"] then some .export else none
  | "logs" :: r => logOptions? r.length none none r
  | _ => none

/-- The settings file of a short option, in the word itself, after an equals sign or not, or in
    the next word. -/
def shortOption? (word : String) (r : List String) : Option (Option (String × List String)) :=
  match word.toList with
  | ['-', 'c'] => some (takeValue? r)
  | '-' :: 'c' :: '=' :: value | '-' :: 'c' :: value => some (some (String.ofList value, r))
  | _ => none

/-- The settings file, if the line begins with one, and the other words. -/
def settingsOption? : List String → Option (Option String × List String)
  | [] => some (none, [])
  | word :: r =>
    match shortOption? word r, longOption? "--config" word r with
    | some value, _ | none, some value => do
      let (file, r) ← value
      if file.isEmpty then none else some (some file, r)
    | none, none => some (none, word :: r)

def ofArgs? (args : List String) : Option Invocation := do
  let (settingsFile, r) ← settingsOption? args
  some ⟨settingsFile, ← command? r⟩

end Invocation

end OfferBook
