import OfferBook.FileTree
import OfferBook.Number.Reading
import OfferBook.Store.RowFile

/-! # Where named rows are kept

Rows are kept in a file, or in memory for the length of a run. The address of the place is a path, a
name for the memory, or a locator that begins with `file:`, such as `file:a%20b.db?mode=rw`.

* `RowPlace.ofAddress?` — the place of an address.
* `RowPlace.opened`, `RowPlace.closed` — the files when the rows at a path are opened and when
  they have been closed. While they are open there are three more files beside theirs.
-/

namespace OfferBook

inductive RowPlace
  | memory
  /-- A file, which is made unless it must be there. -/
  | file (path : String) (mustExist : Bool)
deriving DecidableEq

namespace RowPlace

/-! ## Addresses -/

/-- The bytes of a text in which two hexadecimal digits after a percent sign stand for a byte. A
    byte of zero ends the text. -/
def unescape : List Char → List UInt8
  | [] => []
  | '%' :: a :: b :: r =>
    match hexDigit? a, hexDigit? b with
    | some m, some n =>
      if 16 * m + n = 0 then [] else UInt8.ofNat (16 * m + n) :: unescape r
    | _, _ => 37 :: unescape (a :: b :: r)
  | c :: r => (String.singleton c).toUTF8.toList ++ unescape r

/-- The text that characters of a locator stand for. -/
def decode? (cs : List Char) : Option String := String.fromUTF8? ⟨(unescape cs).toArray⟩

/-- The characters before the first one of a kind, and those after it. -/
def cut (separator : Char) (cs : List Char) : List Char × List Char :=
  (cs.takeWhile (· ≠ separator), (cs.dropWhile (· ≠ separator)).tail)

/-- The part of a locator after the name of a machine, which can only be this one. -/
def dropMachine? : List Char → Option (List Char)
  | '/' :: '/' :: r =>
    if r.takeWhile (· ≠ '/') ∈ [[], "localhost".toList] then some (r.dropWhile (· ≠ '/'))
    else none
  | cs => some cs

/-- The names and values at the end of a locator. -/
def options? (cs : List Char) : Option (List (String × String)) := do
  let options ← (Text.split '&' cs).mapM fun option => do
    let (name, value) := cut '=' option
    some (← decode? name, ← decode? value)
  some (options.filter (·.1 ≠ ""))

/-- The last value of a name. -/
def lastValue? (name : String) (options : List (String × String)) : Option String :=
  (options.reverse.find? (·.1 = name)).map Prod.snd

/-- The place at a path with options. -/
def ofOptions? (path : String) (options : List (String × String)) : Option RowPlace :=
  let known (name : String) (values : List String) : Bool :=
    options.all fun option => option.1 ≠ name || option.2 ∈ values
  let system := (lastValue? "vfs" options).getD "unix"
  if !known "cache" ["shared", "private"] || !known "mode" ["ro", "rw", "rwc", "memory"]
      || system ∉ ["unix", "unix-excl"] then none
  else match lastValue? "mode" options with
    | some "memory" => some .memory
    | mode =>
      if path = ":memory:" then if mode = some "ro" then none else some .memory
      else if path.isEmpty then none
      else some (.file path (mode ∈ [some "ro", some "rw"]))

/-- The place of a locator after its first word. -/
def ofLocator? (cs : List Char) : Option RowPlace := do
  let (path, options) := cut '?' (← dropMachine? (cut '#' cs).1)
  ofOptions? (← decode? path) (← options? options)

/-- The place of an address. Rows have no place without a name. -/
def ofAddress? (address : String) : Option RowPlace :=
  match address.toList with
  | 'f' :: 'i' :: 'l' :: 'e' :: ':' :: cs => if '\x00' ∈ cs then none else ofLocator? cs
  | _ => ofOptions? address []

/-! ## Files -/

/-- The longest path of a file with rows from the working directory on, in bytes. -/
def maxPath : Nat := 488

/-- The path of the file that tells how to undo a change. -/
def journal (path : String) : String := path ++ "-journal"

/-- The path of the file with changes that are not in their place yet. -/
def changes (path : String) : String := path ++ "-wal"

/-- The path of the file that tells where they are. -/
def changesIndex (path : String) : String := path ++ "-shm"

/-- Whether a file can be made beside the rows. -/
def admits (files : FileTree) (path : String) : Bool := (files.filePlace path).toOption.isSome

/-- The files after a text has been found to hold no rows. What was left to be done with it has been
    given up. -/
def givenUp (files : FileTree) (path : String) : FileTree :=
  let isLeft (path : String) : Bool := ((files.text? path).getD "") ≠ ""
  let settled := if isLeft (journal path) then files.remove (journal path) else files
  if isLeft (changes path) then (settled.remove (changes path)).remove (changesIndex path)
  else settled

/-- The rows at a path and the files after they have been opened; none where they cannot be. Then
    some files can have been made all the same. -/
def opened (files : FileTree) (path : String) (mustExist : Bool) : Option RowFile × FileTree :=
  if path.utf8ByteSize > maxPath || (mustExist && (files.text? path).isNone) then (none, files)
  else
    let text := (files.text? path).getD ""
    match files.write path text, RowFile.ofText? text with
    | .error _, _ => (none, files)
    | .ok files, none => (none, givenUp files path)
    | .ok files, some rows =>
      if !admits files (journal path) || !admits files (changes path) then (none, files)
      else if !admits files (changesIndex path) then
        (none, (files.write (changes path) "").toOption.getD files)
      else (some rows, files)

/-- The files after the rows at a path have been closed. -/
def closed (files : FileTree) (path : String) (rows : RowFile) : FileTree :=
  let files := ((files.remove (journal path)).remove (changes path)).remove (changesIndex path)
  (files.write path rows.text).toOption.getD files

end RowPlace

end OfferBook
