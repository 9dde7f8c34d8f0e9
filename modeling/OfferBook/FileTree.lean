import OfferBook.Dict
import OfferBook.Path

/-! # Trees of files

The files and directories that can be reached from a working directory, and what the operations on
them do to the tree.

* `FileTree.locate` — follow a path, word by word. Every word must start from a directory.
* `FileTree.find?` — what is at a path.
* `FileTree.makeDirectory`, `FileTree.makeDirectories` — one directory, or one with all above it.
* `FileTree.write`, `FileTree.rename`, `FileTree.remove` — operations on single files.
-/

namespace OfferBook

inductive FileEntry
  | file (text : String)
  | directory

/-- Why a path cannot be used. -/
inductive PathError
  /-- There is nothing on the way. -/
  | missing
  /-- There is something at the path already. -/
  | taken
  /-- The path leads through a file, or is none. -/
  | refused
deriving DecidableEq

/-- The names on the way to a file or directory, the last of them first. The way begins at the root,
    above the working directory, or in it. -/
abbrev Place := List String

namespace Place

/-- Follow a word. -/
def step (place : Place) (name : String) : Place :=
  if Path.isIdle name then place
  else match name, place with
    | "..", [] => [".."]
    | "..", ".." :: r => ".." :: ".." :: r
    | "..", "/" :: r => "/" :: r
    | "..", _ :: r => r
    | name, place => name :: place

/-- One of the places from which a way can begin. -/
def isOrigin (place : Place) : Bool := place.all fun name => name = ".." || name = "/"

/-- The text that stands for a place. -/
def key (place : Place) : String := Path.ofReversed place

end Place

structure FileTree where
  entries : Dict FileEntry

namespace FileTree

def empty : FileTree := ⟨.empty⟩

def entry? (t : FileTree) (place : Place) : Option FileEntry :=
  if place.isOrigin then some .directory else t.entries.get? place.key

def put (t : FileTree) (place : Place) (entry : FileEntry) : FileTree :=
  ⟨t.entries.insert place.key entry⟩

/-! ## Paths -/

/-- The longest name, in bytes. -/
def maxName : Nat := 255

/-- The longest path, in bytes. -/
def maxPath : Nat := 4095

/-- Follow a word from a place, which must be a directory. -/
def follow (t : FileTree) (place : Place) (name : String) : Except PathError Place :=
  match t.entry? place with
  | none => .error .missing
  | some (.file _) => .error .refused
  | some .directory =>
    if name.utf8ByteSize ≤ maxName then .ok (place.step name) else .error .refused

/-- The place to which words lead. There need not be anything at it. -/
def locate (t : FileTree) (path : String) : Except PathError Place :=
  if path.isEmpty then .error .missing
  else if path.contains '\x00' || path.utf8ByteSize > maxPath then .error .refused
  else (Path.names path).foldlM t.follow (if Path.isAbsolute path then ["/"] else [])

/-- What is at a path. -/
def find? (t : FileTree) (path : String) : Option FileEntry :=
  match t.locate path with
  | .ok place => t.entry? place
  | .error _ => none

/-- The text of the file at a path. -/
def text? (t : FileTree) (path : String) : Option String :=
  match t.find? path with
  | some (.file text) => some text
  | _ => none

def isDirectory (t : FileTree) (path : String) : Bool := t.find? path matches some .directory

/-! ## Directories -/

/-- A path without the slashes at its end. -/
def dropSlashes (path : String) : String :=
  String.ofList (path.toList.reverse.dropWhile (· = '/')).reverse

/-- Make a directory in one that is there. -/
def makeDirectory (t : FileTree) (path : String) : Except PathError FileTree := do
  let place ← t.locate (if (dropSlashes path).isEmpty then path else dropSlashes path)
  match t.entry? place with
  | some _ => .error .taken
  | none => .ok (t.put place .directory)

/-- Make the first of some directories, and before it those of the others that are needed. What has
    been made stays where a later one cannot be made. -/
def makeFirst (t : FileTree) : List String → Except PathError Unit × FileTree
  | [] => (.ok (), t)
  | path :: above =>
    match t.makeDirectory path with
    | .ok t => (.ok (), t)
    | .error .taken => (if t.isDirectory path then .ok () else .error .taken, t)
    | .error .refused => (.error .refused, t)
    | .error .missing =>
      match makeFirst t above with
      | (.error e, t) => (.error e, t)
      | (.ok (), t) =>
        match t.makeDirectory path with
        | .ok t => (.ok (), t)
        | .error e => (if t.isDirectory path then .ok () else .error e, t)

/-- Make a directory and all above it, as far as they are not there. -/
def makeDirectories (t : FileTree) (path : String) : Except PathError Unit × FileTree :=
  if path.isEmpty then (.ok (), t) else t.makeFirst (path :: Path.ancestors path)

/-- Make the directories above a path. -/
def makeAncestors (t : FileTree) (path : String) : Except PathError Unit × FileTree :=
  t.makeFirst (Path.ancestors path)

/-! ## Files -/

/-- The place of a file that is there or can be made; its path ends with its name. -/
def filePlace (t : FileTree) (path : String) : Except PathError Place := do
  let place ← t.locate path
  if (Path.names path).getLast?.any Path.isName then
    match t.entry? place with
    | some .directory => .error .refused
    | _ => .ok place
  else .error .refused

/-- Set the text of a file. -/
def write (t : FileTree) (path text : String) : Except PathError FileTree := do
  return t.put (← t.filePlace path) (.file text)

/-- Leave out the file at a path, if there is one. -/
def remove (t : FileTree) (path : String) : FileTree :=
  match t.locate path with
  | .ok place =>
    match t.entry? place with
    | some (.file _) => ⟨t.entries.erase place.key⟩
    | _ => t
  | .error _ => t

/-- Put a file in the place of another, or where there was none. -/
def rename (t : FileTree) (source target : String) : Except PathError FileTree := do
  match t.text? source with
  | none => .error .missing
  | some text => (t.remove source).write target text

/-- A tree with some files, and the directories that they are in. -/
def ofFiles (files : List (String × String)) : FileTree :=
  files.foldl (fun t e => ((t.makeAncestors e.1).2.write e.1 e.2).toOption.getD t) empty

/-- Whether a place with a certain text is in the working directory. -/
def isInside (key : String) : Bool :=
  !Path.isAbsolute key && (Path.names key).head? ≠ some ".."

/-- The paths of the files in the working directory, in order. -/
def fileNames (t : FileTree) : List String :=
  t.entries.entries.filterMap fun (key, entry) =>
    match entry with
    | .file _ => if isInside key then some key else none
    | .directory => none

/-- The texts of all files. -/
def texts (t : FileTree) : List String :=
  t.entries.entries.filterMap fun (_, entry) =>
    match entry with
    | .file text => some text
    | .directory => none

end FileTree

end OfferBook
