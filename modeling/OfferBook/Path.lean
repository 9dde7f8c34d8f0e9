import OfferBook.Text.Blank

/-! # Paths of files

* `Path.join` — a path below a directory.
* `Path.names` — the words between the slashes of a path.
* `Path.ancestors`, `Path.replaceExtension` — the directories above a path, and a name beside its
  last one.
-/

namespace OfferBook.Path

def isAbsolute (path : String) : Bool := path.startsWith "/"

/-- A path below a directory. An absolute path stays as it is, and the empty directory adds
    nothing. -/
def join (dir path : String) : String :=
  if isAbsolute path || dir.isEmpty then path
  else if dir.endsWith "/" then dir ++ path
  else dir ++ "/" ++ path

/-- The words between the slashes. -/
def names (path : String) : List String := (Text.split '/' path.toList).map String.ofList

/-- The path of words, the last of them first. -/
def ofReversed (names : List String) : String := String.intercalate "/" names.reverse

/-- A word that leads from a directory to itself. -/
def isIdle (name : String) : Bool := name = "" || name = "."

/-- A word that names something below a directory. -/
def isName (name : String) : Bool := !isIdle name && name ≠ ".."

/-- From words with the last of them first: all beginnings of the path that end with a word that
    leads elsewhere, the longest first. -/
def beginnings : List String → List (List String)
  | [] => []
  | name :: r => if isIdle name then beginnings r else (name :: r) :: beginnings r

/-- The directories above a path, the nearest first; not the root or the working directory. -/
def ancestors (path : String) : List String :=
  ((beginnings (names path).reverse).drop 1).map ofReversed

/-- A name without its last point and what follows it. A point at the beginning belongs to the
    name. -/
def stem (name : List Char) : List Char :=
  match (name.reverse.dropWhile (· ≠ '.')).reverse.dropLast with
  | [] => name
  | s => s

/-- The path with another extension of its last name. What has no name stays as it is. -/
def replaceExtension (path extension : String) : String :=
  match (names path).reverse.dropWhile isIdle with
  | [] => path
  | name :: above =>
    if isName name then
      ofReversed (String.ofList (stem name.toList ++ '.' :: extension.toList) :: above)
    else path

end OfferBook.Path
