import OfferBook.FileTree
import OfferBook.Store.JsonFile

/-! # Documents kept in one file among others

The file is written beside its place under another name, and then put there. A save that fails can
leave directories or the interim file behind.
-/

namespace OfferBook

/-- The path of a file, and the files around it. -/
structure JsonPlace where
  path : String
  files : FileTree

namespace JsonPlace

/-- The path under which the text is written first. -/
def interim (path : String) : String := Path.replaceExtension path "json.tmp"

def load (p : JsonPlace) : Except StorageError (Option Document) :=
  match p.files.find? p.path with
  | none => .ok none
  | some .directory => .error .unreadable
  | some (.file text) => JsonFile.load ⟨some text⟩

def save (doc : Document) (p : JsonPlace) : Except StorageError Unit × JsonPlace :=
  match p.files.makeAncestors p.path with
  | (.error _, files) => (.error .unwritable, { p with files })
  | (.ok (), files) =>
    match files.write (interim p.path) (JsonFile.encode doc) with
    | .error _ => (.error .unwritable, { p with files })
    | .ok files =>
      match files.rename (interim p.path) p.path with
      | .error _ => (.error .unwritable, { p with files })
      | .ok files => (.ok (), { p with files })

instance : Medium JsonPlace where
  load := load
  save := save

end JsonPlace

end OfferBook
