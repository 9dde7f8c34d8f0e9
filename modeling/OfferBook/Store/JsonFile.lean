import OfferBook.Json.Printer
import OfferBook.Json.Reader
import OfferBook.Store.Medium

/-! # Documents kept in one file

The whole document as one object, laid out for people to read.
-/

namespace OfferBook

/-- The text of a file; none where there is no file. -/
structure JsonFile where
  text : Option String
deriving DecidableEq

namespace JsonFile

/-- The text of a document. -/
def encode (doc : Document) : String := doc.toJson.pretty

/-- The document of a text. -/
def decode? (text : String) : Option Document :=
  (Json.readTree? Json.maxDepth text.toList).bind Document.ofJson?

def load (f : JsonFile) : Except StorageError (Option Document) :=
  match f.text with
  | none => .ok none
  | some text =>
    match decode? text with
    | some doc => .ok (some doc)
    | none => .error .unreadable

def save (doc : Document) (_ : JsonFile) : Except StorageError Unit × JsonFile :=
  (.ok (), ⟨some (encode doc)⟩)

instance : Medium JsonFile where
  load := load
  save := save

end JsonFile

end OfferBook
