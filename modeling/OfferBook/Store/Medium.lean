import OfferBook.Document

/-! # Where documents are kept

* `StorageError` — what can go wrong below the level of the office's rules.
* `Medium` — a kind of storage that holds one document, loaded and saved as a whole.
* `LawfulMedium` — it loads what was saved last, and a save that fails changes nothing that
  could be loaded.
-/

namespace OfferBook

inductive StorageError
  /-- The medium has no room. -/
  | full
  /-- A table has the name under which the medium keeps the id counters. -/
  | nameTaken
  /-- What the medium holds is no document. -/
  | unreadable
  /-- There is no place for the medium. -/
  | unwritable
  /-- A row does not have the form of its table. -/
  | undecodable
  /-- An inserted row has no integer for its id. -/
  | noId
  /-- A stored password is no hash. -/
  | malformedHash
  /-- Passwords cannot be hashed at this cost. -/
  | invalidCost
  /-- A mail could not be delivered. -/
  | undelivered
deriving DecidableEq

class Medium (m : Type) where
  /-- The stored document; none where nothing has been stored yet. -/
  load : m → Except StorageError (Option Document)
  /-- Replace the stored document. -/
  save : Document → m → Except StorageError Unit × m

class LawfulMedium (m : Type) [Medium m] : Prop where
  load_of_save_ok {doc : Document} {s t : m} :
    Medium.save doc s = (.ok (), t) → Medium.load t = .ok (some doc)
  load_of_save_error {doc : Document} {s t : m} {e : StorageError} :
    Medium.save doc s = (.error e, t) → Medium.load t = Medium.load s

end OfferBook
