import OfferBook.Model.Decoding

/-! # Kinds of sheets, offers and activities -/

namespace OfferBook

/-- What a calculation or an offer is about. -/
inductive SheetKind
  | garment
  | warehousing
deriving DecidableEq

namespace SheetKind

instance : Inhabited SheetKind := ⟨.garment⟩

def name : SheetKind → String
  | .garment => "garment"
  | .warehousing => "warehousing"

def all : List SheetKind := [.garment, .warehousing]

def ofJson? : Json → Option SheetKind := Strict.oneOf? (all.map fun k => (k.name, k))

def ofText? : String → Option SheetKind := readText? .whole ofJson?

end SheetKind

inductive OfferStatus
  | pending
  | sent
  | accepted
  | rejected
  | expired
deriving DecidableEq

namespace OfferStatus

instance : Inhabited OfferStatus := ⟨.pending⟩

def name : OfferStatus → String
  | .pending => "pending"
  | .sent => "sent"
  | .accepted => "accepted"
  | .rejected => "rejected"
  | .expired => "expired"

def all : List OfferStatus := [.pending, .sent, .accepted, .rejected, .expired]

def ofJson? : Json → Option OfferStatus := Strict.oneOf? (all.map fun s => (s.name, s))

def ofText? : String → Option OfferStatus := readText? .whole ofJson?

end OfferStatus

/-- What an entry of the activity log records. -/
inductive Action
  | create
  | update
  | delete
  | sendEmail
  | export
  | adminAccess
deriving DecidableEq

namespace Action

def name : Action → String
  | .create => "CREATE"
  | .update => "UPDATE"
  | .delete => "DELETE"
  | .sendEmail => "SEND_EMAIL"
  | .export => "EXPORT"
  | .adminAccess => "ADMIN_ACCESS"

def all : List Action := [.create, .update, .delete, .sendEmail, .export, .adminAccess]

def ofJson? : Json → Option Action := Strict.oneOf? (all.map fun a => (a.name, a))

def ofText? : String → Option Action := readText? .whole ofJson?

end Action

end OfferBook
