import OfferBook.Model.Offer
import OfferBook.Office.Error

/-! # Mails with offers

* `Html.ofText` — a paragraph for each line.
* `Mail.compose` — the mail of an offer; what the sender does not set comes from the offer, and
  what it does not have either from the letterhead.
-/

namespace OfferBook

namespace Html

/-- Put an entity for every occurrence of a character. -/
def replace (c : Char) (entity : String) (cs : List Char) : List Char :=
  cs.flatMap fun d => if d = c then entity.toList else [d]

/-- Write the characters of markup as entities. Ampersands come first, as entities have one. -/
def escape (line : List Char) : List Char :=
  replace '>' "&gt;" (replace '<' "&lt;" (replace '&' "&amp;" line))

/-- The content of a paragraph; an empty line keeps its height. -/
def escapeLine (line : List Char) : List Char :=
  if line.isEmpty then "&nbsp;".toList else escape line

def paragraph (line : List Char) : List Char :=
  "<p style=\"margin: 0 0 10px 0;\">".toList ++ escapeLine line ++ "</p>".toList

/-- The lines of a text as paragraphs. -/
def ofText (text : String) : String :=
  String.ofList
    ("<div style=\"font-family: Arial, sans-serif; line-height: 1.6;\">".toList
      ++ (Text.split '\n' text.toList).flatMap paragraph ++ "</div>".toList)

end Html

structure Attachment where
  filename : String
  content : String
deriving DecidableEq

structure Mail where
  recipient : String
  subject : String
  text : String
  html : String
  attachment : Option Attachment
deriving DecidableEq

/-- A text without blanks around it, if anything is left. -/
def nonBlank? (text : Option String) : Option String :=
  (text.map Text.trim).filter (!·.isEmpty)

namespace Mail

def standardText (letterhead : Letterhead) (addressee : String) : String :=
  "Sehr geehrte/r " ++ addressee ++ ",\n\n"
    ++ "anbei erhalten Sie unser Angebot wie besprochen.\n\n"
    ++ "Bei Rückfragen stehen wir Ihnen gerne zur Verfügung.\n\n"
    ++ "Mit freundlichen Grüßen,\n" ++ letterhead.signature

/-- The mail of an offer; none without a recipient. -/
def compose (letterhead : Letterhead) (offer : Offer) (request : SendRequest) :
    Except ServiceError Mail :=
  match nonBlank? request.recipient <|> nonBlank? offer.customer.email with
  | none => .error (.validation "no recipient email address")
  | some recipient =>
    let text := (nonBlank? request.message <|> nonBlank? offer.message).getD
      (standardText letterhead offer.addressee)
    .ok {
      recipient := recipient
      subject := (nonBlank? request.subject).getD
        ("Angebot von " ++ letterhead.company ++ " - " ++ offer.reference)
      text := text
      html := Html.ofText text
      attachment := (nonBlank? request.pdf).map fun pdf =>
        ⟨"Angebot_" ++ offer.reference ++ ".pdf", pdf⟩ }

end Mail

end OfferBook
