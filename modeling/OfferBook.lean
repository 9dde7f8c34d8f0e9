import OfferBook.Cli.Files
import OfferBook.Main
import OfferBook.Office.Gate
import OfferBook.Office.Offers
import OfferBook.Proofs.Calculations.Chain
import OfferBook.Proofs.Calculations.Current
import OfferBook.Proofs.Calculations.Decoding
import OfferBook.Proofs.Calculations.Head
import OfferBook.Proofs.Calculations.Interrupted
import OfferBook.Proofs.Calculations.Latest
import OfferBook.Proofs.Calculations.Legacy
import OfferBook.Proofs.Calculations.Linear
import OfferBook.Proofs.Calculations.Rows
import OfferBook.Proofs.Calculations.Topmost
import OfferBook.Proofs.Config.Secrets
import OfferBook.Proofs.Config.Spelling
import OfferBook.Proofs.Document.Change
import OfferBook.Proofs.Document.Counters
import OfferBook.Proofs.Document.Decoding
import OfferBook.Proofs.Document.Encoding
import OfferBook.Proofs.Document.Filling
import OfferBook.Proofs.Document.Form
import OfferBook.Proofs.Document.Known
import OfferBook.Proofs.Gate.Lockout
import OfferBook.Proofs.Gate.Visits
import OfferBook.Proofs.Gate.Waiting
import OfferBook.Proofs.Json.Leaves
import OfferBook.Proofs.Json.Reading
import OfferBook.Proofs.Json.Values
import OfferBook.Proofs.Json.Writing
import OfferBook.Proofs.Log.Dropped
import OfferBook.Proofs.Log.Entries
import OfferBook.Proofs.Log.Paging
import OfferBook.Proofs.Mail.Paragraphs
import OfferBook.Proofs.Model.Embedding
import OfferBook.Proofs.Model.Naming
import OfferBook.Proofs.Model.Numbering
import OfferBook.Proofs.Model.Reading
import OfferBook.Proofs.Number.Amounts
import OfferBook.Proofs.Number.Integers
import OfferBook.Proofs.OfferNumber.Bases
import OfferBook.Proofs.OfferNumber.Distinct
import OfferBook.Proofs.OfferNumber.Issued
import OfferBook.Proofs.OfferNumber.Ledger
import OfferBook.Proofs.OfferNumber.Rebasing
import OfferBook.Proofs.OfferNumber.Text
import OfferBook.Proofs.Offers.Rows
import OfferBook.Proofs.Office.Aside
import OfferBook.Proofs.Office.Books
import OfferBook.Proofs.Office.Completed
import OfferBook.Proofs.Office.Concealing
import OfferBook.Proofs.Office.Connected
import OfferBook.Proofs.Office.Deeds
import OfferBook.Proofs.Office.Deletions
import OfferBook.Proofs.Office.Effects
import OfferBook.Proofs.Office.Embedded
import OfferBook.Proofs.Office.Enrolled
import OfferBook.Proofs.Office.Exported
import OfferBook.Proofs.Office.Following
import OfferBook.Proofs.Office.Forms
import OfferBook.Proofs.Office.Growth
import OfferBook.Proofs.Office.History
import OfferBook.Proofs.Office.Identity
import OfferBook.Proofs.Office.Inputs
import OfferBook.Proofs.Office.Listing
import OfferBook.Proofs.Office.Looking
import OfferBook.Proofs.Office.Numbered
import OfferBook.Proofs.Office.Outcome
import OfferBook.Proofs.Office.Passwords
import OfferBook.Proofs.Office.Permits
import OfferBook.Proofs.Office.Prepared
import OfferBook.Proofs.Office.Progress
import OfferBook.Proofs.Office.Readable
import OfferBook.Proofs.Office.Recorded
import OfferBook.Proofs.Office.Refusals
import OfferBook.Proofs.Office.Requests
import OfferBook.Proofs.Office.Sequences
import OfferBook.Proofs.Office.Soundness
import OfferBook.Proofs.Office.Telling
import OfferBook.Proofs.Office.Twins
import OfferBook.Proofs.Office.Typing
import OfferBook.Proofs.Password.Hashes
import OfferBook.Proofs.Query.Conditions
import OfferBook.Proofs.Query.Creators
import OfferBook.Proofs.Query.Joining
import OfferBook.Proofs.Query.Labels
import OfferBook.Proofs.Query.Ordered
import OfferBook.Proofs.Query.Parameters
import OfferBook.Proofs.Query.Sorting
import OfferBook.Proofs.Query.Unread
import OfferBook.Proofs.Sheets.Added
import OfferBook.Proofs.Sheets.Frozen
import OfferBook.Proofs.Sheets.Grouped
import OfferBook.Proofs.Sheets.Keeping
import OfferBook.Proofs.Sheets.Order
import OfferBook.Proofs.Sheets.Owned
import OfferBook.Proofs.Sheets.Rows
import OfferBook.Proofs.Statement.Complete
import OfferBook.Proofs.Statement.Composed
import OfferBook.Proofs.Statement.Grammar
import OfferBook.Proofs.Statement.Layout
import OfferBook.Proofs.Statement.Parsing
import OfferBook.Proofs.Statement.Parts
import OfferBook.Proofs.Statement.Rendering
import OfferBook.Proofs.Statement.Sound
import OfferBook.Proofs.Store.Durability
import OfferBook.Proofs.Store.Formats
import OfferBook.Proofs.Store.NewIds
import OfferBook.Proofs.Store.Reopening
import OfferBook.Proofs.Store.Texts
import OfferBook.Proofs.Store.Work
import OfferBook.Proofs.Text.Characters
import OfferBook.Store.Memory
import OfferBook.Text.Quoted
