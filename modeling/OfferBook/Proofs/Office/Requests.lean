import OfferBook.Office.Accounts
import OfferBook.Office.Admin
import OfferBook.Office.Gate
import OfferBook.Store.Memory

/-! # Runs of requests

The services as a system that is handed one request after the other.

* `Call` — every call that the services offer; `Call.work` — the call itself.
* `Request` — a call at an instant. Clocks may go back.
* `Office.serve`, `Office.serveAll` — the office that requests leave behind, failed ones too.
  Nothing is assumed about the medium, so that any save may fail.
-/

namespace OfferBook

inductive Call
  | createCalculation (input : CalculationInput) (caller : Caller)
  | updateCalculation (id : Int) (input : CalculationInput) (caller : Caller)
  | deleteCalculation (id : Int) (caller : Caller)
  | renameCalculations (uuid title : String)
  | getCalculation (id : Int)
  | latestCalculation (uuid : String)
  | listCalculations
  | versions (idOrUuid : String)
  | createOffer (input : OfferInput) (caller : Caller)
  | getOffer (id : Int)
  | listOffers
  | deleteOffer (id : Int) (caller : Caller)
  | sendOffer (letterhead : Letterhead) (mailer : Offers.Mailer) (id : Int)
      (request : SendRequest) (caller : Caller)
  | allocate (year version : Int)
  | seedAdmin (cost : Nat) (email name password : String)
  | findActive (id : String)
  | firstActiveAdmin
  | changePassword (cost : Nat) (caller : Caller) (current new : String)
  | record (action : Action) (entityType : String) (entityId : Option Int)
      (entityUuid : Option String) (caller : Caller) (details : Option Json)
  | logPage (limit offset : Nat)
  | logAll
  /-- An attempt at the admin area; the gate stands for all attempts before. -/
  | enter (gate : Gate) (caller : Caller) (password : String)
  | adminLogs (caller : Caller) (limit offset : Option Nat)
  | exportAll (caller : Caller)

namespace Call

variable {m : Type} [Medium m]

/-- What is done for a call; the result goes to the caller alone. -/
def work (offerPrefix : String) : Call → Service m Unit
  | createCalculation input caller => do
    let _ ← Calculations.create offerPrefix input caller
  | updateCalculation id input caller => do
    let _ ← Calculations.update offerPrefix id input caller
  | deleteCalculation id caller => Calculations.delete id caller
  | renameCalculations uuid title => do let _ ← Calculations.rename uuid title
  | getCalculation id => do let _ ← Calculations.get offerPrefix id
  | latestCalculation uuid => do let _ ← Calculations.latest offerPrefix uuid
  | listCalculations => do let _ ← Calculations.list
  | versions idOrUuid => do let _ ← Calculations.versions idOrUuid
  | createOffer input caller => do let _ ← Offers.create offerPrefix input caller
  | getOffer id => do let _ ← Offers.get offerPrefix id
  | listOffers => do let _ ← Offers.list
  | deleteOffer id caller => Offers.delete id caller
  | sendOffer letterhead mailer id request caller => do
    let _ ← Offers.send letterhead mailer id request caller
  | allocate year version => do
    let _ ← storage (Office.allocateForYear offerPrefix year version)
  | seedAdmin cost email name password => do
    let _ ← storage (Accounts.seedAdmin cost email name password)
  | findActive id => do let _ ← storage (Accounts.findActive id)
  | firstActiveAdmin => do let _ ← storage Accounts.firstActiveAdmin
  | changePassword cost caller current new => Accounts.changePassword cost caller current new
  | record action entityType entityId entityUuid caller details =>
    Log.record action entityType entityId entityUuid caller details
  | logPage limit offset => do let _ ← storage (Log.page limit offset)
  | logAll => do let _ ← storage Log.all
  | enter gate caller password => do let _ ← storage (gate.enter caller password)
  | adminLogs caller limit offset => do let _ ← Admin.logs caller limit offset
  | exportAll caller => do let _ ← Admin.exportAll caller

/-- Whether a call stores rows of calculations or offers, or takes a number for one. -/
def isStoring : Call → Bool
  | createCalculation .. | updateCalculation .. | createOffer .. | allocate .. => true
  | _ => false

/-- Whether a call looks up a row with its sheets. A row without a number gets one by that. -/
def looksUpDetail : Call → Bool
  | getCalculation .. | latestCalculation .. | getOffer .. => true
  | _ => false

end Call

/-- A call, and the time at which it is made. -/
structure Request where
  now : Instant
  call : Call

namespace Office

variable {m : Type}

/-- The office at another time. -/
def setNow (o : Office m) (now : Instant) : Office m := { o with now }

/-- An office in which nothing has been stored yet. Its identifiers will differ. -/
structure IsNew (o : Office m) : Prop where
  document : o.store.document = Document.fresh
  distinct : Function.Injective o.supply.uuid

/-- A new office over a medium, whose identifiers differ by their length. -/
def opened (medium : m) (now : Instant) : Office m where
  store := ⟨Document.fresh, medium⟩
  now := now
  supply :=
    { uuid := fun k => String.ofList (List.replicate k '0')
      uuidsTaken := 0
      salt := fun _ => Vector.replicate 16 0
      saltsTaken := 0 }

/-- A new office in memory, where every save succeeds. -/
def inMemory : Office Memory :=
  opened { stored := none, unreadable := false, allowance := none, saves := 0 } 0

/-- A new office in memory on a medium that takes so many documents and no more. -/
def withSaves (n : Nat) : Office Memory :=
  opened { stored := none, unreadable := false, allowance := some n, saves := 0 } 0

theorem isNew_opened (medium : m) (now : Instant) : (opened medium now).IsNew where
  document := rfl
  distinct j k same := by
    have := congrArg (fun s => s.toList.length) same
    simpa [opened] using this

/-- Somebody who makes requests. -/
def somebody : Caller := ⟨"1", "Ada", "ada@example.org", "user"⟩

/-- A calculation of some garments. -/
def calculationOf (items : List GarmentItemInput) : CalculationInput :=
  ⟨some "Archive", none, .garment, items, none⟩

def emptyCalculation : CalculationInput := calculationOf []

/-- The day before a calculation is edited. -/
def dayBefore : List Request := [⟨0, .createCalculation emptyCalculation somebody⟩]

/-- An offer of nothing. -/
def emptyOffer : OfferInput where
  kind := .warehousing
  source := none
  kunde := none
  customer := ⟨none, none, none, none, none, none, none, none⟩
  validUntil := none
  status := none
  notes := none
  message := none
  deliveryOption := none
  snapshot := none
  items := []
  warehousing := none

variable [Medium m] {offerPrefix : String}

/-- What a request leaves behind. -/
def serve (offerPrefix : String) (o : Office m) (r : Request) : Office m :=
  ((r.call.work offerPrefix).run.run (o.setNow r.now)).2

/-- What requests leave behind that are made one after the other. -/
def serveAll (offerPrefix : String) (o : Office m) (rs : List Request) : Office m :=
  rs.foldl (serve offerPrefix) o

/-- What holds at first and is kept by each request holds after any number of them, which the
    property may mention. -/
theorem serveAll_induction {P : Nat → Office m → Prop} {o : Office m} {n : Nat} (h : P n o)
    (step : ∀ n o r, P n o → P (n + 1) (serve offerPrefix o r)) (rs : List Request) :
    P (n + rs.length) (serveAll offerPrefix o rs) := by
  induction rs generalizing n o with
  | nil => exact h
  | cons r rest ih =>
    rw [List.length_cons, Nat.add_comm rest.length, ← Nat.add_assoc]
    exact ih (step n o r h)

end Office

end OfferBook
