import OfferBook.Proofs.Calculations.Head
import OfferBook.Proofs.Office.Aside

/-! # The changes of the services that create

* `LineItems.changes` — the rows of cost sheets, in the order in which they are stored.
* `Calculations.store_performs`, `Offers.store_performs` — a row and after it its sheets.
* `Calculations.createAs_writes`, `Offers.createAs_writes` — a number is taken from the counter of
  the year before anything is stored.
* `Calculations.extend_writes` — all rows of the chain are retired before the next is stored.
-/

namespace OfferBook

open Office

variable {m : Type}

/-! ## Fresh numbers and ids -/

namespace Office

variable {o : Office m} {offerPrefix : String}

/-- The next value of a year's counter. -/
def nextCounter (o : Office m) (year : Int) : Int :=
  (o.store.document.advanceCounter o.now (OfferNumber.counterKey year)).1

variable [Medium m]

theorem allocateForYear_performs (year version : Int) :
    Performs (allocateForYear offerPrefix year version) o
      [.advance (OfferNumber.counterKey year)]
      fun n => n = .ofCounter offerPrefix year (o.nextCounter year) version :=
  Performs.bind_pure (Performs.bumpCounter _) fun _ h => h ▸ rfl

theorem allocate_performs (version : Int) :
    Performs (allocate offerPrefix version) o
      [.advance (OfferNumber.counterKey o.now.year)]
      fun n => n = .ofCounter offerPrefix o.now.year (o.nextCounter o.now.year) version :=
  ends_bind.mpr (ends_get.mpr (allocateForYear_performs _ version))

namespace Makes

variable {P : Change → Prop} (counting : ∀ key, P (.advance key))
include counting

theorem allocateForYear (year version : Int) :
    Makes P (allocateForYear offerPrefix year version : Work m OfferNumber) :=
  of_performs (fun _ => allocateForYear_performs year version) (counting _)

theorem allocate (version : Int) :
    Makes P (allocate offerPrefix version : Work m OfferNumber) :=
  fun o => ends_bind.mpr (ends_get.mpr (allocateForYear counting _ version o))

end Makes

omit [Medium m] in
/-- A row that names no id is numbered, and the number is returned where it has 64 bits. -/
theorem rowId?_apply {s : Insert}
    (distinct : ((s.assignments o.now []).map Prod.fst).Nodup)
    (unnamed : "id" ∉ (s.assignments o.now []).map Prod.fst) :
    (s.apply o.now [] o.store.document).1.rowId? =
      (Json.int (o.store.document.lastId s.table + 1)).signed? := by
  simp only [Insert.apply, Execution.rowId?, Document.nextId_fst]
  rw [Insert.get?_row_id distinct unnamed]
  rfl

theorem insertNumbered_performs {s : Insert}
    (distinct : ((s.assignments o.now []).map Prod.fst).Nodup)
    (unnamed : "id" ∉ (s.assignments o.now []).map Prod.fst) :
    Performs (insertNumbered s) o [.insert s]
      fun id => id = o.store.document.lastId s.table + 1 ∧ fitsSigned id = true := by
  change Performs _ o ([.insert s] ++ []) _
  refine Performs.bind (Performs.insert s) ?_
  rintro e o' rfl reached
  rw [rowId?_apply distinct unnamed]
  simp only [Json.int, Json.signed?, Number.signed?]
  -- The row stays stored even where its id is too long to be returned.
  by_cases fits : fitsSigned (o.store.document.lastId s.table + 1) = true
  · rw [if_pos fits]
    exact Performs.pure ⟨rfl, fits⟩
  · rw [if_neg fits]
    exact Performs.throw

end Office

/-! ## Sheets -/

namespace LineItems

/-- The rows of a list of items, counting places from `place`. -/
def itemChanges (owner : Owner) (place : Nat) (items : List GarmentItemInput) : List Change :=
  items.mapIdx fun i item => .insert (itemRow owner (place + i) item)

/-- The rows of the sheets of a kind. -/
def sheetChanges (owner : Owner) : SheetKind → List GarmentItemInput → Option WarehousingInput →
    List Change
  | .garment, items, _ => itemChanges owner 0 items
  | .warehousing, _, some w => [.insert (warehousingRow owner w)]
  | .warehousing, _, none => []

/-- They are stored only where the id of the owner has 64 bits. -/
def changes (owner : Owner) (kind : SheetKind) (items : List GarmentItemInput)
    (warehousing : Option WarehousingInput) : List Change :=
  if fitsSigned owner.id then sheetChanges owner kind items warehousing else []

theorem mem_changes {owner : Owner} {kind : SheetKind} {items : List GarmentItemInput}
    {warehousing : Option WarehousingInput} {c : Change} :
    c ∈ changes owner kind items warehousing ↔
      fitsSigned owner.id = true ∧ c ∈ sheetChanges owner kind items warehousing := by
  unfold changes
  split <;> simp [*]

/-- Sheets are items and warehousing sheets of an owner whose id has 64 bits. -/
theorem sheet_of_mem {owner : Owner} {kind : SheetKind} {items : List GarmentItemInput}
    {warehousing : Option WarehousingInput} {c : Change}
    (h : c ∈ changes owner kind items warehousing) :
    fitsSigned owner.id = true ∧ ((∃ place item, c = .insert (itemRow owner place item)) ∨
      ∃ input, c = .insert (warehousingRow owner input)) := by
  obtain ⟨fits, mem⟩ := mem_changes.mp h
  refine ⟨fits, ?_⟩
  match kind, warehousing with
  | .garment, _ =>
    obtain ⟨i, inside, rfl⟩ := List.mem_mapIdx.mp mem
    exact .inl ⟨_, _, rfl⟩
  | .warehousing, some input => exact .inr ⟨input, List.mem_singleton.mp mem⟩
  | .warehousing, none => exact absurd mem List.not_mem_nil

theorem itemChanges_cons (owner : Owner) (place : Nat) (item : GarmentItemInput)
    (rest : List GarmentItemInput) :
    itemChanges owner place (item :: rest) =
      .insert (itemRow owner place item) :: itemChanges owner (place + 1) rest := by
  simp [itemChanges, List.mapIdx_cons, Nat.add_comm 1, Nat.add_assoc]

variable [Medium m]

theorem insertItemsFrom_performs (owner : Owner) (place : Nat) (items : List GarmentItemInput)
    {o : Office m} :
    Performs (insertItemsFrom owner place items) o (itemChanges owner place items)
      fun _ => True := by
  induction items generalizing place o with
  | nil => exact Performs.pure trivial
  | cons item rest ih =>
    rw [itemChanges_cons]
    change Performs _ o ([.insert (itemRow owner place item)] ++ _) _
    exact Performs.bind (Performs.insert _) fun _ _ _ _ => ih (place + 1)

theorem insertSheets_performs (owner : Owner) (fits : fitsSigned owner.id = true)
    (kind : SheetKind) (items : List GarmentItemInput) (warehousing : Option WarehousingInput)
    {o : Office m} :
    Performs (insertSheets owner kind items warehousing) o (changes owner kind items warehousing)
      fun _ => True := by
  rw [changes, if_pos fits]
  match kind, warehousing with
  | .garment, _ => exact insertItemsFrom_performs owner 0 items
  | .warehousing, some w => exact Performs.bind_pure (Performs.insert _) fun _ _ => trivial
  | .warehousing, none => exact Performs.pure trivial

end LineItems

/-! ## Rows with their sheets -/

namespace Calculations

variable [Medium m] {o : Office m}

/-- A row and its sheets. -/
def changes (id : Int) (uuid : String) (version : Int) (kunde : String)
    (createdBy : Option String) (input : CalculationInput) (number : OfferNumber)
    (parent : Option Int) : List Change :=
  .insert (row uuid version kunde createdBy input number parent) ::
    LineItems.changes (.calculation id) input.kind input.items input.warehousing

variable (now : Instant) (uuid : String) (version : Int) (kunde : String)
  (createdBy : Option String) (input : CalculationInput) (number : OfferNumber)
  (parent : Option Int)

/-- What the row of a version names. -/
def rowFields : List (String × Json) :=
  [("calculation_uuid", .text uuid), ("version", .int version), ("kunde", .text kunde),
   ("created_by", Json.ofOption .text createdBy), ("status", .text (status input)),
   ("calculation_type", .text input.kind.name), ("offer_number", .text number.text),
   ("is_current", .bool true), ("parent_version_id", Json.ofOption .int parent),
   ("created_at", .text now.timestamp), ("modified_at", .text now.timestamp)]

theorem row_assignments :
    (row uuid version kunde createdBy input number parent).assignments now [] =
      rowFields now uuid version kunde createdBy input number parent :=
  Insert.assignments_ofFields ..

variable {now uuid version kunde createdBy input number parent}

theorem row_distinct :
    (((row uuid version kunde createdBy input number parent).assignments now []).map
      Prod.fst).Nodup := by
  simp [row_assignments, rowFields]

theorem row_unnamed :
    "id" ∉ ((row uuid version kunde createdBy input number parent).assignments now []).map
      Prod.fst := by
  simp [row_assignments, rowFields]

theorem get?_row_of_mem {column : String} {value : Json}
    (mem : (column, value) ∈ rowFields now uuid version kunde createdBy input number parent)
    (id : Int) :
    ((row uuid version kunde createdBy input number parent).row now [] id).get? column =
      some value :=
  Insert.get?_row_of_mem row_distinct (by rwa [row_assignments]) id

theorem get?_row_of_notMem {column : String}
    (notin : column ∉
      (rowFields now uuid version kunde createdBy input number parent).map Prod.fst)
    (created : column ≠ "created_at") (numbered : column ≠ "id") (id : Int) :
    ((row uuid version kunde createdBy input number parent).row now [] id).get? column = none :=
  Insert.get?_row_of_notMem row_distinct (by rwa [row_assignments]) created numbered id

theorem get?_row_id (id : Int) :
    ((row uuid version kunde createdBy input number parent).row now [] id).get? "id" =
      some (.int id) :=
  Insert.get?_row_id row_distinct row_unnamed id

theorem store_performs (uuid : String) (version : Int) (kunde : String)
    (createdBy : Option String) (input : CalculationInput) (number : OfferNumber)
    (parent : Option Int) :
    Performs (store uuid version kunde createdBy input number parent) o
      (changes (o.store.document.lastId table + 1) uuid version kunde createdBy input number
        parent)
      fun saved => saved = ⟨o.store.document.lastId table + 1, uuid, version, number.text⟩ ∧
        fitsSigned saved.id = true := by
  change Performs _ o ([_] ++ LineItems.changes ..) _
  refine Performs.bind (insertNumbered_performs row_distinct row_unnamed) ?_
  rintro id o' ⟨rfl, fits⟩ reached
  exact Performs.bind_pure
    (LineItems.insertSheets_performs (.calculation _) fits ..) fun _ _ => ⟨rfl, fits⟩

end Calculations

namespace Offers

variable [Medium m] {o : Office m}

/-- A row and its sheets. -/
def changes (id : Int) (uuid : String) (input : OfferInput) (caller : Caller)
    (number : OfferNumber) : List Change :=
  .insert (row uuid input caller number) ::
    LineItems.changes (.offer id) input.kind input.items input.warehousing

variable (now : Instant) (uuid : String) (input : OfferInput) (caller : Caller)
  (number : OfferNumber)

/-- What the row of an offer names. -/
def rowFields : List (String × Json) :=
  [("offer_uuid", .text uuid), ("offer_type", .text input.kind.name),
   ("source_calculation_id", Json.ofOption .int input.source),
   ("kunde", Json.ofOption .text (nonBlank? input.kunde))]
  ++ Customer.fieldNames.zip
    (input.customer.values.map fun v => Json.ofOption .text (nonBlank? v)) ++
  [("created_by", .text caller.id),
   ("valid_until", Json.ofOption .text (nonBlank? input.validUntil)),
   ("status", .text (input.status.getD default).name),
   ("notes", Json.ofOption .text (nonBlank? input.notes)),
   ("message", Json.ofOption .text (nonBlank? input.message)),
   ("delivery_option", Json.ofOption .text (nonBlank? input.deliveryOption)),
   ("snapshot_data", Json.ofOption (.text ·.compact) input.snapshot),
   ("offer_number", .text number.text), ("created_at", .text now.timestamp)]

theorem row_assignments :
    (row uuid input caller number).assignments now [] =
      rowFields now uuid input caller number := Insert.assignments_ofFields ..

variable {now uuid input caller number}

theorem row_distinct :
    (((row uuid input caller number).assignments now []).map Prod.fst).Nodup := by
  simp [row_assignments, rowFields, Customer.fieldNames, Customer.values]

theorem row_unnamed :
    "id" ∉ ((row uuid input caller number).assignments now []).map Prod.fst := by
  simp [row_assignments, rowFields, Customer.fieldNames, Customer.values]

theorem get?_row_of_mem {column : String} {value : Json}
    (mem : (column, value) ∈ rowFields now uuid input caller number) (id : Int) :
    ((row uuid input caller number).row now [] id).get? column = some value :=
  Insert.get?_row_of_mem row_distinct (by rwa [row_assignments]) id

theorem get?_row_of_notMem {column : String}
    (notin : column ∉ (rowFields now uuid input caller number).map Prod.fst)
    (created : column ≠ "created_at") (numbered : column ≠ "id") (id : Int) :
    ((row uuid input caller number).row now [] id).get? column = none :=
  Insert.get?_row_of_notMem row_distinct (by rwa [row_assignments]) created numbered id

theorem store_performs (uuid : String) (input : OfferInput) (caller : Caller)
    (number : OfferNumber) :
    Performs (store uuid input caller number) o
      (changes (o.store.document.lastId table + 1) uuid input caller number)
      fun id => id = o.store.document.lastId table + 1 ∧ fitsSigned id = true := by
  change Performs _ o ([_] ++ LineItems.changes ..) _
  refine Performs.bind (insertNumbered_performs row_distinct row_unnamed) ?_
  rintro id o' ⟨rfl, fits⟩ reached
  exact Performs.bind_pure
    (LineItems.insertSheets_performs (.offer _) fits ..) fun _ _ => ⟨rfl, fits⟩

end Offers

/-! ## Services -/

namespace Office

variable {α β : Type}

/-- Work that makes changes, and after the last of them only others on the side. -/
def Writes (act : Service m α) (o : Office m) (changes : List Change) (R : α → Prop) : Prop :=
  Ends act o (fun a o' => R a ∧ ∃ written, Reaches o changes written ∧ Aside written o')
    fun _ o' => ∃ done, done <+: changes ∧ Reaches o done o'

variable {o : Office m} {changes rest : List Change} {R : α → Prop} {S : β → Prop}

theorem Performs.bind_writes {act : Service m β} {f : β → Service m α}
    (h : Performs act o changes S)
    (next : ∀ b o', S b → Reaches o changes o' → Writes (f b) o' rest R) :
    Writes (act >>= f) o (changes ++ rest) R := by
  refine ends_bind.mpr (Ends.mono h ?_ ?_)
  · -- The first part is done; the second may still be cut short.
    rintro b o' ⟨hb, reached⟩
    refine Ends.mono (next b o' hb reached) ?_ ?_
    · rintro a o'' ⟨ha, written, reached', aside⟩
      exact ⟨ha, written, reached.trans reached', aside⟩
    · rintro e o'' ⟨done, hdone, reached'⟩
      exact ⟨_, (List.prefix_append_right_inj changes).mpr hdone, reached.trans reached'⟩
  · rintro e o' ⟨done, hdone, reached⟩
    exact ⟨done, hdone.trans (List.prefix_append changes rest), reached⟩

theorem Performs.bind_record {act : Service m β} {f : β → Service m α}
    (h : Performs act o changes S)
    (next : ∀ b o', S b → Ends (f b) o' (fun a o'' => R a ∧ Aside o' o'') fun _ _ => False) :
    Writes (act >>= f) o changes R := by
  refine ends_bind.mpr (Ends.mono h ?_ fun _ _ => id)
  rintro b o' ⟨hb, reached⟩
  exact Ends.mono (next b o' hb) (fun _ _ ⟨ha, aside⟩ => ⟨ha, o', reached, aside⟩)
    fun _ _ => False.elim

theorem record_ends [Medium m] {action : Action} {entityType : String} {entityId : Option Int}
    {entityUuid : Option String} {caller : Caller} {details : Option Json} {a : α} (h : R a) :
    Ends (do
      Log.record action entityType entityId entityUuid caller details
      return a : Service m α) o (fun a o' => R a ∧ Aside o o') fun _ _ => False :=
  ends_bind.mpr (Ends.record
    (fun medium => ends_pure.mpr ⟨h, [.insert _], by simpa using SideChange.entry rfl,
      Reaches.withStore o [.insert _] medium⟩)
    fun medium => ends_pure.mpr ⟨h, [], by simp, Reaches.withStore o [] medium⟩)

end Office

namespace Calculations

variable [Medium m] {o : Office m} {offerPrefix : String}

/-- What is done for a new calculation once it has a number. -/
def createWith (uuid kunde : String) (input : CalculationInput) (caller : Caller)
    (number : OfferNumber) : Service m SavedVersion := do
  let saved ← storage (store uuid 1 kunde (some caller.id) input number none)
  Log.record .create entityType (some saved.id) (some uuid) caller (some (.ofFields
    [("kunde", .text kunde), ("calculation_type", .text input.kind.name),
     ("offer_number", .text number.text)]))
  return saved

/-- What is done for a new calculation once it has an identifier. -/
def createAs (offerPrefix uuid kunde : String) (input : CalculationInput) (caller : Caller) :
    Service m SavedVersion := do
  createWith uuid kunde input caller (← storage (Office.allocate offerPrefix 1))

/-- The changes for a new calculation. -/
def firstChanges (o : Office m) (offerPrefix uuid kunde : String) (input : CalculationInput)
    (caller : Caller) : List Change :=
  .advance (OfferNumber.counterKey o.now.year) ::
    changes (o.store.document.lastId table + 1) uuid 1 kunde (some caller.id) input
      (.ofCounter offerPrefix o.now.year (o.nextCounter o.now.year) 1) none

theorem create_ends {input : CalculationInput} {caller : Caller}
    {Q : SavedVersion → Office m → Prop} {E : ServiceError → Office m → Prop} :
    Ends (create offerPrefix input caller) o Q E ↔
      match validate input with
      | .ok kunde => Ends (createAs offerPrefix (o.supply.uuid o.supply.uuidsTaken) kunde input
          caller) o.takeUuid Q E
      | .error e => E e o := by
  change Ends (liftM (validate input) >>= fun kunde => storage Office.freshUuid >>= fun uuid =>
    createAs offerPrefix uuid kunde input caller) o Q E ↔ _
  rw [ends_bind, ends_lift]
  cases validate input with
  | ok kunde =>
    simp only [ends_bind, ends_storage, ends_freshUuid]
    rfl
  | error e => rfl

theorem createWith_writes (uuid kunde : String) (input : CalculationInput) (caller : Caller)
    (number : OfferNumber) :
    Writes (createWith uuid kunde input caller number) o
      (changes (o.store.document.lastId table + 1) uuid 1 kunde (some caller.id) input number none)
      fun saved => saved.id = o.store.document.lastId table + 1 ∧ saved.uuid = uuid ∧
        saved.version = 1 ∧ fitsSigned saved.id = true := by
  refine (Performs.storage (store_performs ..)).bind_record ?_
  rintro saved o' ⟨rfl, fits⟩
  exact record_ends ⟨rfl, rfl, rfl, fits⟩

theorem createAs_writes (uuid kunde : String) (input : CalculationInput) (caller : Caller) :
    Writes (createAs offerPrefix uuid kunde input caller) o
      (firstChanges o offerPrefix uuid kunde input caller)
      fun saved => saved.id = o.store.document.lastId table + 1 ∧ saved.uuid = uuid ∧
        saved.version = 1 ∧ fitsSigned saved.id = true := by
  change Writes _ o ([_] ++ changes ..) _
  refine (Performs.storage (allocate_performs 1)).bind_writes ?_
  rintro number o' rfl reached
  have lastId := reached.lastId_of_advance (t := table) (by decide)
  rw [← lastId]
  exact createWith_writes ..

/-- The number of the version after a head. -/
def numberAfter (head : Calculation) : OfferNumber :=
  .rebase (head.offerNumber.getD "") (head.version + 1)

/-- What is done for the version after a head. -/
def extend (head : Calculation) (kunde : String) (input : CalculationInput) (caller : Caller) :
    Service m SavedVersion := do
  let _ ← storage (Office.update (retire head.uuid))
  let saved ← storage (store head.uuid (head.version + 1) kunde head.createdBy input
    (numberAfter head) (some head.id))
  Log.record .update entityType (some saved.id) (some head.uuid) caller (some (.ofFields
    [("kunde", .text kunde), ("calculation_type", .text input.kind.name),
     ("offer_number", .text (numberAfter head).text), ("version", .int (head.version + 1)),
     ("previous_id", .int head.id)]))
  return saved

/-- The changes for the version after a head. -/
def nextChanges (doc : Document) (head : Calculation) (kunde : String)
    (input : CalculationInput) : List Change :=
  .update (retire head.uuid) ::
    changes (doc.lastId table + 1) head.uuid (head.version + 1) kunde head.createdBy input
      (numberAfter head) (some head.id)

/-- Whichever row is edited, its chain is extended after the head. -/
theorem update_ends {id : Int} {input : CalculationInput} {caller : Caller}
    {Q : SavedVersion → Office m → Prop} {E : ServiceError → Office m → Prop}
    (h : Regular form table o.store.document) (refused : ∀ e, E e o)
    (extended : ∀ kunde head row, validate input = .ok kunde → IsHead o.store.document row head →
      (∃ edited ∈ o.store.document.chain head.uuid, isNamed id edited = true) →
      Ends (extend head kunde input caller) o Q E) :
    Ends (update offerPrefix id input caller) o Q E := by
  change Ends (liftM (validate input) >>= fun kunde => _) o Q E
  rw [ends_bind, ends_lift]
  cases valid : validate input with
  | error e => exact refused e
  | ok kunde =>
    refine ends_bind.mpr (Ends.mono (require_ends h id) ?_ ?_)
    · rintro edited o' ⟨⟨row, mem, named, shown⟩, rfl⟩
      have inChain := Document.mem_chain.mpr ⟨mem, shown.uuid⟩
      refine ends_bind.mpr (ends_storage.mpr (Ends.mono (headOf_ends h edited.uuid) ?_ ?_))
      · rintro found o' ⟨hfound, rfl⟩
        cases found with
        | none =>
          -- The edited row itself belongs to the chain.
          exact absurd (hfound ▸ inChain) List.not_mem_nil
        | some head =>
          obtain ⟨same, headRow, isHead⟩ := hfound
          obtain ⟨n, filled, hn, -⟩ := isHead.shown.number
          have numbered : (nextNumber offerPrefix head (head.version + 1) : Work m OfferNumber) =
              pure (numberAfter head) := by
            have : n.isEmpty = false := by simpa using filled
            simp [nextNumber, numberAfter, hn, Option.filter, this]
          simp only [Option.getD_some]
          rw [numbered]
          refine ends_bind.mpr (ends_storage.mpr (ends_pure.mpr ?_))
          exact extended kunde head headRow valid isHead ⟨row, same ▸ inChain, named⟩
      · rintro e o' rfl
        exact refused _
    · rintro e o' rfl
      exact refused e

theorem extend_writes (head : Calculation) (kunde : String) (input : CalculationInput)
    (caller : Caller) :
    Writes (extend head kunde input caller) o (nextChanges o.store.document head kunde input)
      fun saved => saved.id = o.store.document.lastId table + 1 ∧ saved.uuid = head.uuid ∧
        saved.version = head.version + 1 ∧ fitsSigned saved.id = true := by
  change Writes _ o ([_] ++ changes ..) _
  refine (Performs.storage (Performs.update (retire head.uuid))).bind_writes ?_
  rintro n o' - reached
  have lastId := reached.lastId_of_update table
  rw [← lastId]
  refine (Performs.storage (store_performs ..)).bind_record ?_
  rintro saved o'' ⟨rfl, fits⟩
  exact record_ends ⟨rfl, rfl, rfl, fits⟩

end Calculations

namespace Offers

variable [Medium m] {o : Office m} {offerPrefix : String}

/-- What is done for a new offer once it has a number. -/
def createWith (uuid : String) (input : OfferInput) (caller : Caller) (number : OfferNumber) :
    Service m SavedOffer := do
  let id ← storage (store uuid input caller number)
  Log.record .create entityType (some id) (some uuid) caller
    (some (details input.kunde input.kind))
  return ⟨id, uuid, number.text⟩

/-- What is done for a new offer once it has an identifier. -/
def createAs (offerPrefix uuid : String) (input : OfferInput) (caller : Caller) :
    Service m SavedOffer := do
  createWith uuid input caller (← storage (Office.allocate offerPrefix 1))

/-- The changes for a new offer. -/
def newChanges (o : Office m) (offerPrefix uuid : String) (input : OfferInput)
    (caller : Caller) : List Change :=
  .advance (OfferNumber.counterKey o.now.year) ::
    changes (o.store.document.lastId table + 1) uuid input caller
      (.ofCounter offerPrefix o.now.year (o.nextCounter o.now.year) 1)

theorem create_ends {input : OfferInput} {caller : Caller}
    {Q : SavedOffer → Office m → Prop} {E : ServiceError → Office m → Prop} :
    Ends (create offerPrefix input caller) o Q E ↔
      match LineItems.validate input.items with
      | .ok () => Ends (createAs offerPrefix (o.supply.uuid o.supply.uuidsTaken) input caller)
          o.takeUuid Q E
      | .error e => E e o := by
  change Ends (liftM (LineItems.validate input.items) >>= fun _ => storage Office.freshUuid >>=
    fun uuid => createAs offerPrefix uuid input caller) o Q E ↔ _
  rw [ends_bind, ends_lift]
  cases LineItems.validate input.items with
  | ok _ =>
    simp only [ends_bind, ends_storage, ends_freshUuid]
    rfl
  | error e => rfl

theorem createWith_writes (uuid : String) (input : OfferInput) (caller : Caller)
    (number : OfferNumber) :
    Writes (createWith uuid input caller number) o
      (changes (o.store.document.lastId table + 1) uuid input caller number)
      fun saved => saved.id = o.store.document.lastId table + 1 ∧
        fitsSigned saved.id = true := by
  refine (Performs.storage (store_performs ..)).bind_record ?_
  rintro id o' ⟨rfl, fits⟩
  exact record_ends ⟨rfl, fits⟩

theorem createAs_writes (uuid : String) (input : OfferInput) (caller : Caller) :
    Writes (createAs offerPrefix uuid input caller) o (newChanges o offerPrefix uuid input caller)
      fun saved => saved.id = o.store.document.lastId table + 1 ∧
        fitsSigned saved.id = true := by
  change Writes _ o ([_] ++ changes ..) _
  refine (Performs.storage (allocate_performs 1)).bind_writes ?_
  rintro number o' rfl reached
  have lastId := reached.lastId_of_advance (t := table) (by decide)
  rw [← lastId]
  exact createWith_writes ..

end Offers

end OfferBook
