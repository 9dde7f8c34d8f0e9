import OfferBook.Proofs.Office.Effects
import OfferBook.Proofs.Sheets.Rows
import OfferBook.Proofs.Statement.Composed
import OfferBook.Proofs.Store.Reopening

/-! # The texts of the services' statements

Every statement of the services is prepared as a text, in whose placeholders its values are put.

* `Prepared` — the table of these texts: what each is read as, its parameters, and the statement
  that is executed for it.
* `Prepared.read`, `Prepared.filled` — a text is read as is said, and its parameters make the
  statement of it; `Prepared.meant` — both together.
* `Prepared.select_eq`, `Prepared.insert_eq`, `Prepared.update_eq` — executing a statement in an
  office is running its text with its parameters.
* `Office.serve_prepared` — all that a request changes, it changes by such texts and by counters.
* `Document.Edited`, `Office.serveAll_edited` — so it is with any number of requests, to an office
  of any form.
-/

namespace OfferBook

/-! ## The texts -/

/-- A column has the value of a parameter. -/
def Condition.given (column : String) : Condition := .equals (.bare column) .placeholder

/-- Parameters for some columns. -/
def Operand.given (columns : List String) : List (String × Operand) :=
  columns.map (·, .placeholder)

/-- A text of the services, what it is read as, its parameters, and the statement that is executed
    for it. -/
inductive Prepared : String → Statement → List Json → Statement → Prop
  -- accounts
  | accountOfEmail (email : String) :
    Prepared "SELECT * FROM users WHERE email = ?"
      (.select (.matching "users" [.given "email"])) [.text email]
      (.select (.matching Accounts.table [.is "email" (.text email)]))
  | adminRow (id email hashed name : String) :
    Prepared "INSERT INTO users (id, email, password, name, role, active, created_at)
                 VALUES (?, ?, ?, ?, 'admin', TRUE, datetime('now'))"
      (.insert (.ofFields "users" (Operand.given ["id", "email", "password", "name"] ++
        [("role", .literal (.text "admin")), ("active", .literal (.bool true)),
         ("created_at", .now)])))
      [.text id, .text email, .text hashed, .text name]
      (.insert (Accounts.adminRow id email hashed name))
  | active (id : String) :
    Prepared "SELECT id, name, email, role FROM users WHERE id = ? AND active = 1"
      (.select ((Select.matching "users" [.given "id", .is "active" (.int 1)]).only
        ["id", "name", "email", "role"])) [.text id]
      (.select (Accounts.active id))
  | activeAdmin :
    Prepared "SELECT * FROM users WHERE role = ? AND active = 1 LIMIT 1"
      (.select { Select.matching "users" [.given "role", .is "active" (.int 1)] with
        limit := some (.literal (.int 1)) }) [.text "admin"]
      (.select Accounts.activeAdmin)
  | account (id : String) :
    Prepared "SELECT * FROM users WHERE id = ?"
      (.select (.matching "users" [.given "id"])) [.text id]
      (.select (.matching Accounts.table [.is "id" (.text id)]))
  | setPassword (id hashed : String) :
    Prepared "UPDATE users SET password = ? WHERE id = ?"
      (.update ⟨"users", Operand.given ["password"], [.given "id"]⟩) [.text hashed, .text id]
      (.update (Accounts.setPassword id hashed))
  -- the log
  | entry (action : Action) (entityType : String) (entityId : Option Int)
      (entityUuid : Option String) (caller : Caller) (details : Option Json) :
    Prepared "INSERT INTO calculation_logs (action, entity_type, entity_id, entity_uuid, user_id, user_name, details, created_at)
                 VALUES (?, ?, ?, ?, ?, ?, ?, datetime('now'))"
      (.insert (.ofFields "calculation_logs" (Operand.given ["action", "entity_type", "entity_id",
        "entity_uuid", "user_id", "user_name", "details"] ++ [("created_at", .now)])))
      [.text action.name, .text entityType, Json.ofOption .int entityId,
        Json.ofOption .text entityUuid, .text caller.id, .text caller.name,
        Json.ofOption (.text ·.compact) details]
      (.insert (Log.entry action entityType entityId entityUuid caller details))
  | page (limit offset : Nat) :
    Prepared "SELECT * FROM calculation_logs ORDER BY id DESC LIMIT ? OFFSET ?"
      (.select { (Select.matching "calculation_logs" []).ordered (.bare "id") true with
        limit := some .placeholder, offset := some .placeholder }) [.int limit, .int offset]
      (.select { Log.newestFirst with
        limit := some (.literal (.int limit)), offset := some (.literal (.int offset)) })
  | newestFirst :
    Prepared "SELECT * FROM calculation_logs ORDER BY id DESC"
      (.select Log.newestFirst) [] (.select Log.newestFirst)
  -- calculations
  | remainingCalculations :
    Prepared "SELECT c.*, u.name as created_by_name
                 FROM calculations c
                 LEFT JOIN users u ON c.created_by = u.id
                 WHERE c.deleted_at IS NULL
                 ORDER BY c.id DESC"
      (.select (Creators.remaining "calculations" "c")) []
      (.select (Creators.remaining Calculations.table "c"))
  | calculation (id : Int) :
    Prepared "SELECT * FROM calculations WHERE id = ?"
      (.select (.matching "calculations" [.given "id"])) [.int id]
      (.select (.matching Calculations.table [.is "id" (.int id)]))
  | head (uuid : String) :
    Prepared "SELECT * FROM calculations WHERE calculation_uuid = ? ORDER BY version DESC LIMIT 1"
      (.select { (Select.matching "calculations" [.given "calculation_uuid"]).ordered
        (.bare "version") true with limit := some (.literal (.int 1)) }) [.text uuid]
      (.select { (Select.matching Calculations.table
          [.is "calculation_uuid" (.text uuid)]).ordered (.bare "version") true with
        limit := some (.literal (.int 1)) })
  | latest (uuid : String) :
    Prepared "SELECT * FROM calculations WHERE calculation_uuid = ? AND is_current = 1 AND deleted_at IS NULL"
      (.select (.matching "calculations"
        [.given "calculation_uuid", .is "is_current" (.int 1), .missing "deleted_at"]))
      [.text uuid]
      (.select (.matching Calculations.table [.is "calculation_uuid" (.text uuid),
        .is "is_current" (.int 1), .missing "deleted_at"]))
  | history (uuid : String) :
    Prepared "SELECT c.*, u.name as created_by_name
                 FROM calculations c
                 LEFT JOIN users u ON c.created_by = u.id
                 WHERE c.calculation_uuid = ?
                 ORDER BY c.version DESC"
      (.select (Creators.joined "calculations" "c" [Creators.name]
        [.equals ⟨some "c", "calculation_uuid"⟩ .placeholder] "version")) [.text uuid]
      (.select (Calculations.history uuid))
  | firstVersion (uuid kunde createdBy : String) (input : CalculationInput)
      (number : OfferNumber) :
    Prepared "INSERT INTO calculations (calculation_uuid, version, kunde, created_by, status, calculation_type, offer_number, is_current, parent_version_id, created_at, modified_at)
                 VALUES (?, 1, ?, ?, ?, ?, ?, TRUE, NULL, datetime('now'), datetime('now'))"
      (.insert (.ofFields "calculations" ([("calculation_uuid", .placeholder),
          ("version", .literal (.int 1))] ++
        Operand.given ["kunde", "created_by", "status", "calculation_type", "offer_number"] ++
        [("is_current", .literal (.bool true)), ("parent_version_id", .literal .null),
         ("created_at", .now), ("modified_at", .now)])))
      [.text uuid, .text kunde, .text createdBy, .text (Calculations.status input),
        .text input.kind.name, .text number.text]
      (.insert (Calculations.row uuid 1 kunde (some createdBy) input number none))
  | nextVersion (uuid : String) (version : Int) (kunde : String) (createdBy : Option String)
      (input : CalculationInput) (number : OfferNumber) (parent : Int) :
    Prepared "INSERT INTO calculations (calculation_uuid, version, kunde, created_by, status, calculation_type, offer_number, is_current, parent_version_id, created_at, modified_at)
                 VALUES (?, ?, ?, ?, ?, ?, ?, TRUE, ?, datetime('now'), datetime('now'))"
      (.insert (.ofFields "calculations" (Operand.given ["calculation_uuid", "version", "kunde",
          "created_by", "status", "calculation_type", "offer_number"] ++
        [("is_current", .literal (.bool true)), ("parent_version_id", .placeholder),
         ("created_at", .now), ("modified_at", .now)])))
      [.text uuid, .int version, .text kunde, Json.ofOption .text createdBy,
        .text (Calculations.status input), .text input.kind.name, .text number.text, .int parent]
      (.insert (Calculations.row uuid version kunde createdBy input number (some parent)))
  | retire (uuid : String) :
    Prepared "UPDATE calculations SET is_current = FALSE WHERE calculation_uuid = ?"
      (.update ⟨"calculations", [("is_current", .literal (.bool false))],
        [.given "calculation_uuid"]⟩) [.text uuid]
      (.update (Calculations.retire uuid))
  | deleteCalculation (id : Int) :
    Prepared "UPDATE calculations SET deleted_at = datetime('now') WHERE id = ? AND deleted_at IS NULL"
      (.update ⟨"calculations", [("deleted_at", .now)], [.given "id", .missing "deleted_at"]⟩)
      [.int id] (.update (Calculations.markDeleted Calculations.table id))
  | retitle (uuid title : String) :
    Prepared "UPDATE calculations SET kunde = ?, modified_at = datetime('now')
                 WHERE calculation_uuid = ? AND deleted_at IS NULL"
      (.update ⟨"calculations", [("kunde", .placeholder), ("modified_at", .now)],
        [.given "calculation_uuid", .missing "deleted_at"]⟩) [.text title, .text uuid]
      (.update (Calculations.retitle uuid title))
  | numberCalculation (id : Int) (number : OfferNumber) :
    Prepared "UPDATE calculations SET offer_number = ? WHERE id = ?"
      (.update ⟨"calculations", Operand.given ["offer_number"], [.given "id"]⟩)
      [.text number.text, .int id] (.update (numbering Calculations.table id number))
  -- offers
  | remainingOffers :
    Prepared "SELECT o.*, u.name as created_by_name
                 FROM offers o
                 LEFT JOIN users u ON o.created_by = u.id
                 WHERE o.deleted_at IS NULL
                 ORDER BY o.id DESC"
      (.select (Creators.remaining "offers" "o")) []
      (.select (Creators.remaining Offers.table "o"))
  | offer (id : Int) :
    Prepared "SELECT * FROM offers WHERE id = ?"
      (.select (.matching "offers" [.given "id"])) [.int id]
      (.select (.matching Offers.table [.is "id" (.int id)]))
  | newOffer (uuid : String) (input : OfferInput) (caller : Caller) (number : OfferNumber) :
    Prepared "INSERT INTO offers (
                   offer_uuid, offer_type, source_calculation_id, kunde, customer_name,
                   customer_company, customer_street, customer_postal_code, customer_city,
                   customer_country, customer_email, customer_phone, created_by,
                   valid_until, status, notes, message, delivery_option, snapshot_data,
                   offer_number, created_at
                 ) VALUES (?, ?, ?, ?, ?, ?, ?, ?, ?, ?, ?, ?, ?, ?, ?, ?, ?, ?, ?, ?, datetime('now'))"
      (.insert (.ofFields "offers" (Operand.given (["offer_uuid", "offer_type",
          "source_calculation_id", "kunde"] ++ Customer.fieldNames ++ ["created_by",
          "valid_until", "status", "notes", "message", "delivery_option", "snapshot_data",
          "offer_number"]) ++ [("created_at", .now)])))
      ([.text uuid, .text input.kind.name, Json.ofOption .int input.source,
          Json.ofOption .text (nonBlank? input.kunde)] ++
        (input.customer.values.map fun v => Json.ofOption .text (nonBlank? v)) ++
        [.text caller.id, Json.ofOption .text (nonBlank? input.validUntil),
          .text (input.status.getD default).name, Json.ofOption .text (nonBlank? input.notes),
          Json.ofOption .text (nonBlank? input.message),
          Json.ofOption .text (nonBlank? input.deliveryOption),
          Json.ofOption (.text ·.compact) input.snapshot, .text number.text])
      (.insert (Offers.row uuid input caller number))
  | deleteOffer (id : Int) :
    Prepared "UPDATE offers SET deleted_at = datetime('now') WHERE id = ? AND deleted_at IS NULL"
      (.update ⟨"offers", [("deleted_at", .now)], [.given "id", .missing "deleted_at"]⟩)
      [.int id] (.update (Calculations.markDeleted Offers.table id))
  | markSent (id : Int) :
    Prepared "UPDATE offers SET status = 'sent', sent_at = datetime('now') WHERE id = ?"
      (.update ⟨"offers", [("status", .literal (.text "sent")), ("sent_at", .now)],
        [.given "id"]⟩) [.int id]
      (.update (Offers.markSent id))
  | numberOffer (id : Int) (number : OfferNumber) :
    Prepared "UPDATE offers SET offer_number = ? WHERE id = ?"
      (.update ⟨"offers", Operand.given ["offer_number"], [.given "id"]⟩)
      [.text number.text, .int id] (.update (numbering Offers.table id number))
  -- cost sheets
  | item (w : Owner) (place : Nat) (item : GarmentItemInput) :
    Prepared (Insert.compose w.garmentTable
        (w.column :: itemNumberField :: SheetLayout.garment.columns))
      (.insert (.ofColumns w.garmentTable
        (w.column :: itemNumberField :: SheetLayout.garment.columns)))
      (.int w.id :: .int (item.numberAt place) :: item.costs.normalize.values)
      (.insert (LineItems.itemRow w place item))
  | warehousing (w : Owner) (input : WarehousingInput) :
    Prepared (Insert.compose w.warehousingTable (w.column :: SheetLayout.warehousing.columns))
      (.insert (.ofColumns w.warehousingTable (w.column :: SheetLayout.warehousing.columns)))
      (.int w.id :: input.normalize.values) (.insert (LineItems.warehousingRow w input))
  | items (w : Owner) :
    Prepared ("SELECT * FROM " ++ w.garmentTable ++ " WHERE " ++ w.column ++
        " = ? ORDER BY item_number ASC")
      (.select ((Select.matching w.garmentTable [.given w.column]).ordered (.bare "item_number")
        false)) [.int w.id]
      (.select ((Select.matching w.garmentTable [w.owns]).ordered (.bare itemNumberField) false))
  | warehousingOf (w : Owner) :
    Prepared ("SELECT * FROM " ++ w.warehousingTable ++ " WHERE " ++ w.column ++ " = ?")
      (.select (.matching w.warehousingTable [.given w.column])) [.int w.id]
      (.select (.matching w.warehousingTable [w.owns]))
  -- the export
  | allCalculations :
    Prepared "SELECT c.*, u.name as created_by_name, u.email as created_by_email
                 FROM calculations c
                 LEFT JOIN users u ON c.created_by = u.id
                 ORDER BY c.id DESC"
      (.select (Creators.listing "calculations" "c")) []
      (.select (Creators.listing Calculations.table "c"))
  | allOffers :
    Prepared "SELECT o.*, u.name as created_by_name, u.email as created_by_email
                 FROM offers o
                 LEFT JOIN users u ON o.created_by = u.id
                 ORDER BY o.id DESC"
      (.select (Creators.listing "offers" "o")) [] (.select (Creators.listing Offers.table "o"))
  | children (w : Owner) (table : String) (sheets : table = w.garmentTable ∨
      table = w.warehousingTable) :
    Prepared ("SELECT * FROM " ++ table ++ " ORDER BY item_number ASC")
      (.select ((Select.matching table []).ordered (.bare "item_number") false)) []
      (.select ((Select.matching table []).ordered (.bare itemNumberField) false))

/-! ## What the texts mean -/

/-- The owners of cost sheets go by the names of calculations, or by those of offers. -/
theorem Owner.names (w : Owner) :
    (w.column = "calculation_id" ∧ w.garmentTable = "garment_data" ∧
      w.warehousingTable = "warehousing_data") ∨
    w.column = "offer_id" ∧ w.garmentTable = "garment_offer_data" ∧
      w.warehousingTable = "warehousing_offer_data" := by
  cases w with
  | calculation => exact .inl ⟨rfl, rfl, rfl⟩
  | offer => exact .inr ⟨rfl, rfl, rfl⟩

theorem Owner.isNameWord (w : Owner) :
    IsNameWord w.column ∧ IsNameWord w.garmentTable ∧ IsNameWord w.warehousingTable := by
  rcases w.names with ⟨column, items, other⟩ | ⟨column, items, other⟩ <;>
    rw [column, items, other] <;> decide +kernel

namespace Prepared

variable {sql : String} {shape s : Statement} {params : List Json}

set_option maxRecDepth 8000 in
/-- Each text is read as is said. -/
theorem read (h : Prepared sql shape params s) : Statement.parse? sql = some shape := by
  cases h with
  | item w =>
    obtain ⟨column, table, -⟩ := w.isNameWord
    refine Insert.parse?_compose table (List.forall_mem_cons.mpr ⟨column, ?_⟩) (by simp)
    decide +kernel
  | warehousing w =>
    obtain ⟨column, -, table⟩ := w.isNameWord
    refine Insert.parse?_compose table (List.forall_mem_cons.mpr ⟨column, ?_⟩) (by simp)
    decide +kernel
  | items w =>
    rcases w.names with ⟨column, table, -⟩ | ⟨column, table, -⟩ <;> rw [column, table] <;>
      decide +kernel
  | warehousingOf w =>
    rcases w.names with ⟨column, -, table⟩ | ⟨column, -, table⟩ <;> rw [column, table] <;>
      decide +kernel
  | children w table sheets =>
    rcases w.names with ⟨-, items, other⟩ | ⟨-, items, other⟩ <;> rw [items, other] at sheets <;>
      rcases sheets with rfl | rfl <;> decide +kernel
  | _ =>
    -- Evaluation begins with the characters; it is slow to find them in a text.
    refine Statement.parse?_ofList ?_
    decide +kernel

/-- The parameters make the statement of what is read. -/
theorem filled (h : Prepared sql shape params s) : shape.fill params = s := by
  cases h with
  | item w place item =>
    exact congrArg Statement.insert (Insert.fill_ofColumns (by simp [CostSheet.length_values]))
  | warehousing w input =>
    exact congrArg Statement.insert (Insert.fill_ofColumns (by simp [CostSheet.length_values]))
  | _ => rfl

/-- Each text is, with its parameters in place, the statement that is executed for it. -/
theorem meant (h : Prepared sql shape params s) :
    (Statement.parse? sql).map (·.fill params) = some s := by
  rw [h.read, Option.map_some, h.filled]

/-! ## Statements that are executed -/

section Texts

variable {m : Type} [Medium m] (now : Instant)

theorem execute_eq (h : Prepared sql shape params s) :
    (Store.execute now params shape : StoreM m Outcome) = Store.execute now [] s := by
  rw [← h.filled, Store.execute_fill]

theorem all_eq {s : Select} (h : Prepared sql shape params (.select s)) :
    (Store.all now params sql : StoreM m (List Record)) = Store.select now [] s := by
  simp only [Store.all, h.read, h.execute_eq now]
  simp only [Store.execute, bind_assoc, pure_bind, bind_pure]

theorem run_insert_eq {s : Insert} (h : Prepared sql shape params (.insert s)) :
    (Store.run now params sql : StoreM m Execution) = Store.commit (s.apply now []) := by
  simp only [Store.run, h.read, h.execute_eq now]
  simp only [Store.execute, bind_assoc, pure_bind, bind_pure]

theorem run_update_eq {s : Update} (h : Prepared sql shape params (.update s)) :
    (Store.run now params sql : StoreM m Execution) = Store.commit (s.apply now []) := by
  simp only [Store.run, h.read, h.execute_eq now]
  simp only [Store.execute, bind_assoc, pure_bind, bind_pure]

/-- Rows are selected by the text. -/
theorem select_eq {s : Select} (h : Prepared sql shape params (.select s)) :
    (Office.select s : Work m (List Record)) =
      Office.onStore fun now => Store.all now params sql :=
  congrArg Office.onStore (funext fun now => (h.all_eq now).symm)

/-- A row is inserted by the text. -/
theorem insert_eq {s : Insert} (h : Prepared sql shape params (.insert s)) :
    (Office.insert s : Work m Execution) = Office.onStore fun now => Store.run now params sql :=
  congrArg Office.onStore (funext fun now => (h.run_insert_eq now).symm)

/-- Rows are changed by the text. -/
theorem update_eq {s : Update} (h : Prepared sql shape params (.update s)) :
    (Office.update s : Work m Nat) = do
      return (← Office.onStore fun now => Store.run now params sql).changes := by
  simp only [h.run_update_eq]
  rfl

end Texts

end Prepared

/-! ## All that is changed -/

/-- The statement that makes a change. None counts a counter up. -/
def Change.statement? : Change → Option Statement
  | .insert s => some (.insert s)
  | .update s => some (.update s)
  | .advance _ => none

/-- The statement of a change, if there is one, is prepared as a text. -/
def Change.IsPrepared (c : Change) : Prop :=
  ∀ s ∈ c.statement?, ∃ sql shape params, Prepared sql shape params s

/-- A document after some runs of the services' texts, and some counting. -/
inductive Document.Edited (doc : Document) : Document → Prop
  | refl : Edited doc doc
  | text {doc' : Document} (before : Edited doc doc') {sql : String} {shape s : Statement}
      {params : List Json} (prepared : Prepared sql shape params s) {now : Instant}
      {change : Document → Document}
      (run : Store.statementChange? now params (Statement.parse? sql) = some change) :
    Edited doc (change doc')
  | counter {doc' : Document} (before : Edited doc doc') (now : Instant) (key : String) :
    Edited doc (doc'.advanceCounter now key).2

/-- Running a text has the effect of the statement that is executed for it. -/
theorem Prepared.change_eq {sql : String} {shape s : Statement} {params : List Json}
    (h : Prepared sql shape params s) (now : Instant) :
    Store.statementChange? now params (Statement.parse? sql) =
      Store.statementChange? now [] (some s) := by
  rw [h.read, ← h.filled]
  cases shape with
  | insert t => simp only [Statement.fill, Store.statementChange?, Insert.apply_fill]
  | select t => rfl
  | update t => simp only [Statement.fill, Store.statementChange?, Update.apply_fill]
  | delete t => simp only [Statement.fill, Store.statementChange?, Delete.apply_fill]

theorem Document.Edited.apply {doc doc' : Document} (before : doc.Edited doc') {c : Change}
    (prepared : c.IsPrepared) (now : Instant) : doc.Edited (c.apply now doc') := by
  cases c with
  | insert s =>
    obtain ⟨sql, shape, params, text⟩ := prepared _ rfl
    exact .text before text (text.change_eq now)
  | update s =>
    obtain ⟨sql, shape, params, text⟩ := prepared _ rfl
    exact .text before text (text.change_eq now)
  | advance key => exact .counter before now key

theorem Permits.isPrepared {call : Call} {c : Change} (h : Permits call c) : c.IsPrepared := by
  rintro s made
  cases h with
  | advance => cases made
  | insert _ stores =>
    obtain rfl := Option.some.inj made
    cases stores with
    | firstVersion => exact ⟨_, _, _, .firstVersion ..⟩
    | nextVersion => exact ⟨_, _, _, .nextVersion ..⟩
    | offer => exact ⟨_, _, _, .newOffer ..⟩
    | item => exact ⟨_, _, _, .item ..⟩
    | warehousing => exact ⟨_, _, _, .warehousing ..⟩
  | entry => exact Option.some.inj made ▸ ⟨_, _, _, .entry ..⟩
  | newAccount => exact Option.some.inj made ▸ ⟨_, _, _, .adminRow ..⟩
  | account => exact Option.some.inj made ▸ ⟨_, _, _, .setPassword ..⟩
  | retire => exact Option.some.inj made ▸ ⟨_, _, _, .retire ..⟩
  | retitle => exact Option.some.inj made ▸ ⟨_, _, _, .retitle ..⟩
  | deleteCalculation => exact Option.some.inj made ▸ ⟨_, _, _, .deleteCalculation ..⟩
  | deleteOffer => exact Option.some.inj made ▸ ⟨_, _, _, .deleteOffer ..⟩
  | markSent => exact Option.some.inj made ▸ ⟨_, _, _, .markSent ..⟩

namespace Office

variable {m : Type} [Medium m] {offerPrefix : String}

/-- A counter is counted up by no statement. -/
theorem isPrepared_advance (key : String) : (Change.advance key).IsPrepared := by
  rintro s ⟨⟩

/-- A row without a number gets one. -/
theorem numbering_prepared {α : Type} {t : String}
    (text : ∀ id n, ∃ sql shape params, Prepared sql shape params (.update (numbering t id n)))
    (id version : Int) (number : Option String) (a : α) (f : OfferNumber → α) :
    Makes Change.IsPrepared (if (number.getD "").isEmpty then do
        let number ← allocate offerPrefix version
        let _ ← update (numbering t id number)
        return f number
      else return a : Work m α) := by
  split
  · refine (Makes.allocate isPrepared_advance _).bind fun n => ?_
    refine (Makes.update ?_).bind fun _ => .pure _
    rintro s ⟨⟩
    exact text id n
  · exact .pure a

theorem calculationDetail_prepared (c : Calculation) :
    Makes Change.IsPrepared (Calculations.detail offerPrefix c : Work m CalculationDetail) := by
  have backfilled : Makes Change.IsPrepared
      (Calculations.backfill offerPrefix c : Work m Calculation) :=
    numbering_prepared (fun _ _ => ⟨_, _, _, .numberCalculation ..⟩) c.id (max c.version 1)
      c.offerNumber c fun n => { c with offerNumber := some n.text }
  exact backfilled.bind fun c => ((Looks.sheets _ _).makes _).bind fun _ => .pure _

theorem offerDetail_prepared (id : Int) (offer : Offer) :
    Makes Change.IsPrepared (Offers.detail offerPrefix id offer : Work m OfferDetail) := by
  have backfilled : Makes Change.IsPrepared
      (Offers.backfill offerPrefix id offer : Work m Offer) :=
    numbering_prepared (fun _ _ => ⟨_, _, _, .numberOffer ..⟩) id 1 offer.offerNumber offer
      fun n => { offer with offerNumber := some n.text }
  exact backfilled.bind fun offer => ((Looks.sheets _ _).makes _).bind fun _ => .pure _

theorem work_prepared (call : Call) :
    Makes Change.IsPrepared (call.work offerPrefix : Service m Unit) := by
  cases plain : call.looksUpDetail with
  | false => exact (work_makes plain).mono fun _ => Permits.isPrepared
  | true =>
    cases call with
    | getCalculation id =>
      refine Makes.discard (((Looks.calculations_require id).makes _).bind fun c => ?_)
      exact (calculationDetail_prepared c).storage
    | latestCalculation uuid =>
      refine Makes.discard (((Looks.selectFirst _ _).makes _).storage.bind fun found => ?_)
      cases found with
      | some c => exact (calculationDetail_prepared c).storage
      | none => exact (Looks.throw _).makes _
    | getOffer id =>
      refine Makes.discard (((Looks.offers_require id).makes _).bind fun offer => ?_)
      exact (offerDetail_prepared id offer).storage
    | _ => exact Bool.noConfusion plain

/-- Whatever a request changes, it changes by texts of the services and by counters, whatever the
    rows are and wherever it is cut short. -/
theorem serve_prepared (offerPrefix : String) (o : Office m) (r : Request) :
    Made Change.IsPrepared (o.setNow r.now) (serve offerPrefix o r) :=
  Ends.snd (work_prepared r.call (o.setNow r.now))

/-- So the document after any number of requests is what running such texts makes of the first. -/
theorem serveAll_edited (offerPrefix : String) (o : Office m) (rs : List Request) :
    o.store.document.Edited (serveAll offerPrefix o rs).store.document := by
  refine serveAll_induction (P := fun _ o' => o.store.document.Edited o'.store.document)
    (n := 0) .refl ?_ rs
  intro _ o' r before
  obtain ⟨changes, prepared, reached⟩ := serve_prepared offerPrefix o' r
  rw [reached.document]
  exact Change.applyAll_induction (fun c mem _ before => before.apply (prepared c mem) _) before

end Office

end OfferBook
