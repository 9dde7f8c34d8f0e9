import OfferBook.Proofs.Office.History
import OfferBook.Proofs.Sheets.Rows

/-! # The forms of all tables

What the rows look like that the services write, beyond what calculations and offers are read by.

* `Document.formOf` — the form of each table whose rows are numbered; `Accounts.form` — that of
  users, who have texts for ids.
* `Document.Tidy` — a document whose rows have their forms. Where the integers that are handed in
  fit into words, so do those that are stored.
* `Permits.tidy` — a change that a call may make leaves a tidy document.
* `Office.serveAll_tidy` — so do any number of requests to a new office.
-/

namespace OfferBook

namespace Field

/-- A title. -/
def IsTitle (v : Option Json) : Prop := ∃ s, Text.IsTitle s ∧ v = some (.text s)

/-- A number from one on, that fits into a word if the integers handed in do. -/
def IsNumber (words : Prop) (v : Option Json) : Prop :=
  ∃ n, 1 ≤ n ∧ (words → fitsSigned n = true) ∧ v = some (.int n)

end Field

/-! ## Forms -/

def Calculations.titled : Form := [("kunde", Field.IsTitle)]

def Offers.sourced (words : Prop) : Form :=
  [("source_calculation_id", fun v => words → Field.MayBeSigned v)]

def Log.form (words : Prop) : Form :=
  [("action", Field.IsText), ("entity_type", Field.IsText),
   ("entity_id", fun v => words → Field.MayBeSigned v), ("entity_uuid", Field.MayBeText),
   ("user_name", Field.IsText), ("created_at", Field.IsText)]

def LineItems.itemForm (words : Prop) : Form := [(itemNumberField, Field.IsNumber words)]

/-- Users have texts for ids, and their rows are not numbered. -/
def Accounts.form : Form :=
  [("id", Field.IsText), ("email", Field.IsText), ("password", Field.IsText),
   ("name", Field.IsText), ("role", Field.IsText), ("created_at", Field.IsText)]

namespace Document

/-- The tables with garments. -/
def itemTables : List String := ["garment_data", "garment_offer_data"]

/-- The form of the rows of a table that are numbered. Sheets for warehousing have none. -/
def formOf (words : Prop) (t : String) : Form :=
  if t = Calculations.table then Calculations.titled
  else if t = Offers.table then Offers.sourced words
  else if t = Log.table then Log.form words
  else if t ∈ itemTables then LineItems.itemForm words
  else []

/-- The tables whose rows are numbered. -/
def IsNumbered (t : String) : Prop := t ≠ countersTable ∧ t ≠ Accounts.table

instance (t : String) : Decidable (IsNumbered t) := inferInstanceAs (Decidable (_ ∧ _))

/-- A document whose rows have their forms. -/
structure Tidy (words : Prop) (doc : Document) : Prop where
  numbered : ∀ t, IsNumbered t → Regular (formOf words t) t doc
  accounts : ∀ row ∈ doc.table Accounts.table, Accounts.form.Admits row

variable {words : Prop}

theorem formOf_log : formOf words Log.table = Log.form words := by
  simp [formOf, Calculations.table, Offers.table, Log.table]

theorem formOf_garmentTable (w : Owner) :
    formOf words w.garmentTable = LineItems.itemForm words := by
  cases w <;>
    simp [formOf, Owner.garmentTable, Calculations.table, Offers.table, Log.table, itemTables]

theorem formOf_warehousingTable (w : Owner) : formOf words w.warehousingTable = [] := by
  cases w <;>
    simp [formOf, Owner.warehousingTable, Calculations.table, Offers.table, Log.table, itemTables]

namespace Tidy

variable {doc : Document} {row : Record} (h : doc.Tidy words)

include h

theorem title (mem : row ∈ doc.table Calculations.table) : Field.IsTitle (row.get? "kunde") :=
  (h.numbered _ (by decide)).admits row mem ("kunde", Field.IsTitle) List.mem_cons_self

theorem source (mem : row ∈ doc.table Offers.table) (held : words) :
    Field.MayBeSigned (row.get? "source_calculation_id") :=
  (h.numbered _ (by decide)).admits row mem
    ("source_calculation_id", fun v => words → Field.MayBeSigned v) List.mem_cons_self held

theorem item (w : Owner) (mem : row ∈ doc.table w.garmentTable) :
    Field.IsNumber words (row.get? itemNumberField) := by
  have numbered : IsNumbered w.garmentTable := by
    cases w <;> simp [IsNumbered, Owner.garmentTable, countersTable, Accounts.table]
  have regular := formOf_garmentTable w ▸ h.numbered _ numbered
  exact regular.admits row mem (itemNumberField, Field.IsNumber words) List.mem_cons_self

theorem log : Regular (Log.form words) Log.table doc := formOf_log ▸ h.numbered _ (by decide)

end Tidy

end Document

/-! ## Rows that are stored -/

namespace Change

variable {now : Instant} {words : Prop}

/-- Rows of other tables do not matter. -/
theorem suits_insert {s : Insert}
    (own : (insert s).Suits now (Document.formOf words s.table) s.table) (t : String) :
    (insert s).Suits now (Document.formOf words t) t := fun same => same ▸ own rfl

theorem suits_update {s : Update}
    (own : (update s).Suits now (Document.formOf words s.table) s.table) (t : String) :
    (update s).Suits now (Document.formOf words t) t := fun same => same ▸ own rfl

end Change

section Rows

variable {now : Instant} {words : Prop}

theorem LineItems.itemRow_suits {owner : Owner} {place : Nat} {item : GarmentItemInput}
    (first : 1 ≤ item.numberAt place) (fits : words → fitsSigned (item.numberAt place) = true)
    (t : String) :
    (Change.insert (itemRow owner place item)).Suits now (Document.formOf words t) t := by
  have names : ((itemRow owner place item).assignments now []).map Prod.fst =
      owner.column :: itemNumberField :: SheetLayout.garment.columns := by
    rw [itemRow, Insert.assignments_ofValues _ _ (by simp [CostSheet.length_values]),
      List.map_fst_zip (by simp [CostSheet.length_values])]
  refine Change.suits_insert (fun _ => ⟨?_, ?_, ?_⟩) t
  · exact names ▸ itemColumns_nodup owner
  · rw [names]
    cases owner with
    | calculation =>
      exact (by decide :
        "id" ∉ "calculation_id" :: itemNumberField :: SheetLayout.garment.columns)
    | offer =>
      exact (by decide : "id" ∉ "offer_id" :: itemNumberField :: SheetLayout.garment.columns)
  · change ∀ f ∈ Document.formOf words owner.garmentTable, _
    rw [Document.formOf_garmentTable]
    simp only [itemForm, List.forall_mem_singleton]
    exact fun id => ⟨_, first, fits, get?_itemRow_number owner now id place item⟩

theorem Calculations.titledRow_suits {uuid : String} {version : Int} {kunde : String}
    {createdBy : Option String} {input : CalculationInput} {number : OfferNumber}
    {parent : Option Int} (title : Text.IsTitle kunde) (t : String) :
    (Change.insert (row uuid version kunde createdBy input number parent)).Suits now
      (Document.formOf words t) t := by
  refine Change.suits_insert (fun _ => ⟨row_distinct, row_unnamed, ?_⟩) t
  change ∀ f ∈ titled, _
  simp only [titled, List.forall_mem_singleton]
  exact fun id => ⟨kunde, title, get?_row_of_mem (by simp [rowFields]) id⟩

theorem LineItems.warehousingRow_suits (owner : Owner) (input : WarehousingInput) (t : String) :
    (Change.insert (warehousingRow owner input)).Suits now (Document.formOf words t) t := by
  have names : ((warehousingRow owner input).assignments now []).map Prod.fst =
      owner.column :: SheetLayout.warehousing.columns := by
    rw [warehousingRow, Insert.assignments_ofValues _ _ (by simp [CostSheet.length_values]),
      List.map_fst_zip (by simp [CostSheet.length_values])]
  refine Change.suits_insert (fun _ => ⟨?_, ?_, ?_⟩) t
  · exact names ▸ warehousingColumns_nodup owner
  · rw [names]
    cases owner with
    | calculation =>
      exact (by decide : "id" ∉ "calculation_id" :: SheetLayout.warehousing.columns)
    | offer => exact (by decide : "id" ∉ "offer_id" :: SheetLayout.warehousing.columns)
  · change ∀ f ∈ Document.formOf words owner.warehousingTable, _
    rw [Document.formOf_warehousingTable]
    exact List.forall_mem_nil _

/-- What an entry of the log names. -/
def Log.entryFields (now : Instant) (action : Action) (entityType : String) (entityId : Option Int)
    (entityUuid : Option String) (caller : Caller) (details : Option Json) :
    List (String × Json) :=
  [("action", .text action.name), ("entity_type", .text entityType),
   ("entity_id", Json.ofOption .int entityId), ("entity_uuid", Json.ofOption .text entityUuid),
   ("user_id", .text caller.id), ("user_name", .text caller.name),
   ("details", Json.ofOption (.text ·.compact) details), ("created_at", .text now.timestamp)]

theorem Log.entry_suits {action : Action} {entityType : String} {entityId : Option Int}
    {entityUuid : Option String} {caller : Caller} {details : Option Json}
    (fits : words → ∀ id ∈ entityId, fitsSigned id = true) (t : String) :
    (Change.insert (entry action entityType entityId entityUuid caller details)).Suits now
      (Document.formOf words t) t := by
  have assigned : (entry action entityType entityId entityUuid caller details).assignments now [] =
      entryFields now action entityType entityId entityUuid caller details :=
    Insert.assignments_ofFields ..
  have distinct : ((entryFields now action entityType entityId entityUuid caller details).map
      Prod.fst).Nodup := by simp [entryFields]
  have given (column : String) (value : Json) (mem : (column, value) ∈
      entryFields now action entityType entityId entityUuid caller details) (id : Int) :
      ((entry action entityType entityId entityUuid caller details).row now [] id).get? column =
        some value := Insert.get?_row_of_mem (assigned ▸ distinct) (assigned ▸ mem) id
  refine Change.suits_insert (fun _ => ⟨assigned ▸ distinct, ?_, ?_⟩) t
  · simp [assigned, entryFields]
  · change ∀ f ∈ Document.formOf words table, _
    rw [Document.formOf_log]
    simp only [entryFields] at given
    simp only [Log.form, List.forall_mem_cons]
    refine ⟨fun id => ⟨action.name, given _ _ (by simp) id⟩,
      fun id => ⟨entityType, given _ _ (by simp) id⟩, fun id held => ?_, fun id => ?_,
      fun id => ⟨caller.name, given _ _ (by simp) id⟩,
      fun id => ⟨now.timestamp, given _ _ (by simp) id⟩, List.forall_mem_nil _⟩
    · rw [given _ (Json.ofOption .int entityId) (by simp)]
      exact Field.mayBeSigned_ofOption (fits held)
    · rw [given _ (Json.ofOption .text entityUuid) (by simp)]
      exact Field.mayBeText_ofOption entityUuid

/-- What the row of the first administrator names. -/
def Accounts.adminFields (now : Instant) (id email hashed name : String) : List (String × Json) :=
  [("id", .text id), ("email", .text email), ("password", .text hashed), ("name", .text name),
   ("role", .text adminRole), ("active", .bool true), ("created_at", .text now.timestamp)]

theorem Accounts.adminRow_meets (id email hashed name : String) :
    (Change.insert (adminRow id email hashed name)).Meets now form table := by
  have assigned : (adminRow id email hashed name).assignments now [] =
      adminFields now id email hashed name := Insert.assignments_ofFields ..
  have distinct : ((adminFields now id email hashed name).map Prod.fst).Nodup := by
    simp [adminFields]
  have given (column : String) (value : Json)
      (mem : (column, value) ∈ adminFields now id email hashed name) (new : Int) :
      ((adminRow id email hashed name).row now [] new).get? column = some value :=
    Insert.get?_row_of_mem (assigned ▸ distinct) (assigned ▸ mem) new
  simp only [adminFields] at given
  intro _
  simp only [form, List.forall_mem_cons]
  exact ⟨fun new => ⟨id, given _ _ (by simp) new⟩, fun new => ⟨email, given _ _ (by simp) new⟩,
    fun new => ⟨hashed, given _ _ (by simp) new⟩, fun new => ⟨name, given _ _ (by simp) new⟩,
    fun new => ⟨adminRole, given _ _ (by simp) new⟩,
    fun new => ⟨now.timestamp, given _ _ (by simp) new⟩, List.forall_mem_nil _⟩

theorem Stores.suits {call : Call} {s : Insert} (h : Stores call s) (held : words → call.InWords)
    (t : String) : (Change.insert s).Suits now (Document.formOf words t) t := by
  cases h with
  | firstVersion title | nextVersion title => exact Calculations.titledRow_suits title t
  | @offer uuid input caller number source =>
    refine Change.suits_insert (fun _ => ⟨Offers.row_distinct, Offers.row_unnamed, ?_⟩) t
    change ∀ f ∈ Offers.sourced words, _
    simp only [Offers.sourced, List.forall_mem_singleton]
    intro id inWords
    have stored : ((Offers.row uuid input caller number).row now [] id).get?
        "source_calculation_id" = some (Json.ofOption .int input.source) :=
      Offers.get?_row_of_mem (by simp [Offers.rowFields]) id
    rw [stored]
    exact Field.mayBeSigned_ofOption (source (held inWords))
  | item first fits => exact LineItems.itemRow_suits first (fun inWords => fits (held inWords)) t
  | warehousing owner input => exact LineItems.warehousingRow_suits owner input t

end Rows

/-! ## Changes -/

namespace Permits

variable {call : Call} {c : Change} {now : Instant} {words : Prop}

theorem suits (h : Permits call c) (held : words → call.InWords) {t : String}
    (numbered : Document.IsNumbered t) : c.Suits now (Document.formOf words t) t := by
  cases h with
  | insert _ stores => exact stores.suits held t
  | advance => exact numbered.1
  | entry fits => exact Log.entry_suits (fun inWords => fits (held inWords)) t
  | newAccount | account => exact fun same => absurd same.symm numbered.2
  | retire uuid =>
    refine Change.suits_update (fun _ => ?_) t
    change ∀ a ∈ (Calculations.retire uuid).assignments, _ ∧ ∀ f ∈ Calculations.titled, _
    simp [Calculations.retire, Calculations.titled]
  | @retitle uuid title filled =>
    refine Change.suits_update (fun _ => ?_) t
    change ∀ a ∈ (Calculations.retitle uuid (Text.trim title)).assignments,
      _ ∧ ∀ f ∈ Calculations.titled, _
    simpa [Calculations.retitle, Calculations.titled, Field.IsTitle] using filled
  | deleteCalculation =>
    refine Change.suits_update (fun _ => ?_) t
    change ∀ a ∈ (Calculations.markDeleted Calculations.table _).assignments,
      _ ∧ ∀ f ∈ Calculations.titled, _
    simp [Calculations.markDeleted, Calculations.titled]
  | deleteOffer =>
    refine Change.suits_update (fun _ => ?_) t
    change ∀ a ∈ (Calculations.markDeleted Offers.table _).assignments,
      _ ∧ ∀ f ∈ Offers.sourced words, _
    simp [Calculations.markDeleted, Offers.sourced]
  | markSent =>
    refine Change.suits_update (fun _ => ?_) t
    change ∀ a ∈ (Offers.markSent _).assignments, _ ∧ ∀ f ∈ Offers.sourced words, _
    simp [Offers.markSent, Offers.sourced]

theorem meets_accounts (h : Permits call c) : c.Meets now Accounts.form Accounts.table := by
  rcases h.accounts_cases with spares | ⟨_, email, name, _, id, hashed, -, rfl⟩ | ⟨id, hashed, rfl⟩
  · cases c with
    | insert | update => exact fun same => absurd same spares
    | advance => exact Ne.symm spares
  · exact Accounts.adminRow_meets id email hashed name
  · simp [Change.Meets, Accounts.setPassword, Accounts.form, Field.IsText]

theorem tidy (h : Permits call c) (held : words → call.InWords) {doc : Document}
    (tidy : doc.Tidy words) : (c.apply now doc).Tidy words where
  numbered t numbered := (tidy.numbered t numbered).apply (h.suits held numbered)
  accounts := h.meets_accounts.admits tidy.accounts

end Permits

/-! ## Runs -/

namespace Document

theorem IsEmpty.tidy {doc : Document} (h : doc.IsEmpty) (words : Prop) : doc.Tidy words where
  numbered t _ := h.regular _ t
  accounts := by
    rw [(h _).1]
    exact List.forall_mem_nil _

end Document

namespace Office

variable {m : Type} [Medium m] {offerPrefix : String} {o : Office m} {words : Prop}

theorem serve_tidy (h : o.Sound) (tidy : o.store.document.Tidy words) (r : Request)
    (held : words → r.call.InWords) : (serve offerPrefix o r).store.document.Tidy words := by
  obtain ⟨changes, permitted, reached⟩ := serve_made offerPrefix h r
  rw [reached.document]
  exact Change.applyAll_induction (P := fun doc => doc.Tidy words)
    (fun c hc _ tidy => (permitted c hc).tidy held tidy) tidy

theorem serveAll_tidy (h : o.Sound) (tidy : o.store.document.Tidy words) (rs : List Request)
    (held : words → ∀ r ∈ rs, r.call.InWords) :
    (serveAll offerPrefix o rs).store.document.Tidy words := by
  induction rs generalizing o with
  | nil => exact tidy
  | cons r rest ih =>
    refine ih (h.serve r) (serve_tidy h tidy r fun inWords => ?_) fun inWords r' mem => ?_
    · exact held inWords r List.mem_cons_self
    · exact held inWords r' (List.mem_cons_of_mem r mem)

end Office

end OfferBook
