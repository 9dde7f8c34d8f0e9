import OfferBook.Proofs.Office.Soundness

/-! # How the tables grow

A request, cut short or not, adds at most one row to the calculations and the offers together,
and counts at most one counter up.

* `Office.Holds` — the rows of calculations, offers and counters.
* `Office.Growth` — the six things that can become of them.
* `Office.Core.growth` — the core of a request is one of the six.
* `Annotated` — rows of which only annotations have changed; `Office.Aside.annotated` — changes on
  the side do no more.
-/

namespace OfferBook

/-- What a sequence that was cut short may have done, where only the first two changes matter. -/
theorem cut_cases {α : Type} {a b : α} {done rest : List α} (h : done <+: a :: b :: rest) :
    done = [] ∨ done = [a] ∨ ∃ more, more <+: rest ∧ done = [a, b] ++ more := by
  match done with
  | [] => exact .inl rfl
  | [x] =>
    obtain ⟨rfl, -⟩ := List.cons_prefix_cons.mp h
    exact .inr (.inl rfl)
  | x :: y :: more =>
    simp only [List.cons_prefix_cons] at h
    obtain ⟨rfl, rfl, h⟩ := h
    exact .inr (.inr ⟨more, h, rfl⟩)

theorem LineItems.spares_of_mem {t : String} {owner : Owner} {kind : SheetKind}
    {items : List GarmentItemInput} {warehousing : Option WarehousingInput}
    (garment : owner.garmentTable ≠ t) (storage : owner.warehousingTable ≠ t) {c : Change}
    (h : c ∈ LineItems.changes owner kind items warehousing) : c.Spares t := by
  obtain ⟨-, ⟨place, item, rfl⟩ | ⟨input, rfl⟩⟩ := sheet_of_mem h
  · exact garment
  · exact storage

@[simp] theorem Calculations.row_table (uuid : String) (version : Int) (kunde : String)
    (createdBy : Option String) (input : CalculationInput) (number : OfferNumber)
    (parent : Option Int) :
    (row uuid version kunde createdBy input number parent).table = table := rfl

@[simp] theorem Offers.row_table (uuid : String) (input : OfferInput) (caller : Caller)
    (number : OfferNumber) : (row uuid input caller number).table = table := rfl

namespace Office

variable {m : Type} {offerPrefix : String} {o o' : Office m}

/-- The rows of three tables. -/
structure Holds (o : Office m) (calculations offers counters : List Record) : Prop where
  calculations : o.store.document.table Calculations.table = calculations
  offers : o.store.document.table Offers.table = offers
  counters : o.store.document.table Document.countersTable = counters

def calculations (o : Office m) : List Record := o.store.document.table Calculations.table

def offers (o : Office m) : List Record := o.store.document.table Offers.table

def counters (o : Office m) : List Record := o.store.document.table Document.countersTable

/-- The counters once the one of a year is counted up. -/
def countersAfter (o : Office m) (year : Int) : List Record :=
  ((Change.advance (OfferNumber.counterKey year)).apply o.now o.store.document).table
    Document.countersTable

/-- The next number of the present year, for a first version. -/
def nextNumber (offerPrefix : String) (o : Office m) : OfferNumber :=
  .ofCounter offerPrefix o.now.year (o.nextCounter o.now.year) 1

/-- The row of a first version. -/
def firstRow (offerPrefix : String) (o : Office m) (uuid kunde : String)
    (input : CalculationInput) (caller : Caller) : Record :=
  (Calculations.row uuid 1 kunde (some caller.id) input (nextNumber offerPrefix o) none).row o.now
    [] (o.store.document.lastId Calculations.table + 1)

/-- The row of the version after a head. -/
def nextRow (o : Office m) (head : Calculation) (kunde : String) (input : CalculationInput) :
    Record :=
  (Calculations.row head.uuid (head.version + 1) kunde head.createdBy input
    (Calculations.numberAfter head) (some head.id)).row o.now []
    (o.store.document.lastId Calculations.table + 1)

/-- The row of an offer. -/
def offerRow (offerPrefix : String) (o : Office m) (uuid : String) (input : OfferInput)
    (caller : Caller) : Record :=
  (Offers.row uuid input caller (nextNumber offerPrefix o)).row o.now []
    (o.store.document.lastId Offers.table + 1)

theorem get?_firstRow {uuid kunde : String} {input : CalculationInput} {caller : Caller}
    {column : String} {value : Json}
    (mem : (column, value) ∈ Calculations.rowFields o.now uuid 1 kunde (some caller.id) input
      (nextNumber offerPrefix o) none) :
    (o.firstRow offerPrefix uuid kunde input caller).get? column = some value :=
  Calculations.get?_row_of_mem mem _

theorem get?_nextRow {head : Calculation} {kunde : String} {input : CalculationInput}
    {column : String} {value : Json}
    (mem : (column, value) ∈ Calculations.rowFields o.now head.uuid (head.version + 1) kunde
      head.createdBy input (Calculations.numberAfter head) (some head.id)) :
    (o.nextRow head kunde input).get? column = some value :=
  Calculations.get?_row_of_mem mem _

/-- The rows with those of a chain no longer current. -/
def retired (o : Office m) (uuid : String) : List Record :=
  o.calculations.map (Change.updateRow o.now (Calculations.retire uuid))

/-- What becomes of the three tables. -/
inductive Growth (offerPrefix : String) (o o' : Office m) : Prop
  | same (rows : o'.Holds o.calculations o.offers o.counters)
  | counted {year : Int} (rows : o'.Holds o.calculations o.offers (o.countersAfter year))
  | first {k : Nat} {kunde : String} {input : CalculationInput} {caller : Caller}
      (fresh : o.supply.uuidsTaken ≤ k) (taken : k < o'.supply.uuidsTaken)
      (rows : o'.Holds
        (o.calculations ++ [o.firstRow offerPrefix (o.supply.uuid k) kunde input caller])
        o.offers (o.countersAfter o.now.year))
  | retired {head : Calculation} {row : Record}
      (isHead : Calculations.IsHead o.store.document row head)
      (rows : o'.Holds (o.retired head.uuid) o.offers o.counters)
  | next {head : Calculation} {row : Record} {kunde : String} {input : CalculationInput}
      (isHead : Calculations.IsHead o.store.document row head)
      (rows : o'.Holds (o.retired head.uuid ++ [o.nextRow head kunde input]) o.offers o.counters)
  | offered {uuid : String} {input : OfferInput} {caller : Caller}
      (rows : o'.Holds o.calculations (o.offers ++ [o.offerRow offerPrefix uuid input caller])
        (o.countersAfter o.now.year))

theorem Holds.of_sheets {changes sheets : List Change} {owner : Owner} {kind : SheetKind}
    {items : List GarmentItemInput} {warehousing : Option WarehousingInput}
    {calculations offers counters : List Record}
    (reached : Reaches o (changes ++ sheets) o')
    (part : sheets <+: LineItems.changes owner kind items warehousing)
    (calculationRows : (Change.applyAll o.now changes o.store.document).table Calculations.table =
      calculations)
    (offerRows : (Change.applyAll o.now changes o.store.document).table Offers.table = offers)
    (counterRows : (Change.applyAll o.now changes o.store.document).table Document.countersTable =
      counters) :
    o'.Holds calculations offers counters := by
  -- No sheet is stored in one of the three tables.
  have spares (t : String) (garment : owner.garmentTable ≠ t)
      (storage : owner.warehousingTable ≠ t) :
      o'.store.document.table t = (Change.applyAll o.now changes o.store.document).table t := by
    rw [reached.document, Change.applyAll_append]
    exact (Change.applyAll_of_spares fun c hc =>
      LineItems.spares_of_mem garment storage (part.subset hc)).1
  constructor
  · rw [← calculationRows]
    exact spares _ (owner.tables_ne _ (.inl rfl)).1 (owner.tables_ne _ (.inl rfl)).2
  · rw [← offerRows]
    exact spares _ (owner.tables_ne _ (.inr rfl)).1 (owner.tables_ne _ (.inr rfl)).2
  · rw [← counterRows]
    refine spares _ ?_ ?_ <;> cases owner <;>
      simp [Owner.garmentTable, Owner.warehousingTable, Document.countersTable]

theorem Holds.of_idle (reached : Reaches o [] o') :
    o'.Holds o.calculations o.offers o.counters := by
  constructor <;> rw [reached.document] <;> rfl

theorem calculations_apart : Calculations.table ≠ Document.countersTable := by decide

theorem offers_apart : Offers.table ≠ Document.countersTable := by decide

theorem Holds.of_advance {year : Int}
    (reached : Reaches o [.advance (OfferNumber.counterKey year)] o') :
    o'.Holds o.calculations o.offers (o.countersAfter year) := by
  constructor <;> rw [reached.document]
  · exact Change.table_advance _ calculations_apart
  · exact Change.table_advance _ offers_apart
  · rfl

theorem Holds.of_first {k : Nat} {kunde : String} {input : CalculationInput} {caller : Caller}
    {sheets : List Change}
    (cut : sheets <+: LineItems.changes
      (.calculation (o.store.document.lastId Calculations.table + 1)) input.kind input.items
      input.warehousing)
    (reached : Reaches o ([.advance (OfferNumber.counterKey o.now.year),
      .insert (Calculations.row (o.supply.uuid k) 1 kunde (some caller.id) input
        (nextNumber offerPrefix o) none)] ++ sheets) o') :
    o'.Holds (o.calculations ++ [o.firstRow offerPrefix (o.supply.uuid k) kunde input caller])
      o.offers (o.countersAfter o.now.year) := by
  refine .of_sheets reached cut ?_ ?_ ?_ <;>
    simp only [Change.applyAll_cons, Change.applyAll_nil, Change.table_insert]
  · simp only [Calculations.row_table, if_true, Change.table_advance _ calculations_apart,
      Change.lastId_advance _ calculations_apart]
    rfl
  · simp only [Calculations.row_table, Calculations.table_ne.symm, if_false,
      Change.table_advance _ offers_apart]
    rfl
  · simp only [Calculations.row_table, calculations_apart.symm, if_false]
    rfl

theorem Holds.of_next {head : Calculation} {kunde : String} {input : CalculationInput}
    {sheets : List Change}
    (cut : sheets <+: LineItems.changes
      (.calculation (o.store.document.lastId Calculations.table + 1)) input.kind input.items
      input.warehousing)
    (reached : Reaches o ([.update (Calculations.retire head.uuid),
      .insert (Calculations.row head.uuid (head.version + 1) kunde head.createdBy input
        (Calculations.numberAfter head) (some head.id))] ++ sheets) o') :
    o'.Holds (o.retired head.uuid ++ [o.nextRow head kunde input]) o.offers o.counters := by
  refine .of_sheets reached cut ?_ ?_ ?_ <;>
    simp only [Change.applyAll_cons, Change.applyAll_nil, Change.table_insert,
      Change.table_update, Change.lastId_update]
  · simp only [Calculations.row_table, Calculations.retire, if_true]
    rfl
  · simp only [Calculations.row_table, Calculations.retire, Calculations.table_ne.symm, if_false]
    rfl
  · simp only [Calculations.row_table, Calculations.retire, calculations_apart.symm, if_false]
    rfl

theorem Holds.of_offer {uuid : String} {input : OfferInput} {caller : Caller}
    {sheets : List Change}
    (cut : sheets <+: LineItems.changes
      (.offer (o.store.document.lastId Offers.table + 1)) input.kind input.items
      input.warehousing)
    (reached : Reaches o ([.advance (OfferNumber.counterKey o.now.year),
      .insert (Offers.row uuid input caller (nextNumber offerPrefix o))] ++ sheets) o') :
    o'.Holds o.calculations (o.offers ++ [o.offerRow offerPrefix uuid input caller])
      (o.countersAfter o.now.year) := by
  refine .of_sheets reached cut ?_ ?_ ?_ <;>
    simp only [Change.applyAll_cons, Change.applyAll_nil, Change.table_insert]
  · simp only [Offers.row_table, Calculations.table_ne, if_false,
      Change.table_advance _ calculations_apart]
    rfl
  · simp only [Offers.row_table, if_true, Change.table_advance _ offers_apart,
      Change.lastId_advance _ offers_apart]
    rfl
  · simp only [Offers.row_table, offers_apart.symm, if_false]
    rfl

theorem Core.growth (core : Core offerPrefix o o') : Growth offerPrefix o o' := by
  cases core with
  | idle reached => exact .same (.of_idle reached)
  | @allocate year done part reached =>
    match done with
    | [] => exact .same (.of_idle reached)
    | c :: more =>
      obtain ⟨rfl, nothing⟩ := List.cons_prefix_cons.mp part
      obtain rfl := List.prefix_nil.mp nothing
      exact .counted (.of_advance reached)
  | @first k kunde input caller done fresh taken part reached =>
    rcases cut_cases part with rfl | rfl | ⟨sheets, cut, rfl⟩
    · exact .same (.of_idle reached)
    · exact .counted (.of_advance reached)
    · exact .first fresh taken (.of_first cut reached)
  | @next head row kunde input done isHead part reached =>
    -- Between its two saves an edit leaves a chain without a current row.
    rcases cut_cases part with rfl | rfl | ⟨sheets, cut, rfl⟩
    · exact .same (.of_idle reached)
    · refine .retired isHead ?_
      constructor <;> rw [reached.document] <;>
        simp only [Change.applyAll_cons, Change.applyAll_nil, Change.table_update]
      · exact if_pos rfl
      · exact if_neg Calculations.table_ne.symm
      · exact if_neg calculations_apart.symm
    · exact .next isHead (.of_next cut reached)
  | @offer uuid input caller done part reached =>
    rcases cut_cases part with rfl | rfl | ⟨sheets, cut, rfl⟩
    · exact .same (.of_idle reached)
    · exact .counted (.of_advance reached)
    · exact .offered (.of_offer cut reached)

theorem Core.reaches (core : Core offerPrefix o o') : ∃ done, Reaches o done o' := by
  cases core with
  | idle reached => exact ⟨_, reached⟩
  | allocate _ reached => exact ⟨_, reached⟩
  | first _ _ _ reached => exact ⟨_, reached⟩
  | next _ _ reached => exact ⟨_, reached⟩
  | offer _ reached => exact ⟨_, reached⟩

end Office

/-! ## Annotations -/

/-- Rows of which only annotations have changed. -/
def Annotated (rows rows' : List Record) : Prop :=
  ∃ f : Record → Record, (∀ row column, column ∉ annotations →
    (f row).get? column = row.get? column) ∧ rows' = rows.map f

theorem Annotated.refl (rows : List Record) : Annotated rows rows :=
  ⟨id, fun _ _ _ => rfl, (List.map_id rows).symm⟩

theorem Annotated.trans {rows rows' rows'' : List Record} (h : Annotated rows rows')
    (h' : Annotated rows' rows'') : Annotated rows rows'' := by
  obtain ⟨f, keeps, rfl⟩ := h
  obtain ⟨g, keeps', rfl⟩ := h'
  exact ⟨g ∘ f, fun row column h => (keeps' _ column h).trans (keeps row column h), List.map_map⟩

/-- A change on the side annotates the rows of a table at most. -/
theorem SideChange.annotated {now : Instant} {doc : Document} {c : Change}
    (h : SideChange now c) {t : String} (ht : t = Calculations.table ∨ t = Offers.table) :
    Annotated (doc.table t) ((c.apply now doc).table t) := by
  have spared (apart : c.Spares t) : Annotated (doc.table t) ((c.apply now doc).table t) :=
    apart.apply.1 ▸ Annotated.refl _
  cases h with
  | entry table =>
    exact spared (by rcases ht with rfl | rfl <;> rw [Change.Spares, table] <;> decide)
  | newAccount table =>
    exact spared (by rcases ht with rfl | rfl <;> rw [Change.Spares, table] <;> decide)
  | account table =>
    exact spared (by rcases ht with rfl | rfl <;> rw [Change.Spares, table] <;> decide)
  | @annotate s table values =>
    rw [Change.table_update]
    split
    · refine ⟨Change.updateRow now s, fun row column apart => ?_, rfl⟩
      refine Change.get?_updateRow_of_notMem (fun named => ?_) row
      obtain ⟨a, ha, rfl⟩ := List.mem_map.mp named
      exact apart (values a ha).1
    · exact Annotated.refl _

theorem SideChange.spares_counters {now : Instant} {c : Change} (h : SideChange now c) :
    c.Spares Document.countersTable := by
  cases h with
  | entry table => rw [Change.Spares, table]; decide
  | newAccount table => rw [Change.Spares, table]; decide
  | account table => rw [Change.Spares, table]; decide
  | annotate table => rcases table with h | h <;> rw [Change.Spares, h] <;> decide

namespace Office

variable {m : Type} {o o' : Office m}

theorem Aside.annotated (h : Aside o o') {t : String}
    (ht : t = Calculations.table ∨ t = Offers.table) :
    Annotated (o.store.document.table t) (o'.store.document.table t) := by
  obtain ⟨changes, side, reached⟩ := h
  rw [reached.document]
  exact Change.applyAll_induction
    (P := fun doc => Annotated (o.store.document.table t) (doc.table t))
    (fun c hc doc h => h.trans ((side c hc).annotated ht)) (Annotated.refl _)

theorem Aside.counters (h : Aside o o') : o'.counters = o.counters := by
  obtain ⟨changes, side, reached⟩ := h
  unfold Office.counters
  rw [reached.document]
  exact (Change.applyAll_of_spares fun c hc => (side c hc).spares_counters).1

end Office

end OfferBook
