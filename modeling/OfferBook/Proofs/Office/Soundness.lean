import OfferBook.Proofs.Office.Effects
import OfferBook.Proofs.OfferNumber.Text

/-! # The tables stay regular

* `Calculations.row_suits`, `Offers.row_suits` — the rows that are stored have the forms of their
  tables.
* `SideChange.suits_calculations`, `SideChange.suits_offers` — annotations keep the forms.
* `Sound.effect` — whatever a request does, it keeps both tables regular.
* `IsNew.sound` — those of a new office are.
-/

namespace OfferBook

variable {now : Instant}

/-! ## Changes -/

theorem LineItems.suits_of_mem {form : Form} {t : String} {owner : Owner} {kind : SheetKind}
    {items : List GarmentItemInput} {warehousing : Option WarehousingInput}
    (garment : owner.garmentTable ≠ t) (storage : owner.warehousingTable ≠ t) {c : Change}
    (h : c ∈ LineItems.changes owner kind items warehousing) : c.Suits now form t := by
  obtain ⟨-, ⟨place, item, rfl⟩ | ⟨input, rfl⟩⟩ := sheet_of_mem h
  · exact fun same => absurd same garment
  · exact fun same => absurd same storage

theorem SideChange.suits_calculations {c : Change} (h : SideChange now c) :
    c.Suits now Calculations.form Calculations.table := by
  cases h with
  | entry table => exact fun same => absurd (table.symm.trans same) (by decide)
  | newAccount table => exact fun same => absurd (table.symm.trans same) (by decide)
  | account table => exact fun same => absurd (table.symm.trans same) (by decide)
  | annotate table values =>
    intro _ a ha
    obtain ⟨column, t, value, -⟩ := values a ha
    rw [value]
    simp only [annotations, List.mem_cons, List.not_mem_nil, or_false] at column
    rcases column with h | h | h | h | h <;> rw [h] <;>
      simp [Calculations.form, Field.IsText, Field.MayBeText]

theorem SideChange.suits_offers {c : Change} (h : SideChange now c) :
    c.Suits now Offers.form Offers.table := by
  cases h with
  | entry table => exact fun same => absurd (table.symm.trans same) (by decide)
  | newAccount table => exact fun same => absurd (table.symm.trans same) (by decide)
  | account table => exact fun same => absurd (table.symm.trans same) (by decide)
  | annotate table values =>
    intro _ a ha
    obtain ⟨column, t, value, status⟩ := values a ha
    rw [value]
    simp only [annotations, List.mem_cons, List.not_mem_nil, or_false] at column
    rcases column with h | h | h | h | h <;> rw [h]
    case inr.inl =>
      -- The status is the one annotation whose text is not free.
      obtain rfl := status h
      simp [Offers.form, Field.IsStatus]
    all_goals simp [Offers.form, Field.IsText, Field.MayBeText]

namespace Calculations

theorem row_suits (uuid : String) (version : Int) (kunde : String)
    (createdBy : Option String) (input : CalculationInput) (number : OfferNumber)
    {parent : Option Int} (h : ∀ id ∈ parent, fitsSigned id = true) :
    (Change.insert (row uuid version kunde createdBy input number parent)).Suits now form
      table := by
  refine fun _ => ⟨row_distinct, row_unnamed, ?_⟩
  have given (column : String) (value : Json)
      (mem : (column, value) ∈ rowFields now uuid version kunde createdBy input number parent)
      (id : Int) := get?_row_of_mem mem id
  have absent (column : String) (notin : column ∉
      (rowFields now uuid version kunde createdBy input number parent).map Prod.fst)
      (created : column ≠ "created_at") (numbered : column ≠ "id") (id : Int) :=
    get?_row_of_notMem notin created numbered id
  simp only [rowFields] at given absent
  simp only [form, List.forall_mem_cons]
  refine ⟨fun id => ⟨uuid, given _ _ (by simp) id⟩, fun id => ⟨version, given _ _ (by simp) id⟩,
    fun id => ⟨kunde, given _ _ (by simp) id⟩, fun id => ?_,
    fun id => ⟨status input, given _ _ (by simp) id⟩,
    fun id => ⟨input.kind, given _ _ (by simp) id⟩,
    fun id => ⟨number.text, number.text_ne_empty, given _ _ (by simp) id⟩,
    fun id => ⟨true, given _ _ (by simp) id⟩, fun id => ?_,
    fun id => ⟨now.timestamp, given _ _ (by simp) id⟩,
    fun id => ⟨now.timestamp, given _ _ (by simp) id⟩,
    fun id => .inl (absent _ (by simp) (by simp) (by simp) id),
    fun id => absent _ (by simp) (by simp) (by simp) id, by simp⟩
  -- The two fields that may be null.
  · rw [given _ (Json.ofOption .text createdBy) (by simp)]
    exact Field.mayBeText_ofOption createdBy
  · rw [given _ (Json.ofOption .int parent) (by simp)]
    exact Field.mayBeSigned_ofOption h

theorem retire_suits (uuid : String) :
    (Change.update (retire uuid)).Suits now form table := by
  intro _ a ha
  obtain rfl := List.mem_singleton.mp ha
  simp [form, Field.IsFlag, Operand.value, Operand.bind]

end Calculations

namespace Offers

theorem row_suits (uuid : String) (input : OfferInput) (caller : Caller) (number : OfferNumber) :
    (Change.insert (row uuid input caller number)).Suits now form table := by
  refine fun _ => ⟨row_distinct, row_unnamed, ?_⟩
  have given (column : String) (value : Json)
      (mem : (column, value) ∈ rowFields now uuid input caller number) (id : Int) :=
    get?_row_of_mem mem id
  have absent (column : String)
      (notin : column ∉ (rowFields now uuid input caller number).map Prod.fst)
      (created : column ≠ "created_at") (numbered : column ≠ "id") (id : Int) :=
    get?_row_of_notMem notin created numbered id
  simp only [rowFields, Customer.fieldNames, Customer.values] at given absent
  have text (column : String) (s : Option String) (id : Int)
      (mem : (column, Json.ofOption .text (nonBlank? s)) ∈ rowFields now uuid input caller number) :
      Field.MayBeText (((row uuid input caller number).row now [] id).get? column) := by
    rw [get?_row_of_mem mem]
    exact Field.mayBeText_ofOption _
  simp only [form, List.forall_mem_cons]
  refine ⟨fun id => ⟨uuid, given _ _ (by simp) id⟩, fun id => ⟨input.kind, given _ _ (by simp) id⟩,
    fun id => ?_, fun id => text _ input.kunde id (by simp [rowFields]),
    fun id => text _ input.validUntil id (by simp [rowFields]),
    fun id => ⟨input.status.getD default, given _ _ (by simp) id⟩,
    fun id => text _ input.notes id (by simp [rowFields]),
    fun id => text _ input.message id (by simp [rowFields]),
    fun id => text _ input.deliveryOption id (by simp [rowFields]),
    fun id => ⟨number.text, number.text_ne_empty, given _ _ (by simp) id⟩,
    fun id => .inl (absent _ (by simp) (by simp) (by simp) id),
    fun id => ⟨now.timestamp, given _ _ (by simp) id⟩,
    fun id => .inl (absent _ (by simp) (by simp) (by simp) id),
    fun id => .inl (absent _ (by simp) (by simp) (by simp) id),
    fun id => absent _ (by simp) (by simp) (by simp) id, by simp⟩
  rw [given _ (Json.ofOption .int input.source) (by simp)]
  exact Field.mayBeInteger_ofOption _

end Offers

/-! ## Sequences of changes -/

/-- A change that suits both tables. -/
def Change.SuitsBoth (now : Instant) (c : Change) : Prop :=
  c.Suits now Calculations.form Calculations.table ∧ c.Suits now Offers.form Offers.table

theorem SideChange.suitsBoth {c : Change} (h : SideChange now c) : c.SuitsBoth now :=
  ⟨h.suits_calculations, h.suits_offers⟩

theorem Change.suitsBoth_advance (key : String) : (Change.advance key).SuitsBoth now := by
  simp [SuitsBoth, Suits, Calculations.table, Offers.table, Document.countersTable]

theorem Calculations.table_ne : Calculations.table ≠ Offers.table := by decide

theorem Owner.tables_ne (o : Owner) (t : String) (h : t = Calculations.table ∨ t = Offers.table) :
    o.garmentTable ≠ t ∧ o.warehousingTable ≠ t := by
  rcases h with rfl | rfl <;> cases o <;>
    simp [garmentTable, warehousingTable, Calculations.table, Offers.table]

theorem LineItems.suitsBoth_of_mem {owner : Owner} {kind : SheetKind}
    {items : List GarmentItemInput} {warehousing : Option WarehousingInput} {c : Change}
    (h : c ∈ LineItems.changes owner kind items warehousing) : c.SuitsBoth now :=
  ⟨suits_of_mem (owner.tables_ne _ (.inl rfl)).1 (owner.tables_ne _ (.inl rfl)).2 h,
    suits_of_mem (owner.tables_ne _ (.inr rfl)).1 (owner.tables_ne _ (.inr rfl)).2 h⟩

theorem Calculations.suitsBoth_of_mem {id : Int} {uuid : String} {version : Int} {kunde : String}
    {createdBy : Option String} {input : CalculationInput} {number : OfferNumber}
    {parent : Option Int} (fits : ∀ id ∈ parent, fitsSigned id = true) {c : Change}
    (h : c ∈ changes id uuid version kunde createdBy input number parent) : c.SuitsBoth now := by
  rcases List.mem_cons.mp h with rfl | h
  · exact ⟨row_suits _ _ _ _ _ _ fits, fun same => absurd same table_ne⟩
  · exact LineItems.suitsBoth_of_mem h

theorem Offers.suitsBoth_of_mem {id : Int} {uuid : String} {input : OfferInput} {caller : Caller}
    {number : OfferNumber} {c : Change} (h : c ∈ changes id uuid input caller number) :
    c.SuitsBoth now := by
  rcases List.mem_cons.mp h with rfl | h
  · exact ⟨fun same => absurd same.symm Calculations.table_ne, row_suits _ _ _ _⟩
  · exact LineItems.suitsBoth_of_mem h

namespace Office

variable {m : Type} {offerPrefix : String} {o o' : Office m}

theorem Sound.reaches (h : o.Sound) {changes : List Change} (reached : Reaches o changes o')
    (suits : ∀ c ∈ changes, c.SuitsBoth o.now) : o'.Sound := by
  constructor
  · rw [reached.document]
    exact h.calculations.applyAll fun c hc => (suits c hc).1
  · rw [reached.document]
    exact h.offers.applyAll fun c hc => (suits c hc).2

theorem Sound.aside (h : o.Sound) (aside : Aside o o') : o'.Sound := by
  obtain ⟨changes, side, reached⟩ := aside
  exact h.reaches reached fun c hc => (side c hc).suitsBoth

theorem Sound.core (h : o.Sound) (core : Core offerPrefix o o') : o'.Sound := by
  cases core with
  | idle reached => exact h.reaches reached (by simp)
  | allocate part reached =>
    refine h.reaches reached fun c hc => ?_
    obtain rfl := List.mem_singleton.mp (part.subset hc)
    exact Change.suitsBoth_advance _
  | first fresh taken part reached =>
    refine h.reaches reached fun c hc => ?_
    rcases List.mem_cons.mp (part.subset hc) with rfl | hc
    · exact Change.suitsBoth_advance _
    · exact Calculations.suitsBoth_of_mem (by simp) hc
  | next isHead part reached =>
    refine h.reaches reached fun c hc => ?_
    -- The parent is the id of the head, which was read from a row and so has 64 bits.
    rcases List.mem_cons.mp (part.subset hc) with rfl | hc
    · exact ⟨Calculations.retire_suits _, fun same => absurd same Calculations.table_ne⟩
    · exact Calculations.suitsBoth_of_mem (by simpa using isHead.shown.fits) hc
  | offer part reached =>
    refine h.reaches reached fun c hc => ?_
    rcases List.mem_cons.mp (part.subset hc) with rfl | hc
    · exact Change.suitsBoth_advance _
    · exact Offers.suitsBoth_of_mem hc

theorem Sound.effect (h : o.Sound) (effect : Effect offerPrefix o o') : o'.Sound := by
  obtain ⟨between, core, aside⟩ := effect
  exact (h.core core).aside aside

variable [Medium m]

theorem Sound.serve (h : o.Sound) (r : Request) : (serve offerPrefix o r).Sound :=
  Sound.effect (o := o.setNow r.now) ⟨h.calculations, h.offers⟩ (serve_effect h r)

end Office

/-! ## New offices -/

namespace Document

/-- A document whose tables have no rows and have given out no ids. -/
def IsEmpty (doc : Document) : Prop := ∀ t, doc.table t = [] ∧ doc.lastId t = 0

theorem IsEmpty.ensureTable {doc : Document} (h : doc.IsEmpty) (name : String) :
    (doc.ensureTable name).IsEmpty := by
  intro t
  obtain ⟨rows, ids⟩ := h t
  unfold table at rows
  unfold lastId at ids
  constructor
  · simp only [table, Document.ensureTable, Dict.get?_insertIfNew]
    split
    · next same =>
      subst same
      simpa using rows
    · exact rows
  · simp only [lastId, Document.ensureTable]
    split
    · exact ids
    · rw [Dict.get?_insertIfNew]
      split
      · next same =>
        subst same
        simpa using ids
      · exact ids

theorem fresh_isEmpty : fresh.IsEmpty := by
  have known (names : List String) (doc : Document) (h : doc.IsEmpty) :
      (names.foldl Document.ensureTable doc).IsEmpty := by
    induction names generalizing doc with
    | nil => exact h
    | cons name rest ih => exact ih _ (h.ensureTable name)
  exact known knownTables blank fun t => ⟨rfl, rfl⟩

theorem IsEmpty.regular {doc : Document} (h : doc.IsEmpty) (form : Form) (t : String) :
    Regular form t doc := by
  obtain ⟨rows, ids⟩ := h t
  constructor <;> simp [rows, ids]

end Document

namespace Office

variable {m : Type} {offerPrefix : String} {o : Office m}

theorem IsNew.isEmpty (h : o.IsNew) : o.store.document.IsEmpty :=
  h.document ▸ Document.fresh_isEmpty

theorem IsNew.sound (h : o.IsNew) : o.Sound := ⟨h.isEmpty.regular _ _, h.isEmpty.regular _ _⟩

end Office

end OfferBook
