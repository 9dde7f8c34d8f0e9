import OfferBook.Proofs.Calculations.Decoding
import OfferBook.Proofs.Calculations.Latest
import OfferBook.Proofs.Model.Numbering

/-! # Services on rows of any form

What the services do where nothing is known of the rows, as in files of earlier versions.

* `Calculations.require_finds`, `Calculations.headOf_finds` — the rows that are found.
* `Office.numberingChanges_performs` — a row without a number gets one.
* `Calculations.update_ends_of` — what is extended by an edit, and `Calculations.extendWith_ends` —
  what becomes of the table, also where the edit is cut short.
-/

namespace OfferBook

open Office

/-! ## Rows that are found -/

/-- Whether a row counts as a version of a chain when versions are compared. -/
def Calculations.isCalled (uuid : String) (row : Record) : Bool :=
  Json.matchesValue (row.get? "calculation_uuid") (.text uuid)

/-- Whether a row is found when the current version of a chain is looked up. -/
def Calculations.isLookedUp (uuid : String) (row : Record) : Bool :=
  isCalled uuid row && Json.matchesValue (row.get? "is_current") (.int 1) &&
    Json.isMissing (row.get? "deleted_at")

namespace Document

/-- The row with an id. -/
def named? (doc : Document) (t : String) (id : Int) : Option Record :=
  (doc.table t).find? (Calculations.isNamed id)

/-- The row that a lookup of the current version finds. -/
def lookup? (doc : Document) (uuid : String) : Option Record :=
  (doc.table Calculations.table).find? (Calculations.isLookedUp uuid)

/-- The row of a chain that stands first when its highest version is put first. -/
def topmost? (doc : Document) (uuid : String) : Option Record :=
  (OrderBy.sort none ⟨.bare "version", true⟩
    ((doc.table Calculations.table).filter (Calculations.isCalled uuid))).head?

variable {doc : Document} {uuid t : String} {id : Int} {row : Record}

theorem named?_eq (doc : Document) (now : Instant) (t : String) (id : Int) :
    ((doc.table t).filter (Test.allHold (Condition.bindAll now none []
      [.is "id" (.int id)]).1)).head? = doc.named? t id := by
  rw [List.head?_filter]
  refine congrArg (List.find? · (doc.table t)) (funext fun row => ?_)
  exact Bool.and_true _

theorem lookup?_eq (doc : Document) (now : Instant) (uuid : String) :
    ((doc.table Calculations.table).filter (Test.allHold (Condition.bindAll now none []
      [.is "calculation_uuid" (.text uuid), .is "is_current" (.int 1),
        .missing "deleted_at"]).1)).head? = doc.lookup? uuid := by
  rw [List.head?_filter]
  refine congrArg (List.find? · (doc.table Calculations.table)) (funext fun row => ?_)
  change (Calculations.isCalled uuid row && (Json.matchesValue (row.get? "is_current") (.int 1) &&
    (Json.isMissing (row.get? "deleted_at") && true))) = _
  rw [Bool.and_true, ← Bool.and_assoc]
  rfl

theorem mem_of_topmost? (h : doc.topmost? uuid = some row) :
    row ∈ doc.table Calculations.table ∧ Calculations.isCalled uuid row = true :=
  List.mem_filter.mp (OrderBy.precedes_of_head?_sort h).1

theorem exists_topmost (mem : row ∈ doc.table Calculations.table)
    (called : Calculations.isCalled uuid row = true) : ∃ top, doc.topmost? uuid = some top := by
  cases first : doc.topmost? uuid with
  | some top => exact ⟨top, rfl⟩
  | none =>
    have empty := OrderBy.sort_eq_nil.mp (List.head?_eq_none_iff.mp first)
    exact absurd called (List.filter_eq_nil_iff.mp empty row mem)

/-- No version that is compared with the topmost one comes before it. -/
theorem isLE_topmost? (h : doc.topmost? uuid = some row) {other : Record}
    (mem : other ∈ doc.table Calculations.table)
    (called : Calculations.isCalled uuid other = true) :
    (Json.compareValues (other.get? "version") (row.get? "version")).isLE = true :=
  OrderBy.precedes_iff.mp ((OrderBy.precedes_of_head?_sort h).2 other
    (List.mem_filter.mpr ⟨mem, called⟩))

end Document

/-- Null is compared as null, which is no text. -/
theorem Json.matchesValue_of_isMissing {v : Option Json} (h : isMissing v = true) (s : String) :
    matchesValue v (.text s) = false := by
  cases v with
  | none => rfl
  | some v =>
    cases v with
    | null => rfl
    | bool | number | text | array | object => cases h

namespace Calculations

variable {m : Type} {o : Office m}

/-- A row whose identifier is read is compared as its identifier is, unless it has none. -/
theorem isCalled_iff {row : Record} {uuid : String} (h : uuidOf? row = some uuid)
    (other : String) : isCalled other row = true ↔
      uuid = other ∧ Json.isMissing (row.get? "calculation_uuid") = false := by
  rcases uuidOf?_eq_some h with found | ⟨-, missing⟩
  · rw [isCalled, Json.matchesValue_text ⟨uuid, found⟩, found]
    simp [Json.isMissing, Json.isNull]
  · rw [isCalled, Json.matchesValue_of_isMissing missing, missing]
    simp

theorem require_finds (id : Int) :
    Ends (require id) o
      (fun c o' => (∃ row, o.store.document.named? table id = some row ∧
        Calculation.ofRecord? row = some c) ∧ o' = o)
      fun _ o' => o' = o := by
  simp only [require, find, ends_bind, ends_storage, ends_selectFirst, Select.rows_matching,
    Document.named?_eq]
  cases found : o.store.document.named? table id with
  | none => exact ends_throw.mpr rfl
  | some row =>
    cases read : Calculation.ofRecord? row with
    | none => simp only [read]
    | some c => simpa only [read] using ends_pure.mpr ⟨⟨row, rfl, read⟩, rfl⟩

theorem headOf_finds (uuid : String) :
    Ends (headOf uuid) o
      (fun found o' => (o.store.document.topmost? uuid).map Calculation.ofRecord? =
        found.map some ∧ o' = o)
      fun _ o' => o' = o := by
  have called : (o.store.document.table table).filter (Test.allHold
      (Condition.bindAll o.now none [] [.is "calculation_uuid" (.text uuid)]).1) =
        (o.store.document.table table).filter (isCalled uuid) :=
    List.filter_congr fun row _ => Bool.and_true _
  simp only [headOf, ends_selectFirst, Select.rows_ordered_one, called, List.head?_take]
  rw [if_neg Nat.one_ne_zero, ← Document.topmost?]
  cases found : o.store.document.topmost? uuid with
  | none => simp
  | some row =>
    cases read : Calculation.ofRecord? row with
    | none => simp only [read]
    | some head => simp [read]

end Calculations

/-! ## Work that spares a table -/

namespace Office

variable {ε m α : Type} {o o' : Office m} {t : String}

theorem Made.spares (h : Made (Change.Spares t) o o') :
    o'.store.document.table t = o.store.document.table t ∧
      o'.store.document.lastId t = o.store.document.lastId t ∧ o'.now = o.now := by
  obtain ⟨changes, spared, reached⟩ := h
  have same := @Change.applyAll_of_spares o.now o.store.document changes t spared
  rw [reached.document]
  exact ⟨same.1, same.2, reached.now⟩

theorem Performs.made {P : Change → Prop} {act : OfficeM ε m α} {changes : List Change}
    {R : α → Prop} (h : Performs act o changes R) (allowed : ∀ c ∈ changes, P c) :
    Ends act o (fun a o' => R a ∧ Made P o o') fun _ o' => Made P o o' := by
  refine Ends.mono h ?_ ?_
  · exact fun a o' ⟨given, reached⟩ => ⟨given, changes, allowed, reached⟩
  · exact fun e o' ⟨done, part, reached⟩ =>
      ⟨done, fun c hc => allowed c (part.subset hc), reached⟩

end Office

/-! ## Rows that get a number -/

theorem updateRow_numbering (now : Instant) (t : String) (id : Int) (n : OfferNumber)
    (row : Record) : Change.updateRow now (numbering t id n) row =
      if Calculations.isNamed id row then row.numbered n.text else row := by
  have passed : Test.allHold ((numbering t id n).bound now []).2 row =
      Calculations.isNamed id row := Bool.and_true _
  rw [Change.updateRow, passed, Update.bound_fst]
  rfl

namespace Office

variable {m α : Type} {o : Office m} {offerPrefix : String}

/-- The next number of the present year. -/
def freshNumber (offerPrefix : String) (o : Office m) (version : Int) : OfferNumber :=
  .ofCounter offerPrefix o.now.year (o.nextCounter o.now.year) version

/-- The changes for rows with an id that have no number, or an empty one. -/
def numberingChanges (offerPrefix : String) (o : Office m) (t : String) (id version : Int)
    (number : Option String) : List Change :=
  if (number.getD "").isEmpty then
    [.advance (OfferNumber.counterKey o.now.year),
      .update (numbering t id (o.freshNumber offerPrefix version))]
  else []

/-- The sheets of an owner stay when its row gets a number. -/
theorem Reaches.sheets?_of_numbering {o' : Office m} {w : Owner} {id version : Int}
    {number : Option String}
    (reached : Reaches o (o.numberingChanges offerPrefix w.table id version number) o')
    (kind : SheetKind) : o'.store.document.sheets? w kind = o.store.document.sheets? w kind := by
  refine Document.sheets?_congr (fun t ht => ?_) kind
  have apart : w.table ≠ t ∧ Document.countersTable ≠ t := by
    obtain ⟨calculations, offers, counters⟩ := Owner.sheetTables_apart ht
    cases w <;> simp [Owner.table, calculations.symm, offers.symm, counters.symm]
  have spares : ∀ c ∈ o.numberingChanges offerPrefix w.table id version number, c.Spares t := by
    unfold numberingChanges
    split <;> simp [Change.Spares, numbering, apart]
  rw [reached.document]
  exact (Change.applyAll_of_spares spares).1

/-- Sheets are told as they are found. -/
theorem sheets_ends_found {w : Owner} {kind : SheetKind} (f : Sheets → α) :
    Ends (do return f (← LineItems.sheets w kind) : Work m α) o
      (fun told o' => (∃ sheets, o.store.document.sheets? w kind = some sheets ∧
        told = f sheets) ∧ o' = o) fun _ o' => o' = o := by
  refine ends_bind.mpr (LineItems.ends_sheets.mpr ?_)
  cases o.store.document.sheets? w kind with
  | none => exact rfl
  | some sheets => exact ends_pure.mpr ⟨⟨sheets, rfl, rfl⟩, rfl⟩

/-- What is told is a row and the sheets of its owner, whose row may have got a number. -/
theorem sheets_ends_after_numbering {w : Owner} {kind : SheetKind} {id version : Int}
    {number : Option String} {o' : Office m} (f : Sheets → α)
    (reached : Reaches o (o.numberingChanges offerPrefix w.table id version number) o') :
    Ends (do return f (← LineItems.sheets w kind) : Work m α) o'
      (fun a o'' => (∃ sheets, o.store.document.sheets? w kind = some sheets ∧ a = f sheets) ∧
        Reaches o (o.numberingChanges offerPrefix w.table id version number) o'')
      fun _ o'' => ∃ done, done <+: o.numberingChanges offerPrefix w.table id version number ∧
        Reaches o done o'' := by
  refine (sheets_ends_found f).mono ?_ ?_
  · rintro a o'' ⟨told, rfl⟩
    rw [reached.sheets?_of_numbering] at told
    exact ⟨told, reached⟩
  · rintro _ o'' rfl
    exact ⟨_, List.prefix_refl _, reached⟩

variable [Medium m]

/-- A number is taken from the counter of the year and given to the rows with an id. -/
theorem numberingChanges_performs (t : String) (id version : Int) (number : Option String)
    (a : α) (f : OfferNumber → α) :
    Performs (if (number.getD "").isEmpty then do
        let number ← allocate offerPrefix version
        let _ ← update (numbering t id number)
        return f number
      else return a : Work m α) o (o.numberingChanges offerPrefix t id version number)
      (· = if (number.getD "").isEmpty then f (o.freshNumber offerPrefix version) else a) := by
  unfold numberingChanges
  cases (number.getD "").isEmpty with
  | true =>
    change Performs _ o ([_] ++ [_]) _
    refine Performs.bind (allocate_performs version) ?_
    rintro number o' rfl -
    exact Performs.bind_pure (Performs.update _) fun _ _ => rfl
  | false => exact Performs.pure rfl

end Office

namespace Calculations

variable {m : Type} {o : Office m} {offerPrefix : String} [Medium m]

/-- What is told of a calculation that may have got a number. -/
structure Told (c told : Calculation) : Prop where
  same : { told with offerNumber := c.offerNumber } = c
  numbered : (c.offerNumber.getD "").isEmpty = false → told = c

/-- The changes when a calculation is told. -/
def fillChanges (offerPrefix : String) (o : Office m) (c : Calculation) : List Change :=
  o.numberingChanges offerPrefix table c.id (max c.version 1) c.offerNumber

/-- A row is told with the sheets that belong to its id. -/
theorem detail_ends (c : Calculation) :
    Ends (detail offerPrefix c) o
      (fun told o' => (Told c told.calculation ∧
        o.store.document.sheets? (.calculation c.id) c.kind = some told.sheets) ∧
        Reaches o (fillChanges offerPrefix o c) o')
      fun _ o' => ∃ done, done <+: fillChanges offerPrefix o c ∧ Reaches o done o' := by
  refine ends_bind.mpr (Ends.mono (numberingChanges_performs table c.id (max c.version 1)
    c.offerNumber c fun number => { c with offerNumber := some number.text }) ?_ fun _ _ => id)
  rintro told o' ⟨given, reached⟩
  obtain ⟨htold, sameId, sameKind⟩ : Told c told ∧ told.id = c.id ∧ told.kind = c.kind := by
    rw [given]
    split
    · next missing => exact ⟨⟨rfl, fun numbered => by simp [numbered] at missing⟩, rfl, rfl⟩
    · exact ⟨⟨rfl, fun _ => rfl⟩, rfl, rfl⟩
  rw [sameId, sameKind]
  refine (sheets_ends_after_numbering (w := .calculation c.id) (CalculationDetail.mk told)
    reached).mono ?_ fun _ _ => id
  rintro _ o'' ⟨⟨sheets, found, rfl⟩, reached'⟩
  exact ⟨⟨htold, found⟩, reached'⟩

variable {Q : CalculationDetail → Office m → Prop} {E : ServiceError → Office m → Prop}

theorem get_ends_of {id : Int} (refused : ∀ e, E e o)
    (found : ∀ row c, o.store.document.named? table id = some row →
      Calculation.ofRecord? row = some c → Ends (storage (detail offerPrefix c)) o Q E) :
    Ends (get offerPrefix id) o Q E := by
  refine ends_bind.mpr ((require_finds id).mono ?_ ?_)
  · rintro c o' ⟨⟨row, named, read⟩, rfl⟩
    exact found row c named read
  · rintro e o' rfl
    exact refused e

theorem latest_ends_of {uuid : String}
    (absent : o.store.document.lookup? uuid = none → E (notFound uuid) o)
    (found : ∀ row, o.store.document.lookup? uuid = some row →
      match Calculation.ofRecord? row with
      | some c => Ends (storage (detail offerPrefix c)) o Q E
      | none => E (.internal .undecodable) o) :
    Ends (latest offerPrefix uuid) o Q E := by
  simp only [latest, ends_bind, ends_storage, ends_selectFirst, Select.rows_matching,
    Document.lookup?_eq]
  cases looked : o.store.document.lookup? uuid with
  | none => exact ends_throw.mpr (absent looked)
  | some row =>
    have found := found row looked
    cases read : Calculation.ofRecord? row with
    | none => simpa [read] using found
    | some c => simpa [read] using found

end Calculations

namespace Offers

variable {m : Type} {o : Office m} {offerPrefix : String} [Medium m]
  {Q : OfferDetail → Office m → Prop} {E : ServiceError → Office m → Prop}

theorem get_ends_of {id : Int} (refused : ∀ e, E e o)
    (found : ∀ row offer, o.store.document.named? table id = some row →
      Offer.ofRecord? row = some offer → Ends (storage (detail offerPrefix id offer)) o Q E) :
    Ends (get offerPrefix id) o Q E := by
  simp only [get, require, ends_bind, ends_storage, ends_selectFirst, Select.rows_matching,
    Document.named?_eq]
  cases named : o.store.document.named? table id with
  | none => exact ends_throw.mpr (refused _)
  | some row =>
    cases read : Offer.ofRecord? row with
    | none => simpa [read] using refused _
    | some offer => simpa [read] using found row offer named read

/-- An offer is told with the sheets that belong to the id that is asked for. -/
theorem detail_ends (id : Int) (offer : Offer) :
    Ends (detail offerPrefix id offer) o
      (fun told _ => o.store.document.sheets? (.offer id) offer.kind = some told.sheets)
      fun _ _ => True := by
  refine ends_bind.mpr (Ends.mono (numberingChanges_performs table id 1 offer.offerNumber offer
    fun number => { offer with offerNumber := some number.text }) ?_ fun _ _ _ => trivial)
  rintro told o' ⟨given, reached⟩
  have sameKind : told.kind = offer.kind := by
    rw [given]
    split <;> rfl
  rw [sameKind]
  refine (sheets_ends_after_numbering (w := .offer id) (OfferDetail.mk told) reached).mono ?_
    fun _ _ _ => trivial
  rintro _ o'' ⟨⟨sheets, found, rfl⟩, -⟩
  exact found

end Offers

/-! ## Edits -/

namespace Office

variable {m : Type}

/-- The row of a version that is stored next. -/
def versionRow (o : Office m) (uuid : String) (version : Int) (kunde : String)
    (createdBy : Option String) (input : CalculationInput) (number : OfferNumber)
    (parent : Option Int) : Record :=
  (Calculations.row uuid version kunde createdBy input number parent).row o.now []
    (o.store.document.lastId Calculations.table + 1)

theorem get?_versionRow {o : Office m} {uuid : String} {version : Int} {kunde : String}
    {createdBy : Option String} {input : CalculationInput} {number : OfferNumber}
    {parent : Option Int} {column : String} {value : Json}
    (mem : (column, value) ∈
      Calculations.rowFields o.now uuid version kunde createdBy input number parent) :
    (o.versionRow uuid version kunde createdBy input number parent).get? column = some value :=
  Calculations.get?_row_of_mem mem _

end Office

namespace Calculations

variable {m : Type} {o o' : Office m} {offerPrefix : String}

theorem sheets_spare {id : Int} {kind : SheetKind} {items : List GarmentItemInput}
    {warehousing : Option WarehousingInput} {c : Change}
    (h : c ∈ LineItems.changes (.calculation id) kind items warehousing) : c.Spares table :=
  have apart := (Owner.calculation id).tables_ne table (.inl rfl)
  LineItems.spares_of_mem apart.1 apart.2 h

theorem logged {ε : Type} [Medium m] {action : Action} {entityId : Option Int}
    {entityUuid : Option String} {caller : Caller} {details : Option Json} :
    Makes (Change.Spares table)
      (Log.record action entityType entityId entityUuid caller details : OfficeM ε m Unit) :=
  .record (by decide : Log.table ≠ table)

variable [Medium m]

/-- One row is added, and nothing else happens to the table. -/
theorem store_ends (uuid : String) (version : Int) (kunde : String) (createdBy : Option String)
    (input : CalculationInput) (number : OfferNumber) (parent : Option Int) :
    Ends (store uuid version kunde createdBy input number parent) o
      (fun saved o' =>
        (saved = ⟨o.store.document.lastId table + 1, uuid, version, number.text⟩ ∧
          fitsSigned saved.id = true) ∧
        o'.calculations = o.calculations ++
          [o.versionRow uuid version kunde createdBy input number parent])
      fun _ o' => o'.calculations = o.calculations ∨
        o'.calculations = o.calculations ++
          [o.versionRow uuid version kunde createdBy input number parent] := by
  have added {sheets : List Change} {o' : Office m}
      (cut : sheets <+: LineItems.changes (.calculation (o.store.document.lastId table + 1))
        input.kind input.items input.warehousing)
      (reached : Reaches o
        (.insert (row uuid version kunde createdBy input number parent) :: sheets) o') :
      o'.calculations = o.calculations ++
        [o.versionRow uuid version kunde createdBy input number parent] := by
    unfold Office.calculations
    rw [reached.document, Change.applyAll_cons,
      (Change.applyAll_of_spares fun c hc => sheets_spare (cut.subset hc)).1, Change.table_insert]
    rfl
  refine Ends.mono (store_performs ..) ?_ ?_
  · rintro saved o' ⟨saves, reached⟩
    exact ⟨saves, added (List.prefix_refl _) reached⟩
  · rintro e o' ⟨done, cut, reached⟩
    cases done with
    | nil => exact .inl (congrArg (Document.table · table) reached.document)
    | cons c sheets =>
      obtain ⟨rfl, part⟩ := List.cons_prefix_cons.mp cut
      exact .inr (added part reached)

/-- What is done for the version after a head once it has a number. -/
def extendWith (head : Calculation) (number : OfferNumber) (kunde : String)
    (input : CalculationInput) (caller : Caller) : Service m SavedVersion := do
  let _ ← storage (Office.update (retire head.uuid))
  let saved ← storage (store head.uuid (head.version + 1) kunde head.createdBy input number
    (some head.id))
  Log.record .update entityType (some saved.id) (some head.uuid) caller (some (.ofFields
    [("kunde", .text kunde), ("calculation_type", .text input.kind.name),
     ("offer_number", .text number.text), ("version", .int (head.version + 1)),
     ("previous_id", .int head.id)]))
  return saved

/-- The row that is stored for the version after a head. -/
def rowAfter (o : Office m) (head : Calculation) (number : OfferNumber) (kunde : String)
    (input : CalculationInput) : Record :=
  o.versionRow head.uuid (head.version + 1) kunde head.createdBy input number (some head.id)

theorem extendWith_ends (head : Calculation) (number : OfferNumber) (kunde : String)
    (input : CalculationInput) (caller : Caller) :
    Ends (extendWith head number kunde input caller) o
      (fun saved o' =>
        (saved = ⟨o.store.document.lastId table + 1, head.uuid, head.version + 1, number.text⟩ ∧
          fitsSigned saved.id = true) ∧
        o'.calculations = o.retired head.uuid ++ [rowAfter o head number kunde input])
      fun _ o' => o'.calculations = o.calculations ∨ o'.calculations = o.retired head.uuid ∨
        o'.calculations = o.retired head.uuid ++ [rowAfter o head number kunde input] := by
  have retires {o₁ : Office m} (reached : Reaches o [.update (retire head.uuid)] o₁) :
      o₁.calculations = o.retired head.uuid := by
    unfold Office.calculations
    rw [reached.document, Change.applyAll_cons, Change.applyAll_nil, Change.table_update]
    rfl
  refine ends_bind.mpr (Ends.mono (Performs.storage (Performs.update (retire head.uuid))) ?_ ?_)
  · rintro - o₁ ⟨-, reached⟩
    have lastId : o₁.store.document.lastId table = o.store.document.lastId table := by
      rw [reached.document]
      exact Change.lastId_update _ _
    have row : o₁.versionRow head.uuid (head.version + 1) kunde head.createdBy input number
        (some head.id) = rowAfter o head number kunde input := by
      rw [rowAfter, Office.versionRow, Office.versionRow, reached.now, lastId]
    refine ends_bind.mpr (ends_storage.mpr (Ends.mono (store_ends ..) ?_ ?_))
    · rintro saved o₂ ⟨saves, stored⟩
      rw [row, retires reached] at stored
      rw [lastId] at saves
      -- The entry in the log is another table's.
      refine ends_bind.mpr ((logged o₂).mono ?_ ?_)
      · exact fun _ o₃ made => ends_pure.mpr ⟨saves, made.spares.1.trans stored⟩
      · exact fun _ o₃ made => .inr (.inr (made.spares.1.trans stored))
    · rintro e o₂ stored
      rw [row, retires reached] at stored
      exact .inr stored
  · rintro e o₁ ⟨done, part, reached⟩
    match done with
    | [] => exact .inl (congrArg (Document.table · table) reached.document)
    | [c] =>
      obtain ⟨rfl, -⟩ := List.cons_prefix_cons.mp part
      exact .inr (.inl (retires reached))
    | c :: d :: rest => exact absurd part.length_le (by simp)

/-- A new number is made from the head's, or taken from the counter of the year. -/
theorem nextNumber_ends (head : Calculation) (version : Int) :
    Ends (nextNumber offerPrefix head version : Work m OfferNumber) o
      (fun number o' => (∀ stored, head.offerNumber.filter (!·.isEmpty) = some stored →
        number = OfferNumber.rebase stored version) ∧ Made (Change.Spares table) o o')
      fun _ o' => Made (Change.Spares table) o o' := by
  unfold nextNumber
  cases numbered : head.offerNumber.filter (!·.isEmpty) with
  | some stored =>
    refine ends_pure.mpr ⟨fun other same => ?_, Made.refl _ o⟩
    rw [Option.some.inj same]
  | none =>
    refine ((allocate_performs version).made (P := Change.Spares table) ?_).mono ?_ fun _ _ => id
    · exact List.forall_mem_singleton.mpr calculations_apart.symm
    · exact fun number o' ⟨_, made⟩ => ⟨fun _ same => absurd same nofun, made⟩

/-- Whatever is stored, an edit extends the chain of the row that has the id, after the row that
    stands first by version. -/
theorem update_ends_of {id : Int} {input : CalculationInput} {caller : Caller}
    {Q : SavedVersion → Office m → Prop} {E : ServiceError → Office m → Prop}
    (refused : ∀ e o', Made (Change.Spares table) o o' → E e o')
    (extended : ∀ edited row head kunde number o',
      o.store.document.named? table id = some edited → uuidOf? edited = some head.uuid →
      (o.store.document.topmost? head.uuid).getD edited = row →
      Calculation.ofRecord? row = some head →
      (∀ stored, head.offerNumber.filter (!·.isEmpty) = some stored →
        number = OfferNumber.rebase stored (head.version + 1)) →
      Made (Change.Spares table) o o' →
      Ends (extendWith head number kunde input caller) o' Q E) :
    Ends (update offerPrefix id input caller) o Q E := by
  change Ends (liftM (validate input) >>= fun kunde => _) o Q E
  rw [ends_bind, ends_lift]
  cases validate input with
  | error e => exact refused e o (Made.refl _ o)
  | ok kunde =>
    refine ends_bind.mpr (Ends.mono (require_finds id) ?_ ?_)
    · rintro c o' ⟨⟨edited, named, read⟩, rfl⟩
      have uuid := (Calculation.reads_of_ofRecord? read).uuid
      refine ends_bind.mpr (ends_storage.mpr (Ends.mono (headOf_finds c.uuid) ?_ ?_))
      · rintro found o' ⟨top, rfl⟩
        obtain ⟨row, hrow, hhead, same⟩ : ∃ row,
            (o'.store.document.topmost? c.uuid).getD edited = row ∧
            Calculation.ofRecord? row = some (found.getD c) ∧ (found.getD c).uuid = c.uuid := by
          cases found with
          | none =>
            have alone : o'.store.document.topmost? c.uuid = none := by simpa using top
            exact ⟨edited, by rw [alone]; rfl, read, rfl⟩
          | some head =>
            obtain ⟨row, first, hhead⟩ : ∃ row, o'.store.document.topmost? c.uuid = some row ∧
                Calculation.ofRecord? row = some head := by simpa using top
            have called := (Document.mem_of_topmost? first).2
            exact ⟨row, by rw [first]; rfl, hhead,
              ((isCalled_iff (Calculation.reads_of_ofRecord? hhead).uuid _).mp called).1⟩
        refine ends_bind.mpr (ends_storage.mpr (Ends.mono (nextNumber_ends _ _) ?_ ?_))
        · rintro number o'' ⟨rebased, made⟩
          exact extended edited row _ kunde number o'' named (same ▸ uuid) (same ▸ hrow) hhead
            rebased made
        · exact fun e o'' made => refused _ o'' made
      · rintro e o' rfl
        exact refused _ o' (Made.refl _ o')
    · rintro e o' rfl
      exact refused e o' (Made.refl _ o')

end Calculations

end OfferBook
