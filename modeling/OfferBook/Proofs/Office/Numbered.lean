import OfferBook.Proofs.Document.Counters
import OfferBook.Proofs.Model.Numbering
import OfferBook.Proofs.OfferNumber.Bases

/-! # Numbers are filled in once

A row of an earlier version may have no offer number, and gets one the first time that it is told.

* `Office.GivesNumber`, `Office.FilledIn` — what becomes of an office in which a row is told.
* `Calculations.get_fills`, `Offers.get_fills` — a row that is told has a number from then on.
* `Calculations.Shows`, `Offers.Shows` — what is told of a row that has one, without any change.
* `Office.askAll`, `Office.askAll_of_steady` — one thing asked after the other.
* `Office.numbers_are_filled_in_once` — so all that is asked later is answered alike.
-/

namespace OfferBook

open Office

namespace Office

variable {ε m α : Type} {o o' : Office m} {t : String} {id : Int}

/-! ## Filling in -/

/-- The rows with an id have got a number, for which the counter of the year was counted up, and
    nothing else has changed. -/
structure GivesNumber (o : Office m) (t : String) (id : Int) (number : String) (o' : Office m) :
    Prop where
  rows : o'.store.document.table t = (o.store.document.table t).map fun row =>
    if Calculations.isNamed id row then row.numbered number else row
  counter : o.store.document.CountsUp o.now (OfferNumber.counterKey o.now.year) o'.store.document
  others : ∀ u, u ≠ t → u ≠ Document.countersTable →
    o'.store.document.tables.get? u = o.store.document.tables.get? u
  now : o'.now = o.now
  supply : o'.supply = o.supply

/-- A number of a row that is told: it was there, and nothing happens, or it is filled in. -/
inductive FilledIn (o : Office m) (t : String) (id : Int) (number : String) : Office m → Prop
  | kept {row : Record} (found : o.store.document.named? t id = some row)
      (there : Calculations.numberOf? row = some number) : FilledIn o t id number o
  | given {row : Record} {o' : Office m} (found : o.store.document.named? t id = some row)
      (missing : Calculations.numberOf? row = none) (numbered : o.GivesNumber t id number o') :
      FilledIn o t id number o'

/-- A count and a number are stored one after the other. -/
theorem givesNumber_withStore (apart : t ≠ Document.countersTable) (n : OfferNumber) (medium : m) :
    o.GivesNumber t id n.text (o.withStore (Change.applyAll o.now
      [.advance (OfferNumber.counterKey o.now.year), .update (numbering t id n)]
        o.store.document) medium) where
  rows := by
    change ((Change.update (numbering t id n)).apply o.now _).table t = _
    rw [Change.table_update, Change.table_advance _ apart]
    refine (if_pos rfl).trans (List.map_congr_left fun row _ => ?_)
    exact updateRow_numbering o.now t id n row
  counter := by
    refine (Document.countsUp_advance o.now _ o.store.document).congr ?_ ?_
    · exact (Change.table_update _ _).trans (if_neg apart.symm)
    · exact (Change.others_update (numbering t id n) (Ne.symm apart)).2
  others u other other' := by
    change ((Change.update (numbering t id n)).apply o.now _).tables.get? u = _
    rw [(Change.others_update _ other).1, Change.others_advance _ other']
  now := rfl
  supply := rfl

/-- A row that gets a number is found as before. -/
theorem GivesNumber.named? {number : String} (h : o.GivesNumber t id number o') {row : Record}
    (found : o.store.document.named? t id = some row) :
    o'.store.document.named? t id = some (row.numbered number) := by
  have kept (row : Record) : Calculations.isNamed id
      (if Calculations.isNamed id row then row.numbered number else row) =
        Calculations.isNamed id row := by
    split
    · rw [Calculations.isNamed, Record.get?_numbered (by decide), Calculations.isNamed]
    · rfl
  rw [Document.named?, h.rows, List.find?_map]
  change ((o.store.document.table t).find? fun row => Calculations.isNamed id _).map _ = _
  simp only [kept]
  rw [Document.named?] at found
  rw [found, Option.map_some, if_pos (List.find?_some found)]

theorem Ends.run_eq {act : OfficeM ε m α} {a : α}
    (h : Ends act o (fun b o'' => b = a ∧ o'' = o') fun _ _ => False) :
    act.run.run o = (.ok a, o') := by
  obtain ⟨b, o'', run, rfl, rfl⟩ := h.exists_ok
  exact run

variable [Medium m] {offerPrefix : String}

/-- A row that is told has its number, or gets one. -/
theorem fill_ends (apart : t ≠ Document.countersTable) (version : Int) (number : Option String)
    (a : α) (f : OfferNumber → α) :
    Ends (if (number.getD "").isEmpty then do
        let number ← allocate offerPrefix version
        let _ ← update (numbering t id number)
        return f number
      else return a : Work m α) o
      (fun told o' => ((number.getD "").isEmpty = false ∧ told = a ∧ o' = o) ∨
        ((number.getD "").isEmpty = true ∧ ∃ n, told = f n ∧ o.GivesNumber t id n.text o'))
      fun _ _ => True := by
  cases missing : (number.getD "").isEmpty with
  | false => exact ends_pure.mpr (.inl ⟨rfl, rfl, rfl⟩)
  | true =>
    simp only [if_true, allocate, allocateForYear, ends_bind, ends_get, ends_pure]
    refine Ends.commit (fun _ => ?_) fun _ _ => trivial
    unfold update
    simp only [ends_bind, ends_pure]
    refine Ends.commit (fun medium => .inr ⟨trivial, _, rfl, ?_⟩) fun _ _ => trivial
    exact givesNumber_withStore apart _ medium

end Office

/-! ## Calculations -/

namespace Calculations

variable {m : Type} {o : Office m} {row : Record} {c : Calculation} {told : CalculationDetail}
  {offerPrefix uuid : String} {id : Int}

theorem id_of_isNamed (read : Calculation.Reads row c) (fits : fitsSigned id = true)
    (named : isNamed id row = true) : c.id = id := by
  obtain ⟨v, stored, found⟩ :=
    Option.bind_eq_some_iff.mp (Fields.required_entries.symm.trans read.id)
  obtain ⟨rfl, -⟩ := Json.eq_int_of_signed? found
  rw [isNamed, stored, Json.matchesValue_int read.fits fits] at named
  exact of_decide_eq_true named

/-- What is told of a row that has a number. -/
structure Shows (doc : Document) (row : Record) (told : CalculationDetail) : Prop where
  read : Calculation.ofRecord? row = some told.calculation
  filled : (told.calculation.offerNumber.getD "").isEmpty = false
  sheets : doc.sheets? (.calculation told.calculation.id) told.calculation.kind =
    some told.sheets

variable [Medium m]

theorem Shows.detail (h : Shows o.store.document row told) :
    Ends (detail offerPrefix told.calculation) o (fun again o' => again = told ∧ o' = o)
      fun _ _ => False := by
  simp only [Calculations.detail, backfill, h.filled, Bool.false_eq_true, if_false, ends_bind,
    ends_pure, LineItems.ends_sheets, h.sheets]
  exact ⟨trivial, trivial⟩

theorem Shows.get (h : Shows o.store.document row told)
    (found : o.store.document.named? table id = some row) :
    (get offerPrefix id).run.run o = (.ok told, o) := by
  refine Ends.run_eq ?_
  simp only [Calculations.get, require, find, ends_bind, ends_storage, ends_selectFirst,
    Select.rows_matching, Document.named?_eq, found, h.read, ends_pure]
  exact h.detail

theorem Shows.latest (h : Shows o.store.document row told)
    (found : o.store.document.lookup? uuid = some row) :
    (latest offerPrefix uuid).run.run o = (.ok told, o) := by
  refine Ends.run_eq ?_
  simp only [Calculations.latest, ends_bind, ends_storage, ends_selectFirst,
    Select.rows_matching, Document.lookup?_eq, found, h.read]
  exact h.detail

/-- A row that is told has a number from then on. -/
theorem get_fills (fits : fitsSigned id = true) :
    Ends (get offerPrefix id) o
      (fun told o' => ∃ number row, told.calculation.offerNumber = some number ∧ number ≠ "" ∧
        o.FilledIn table id number o' ∧ o'.store.document.named? table id = some row ∧
        Shows o'.store.document row told) fun _ _ => True := by
  refine get_ends_of (fun _ => trivial) fun row c found read => ends_storage.mpr ?_
  have reads := Calculation.reads_of_ofRecord? read
  obtain rfl := id_of_isNamed reads fits (List.find?_some found)
  refine ends_bind.mpr ((fill_ends (by decide) (max c.version 1) c.offerNumber c
    fun number => { c with offerNumber := some number.text }).mono ?_ fun _ _ _ => trivial)
  rintro c' o' (⟨filled, rfl, rfl⟩ | ⟨missing, n, rfl, numbered⟩)
  · obtain ⟨n, number, some, there⟩ := exists_of_filled filled
    refine (sheets_ends_found (CalculationDetail.mk _)).mono ?_ fun _ _ _ => trivial
    rintro told o' ⟨⟨sheets, stored, rfl⟩, rfl⟩
    exact ⟨n, row, number, some, .kept found ((numberOf?_eq reads).trans there), found, read,
      filled, stored⟩
  · refine (sheets_ends_found (CalculationDetail.mk _)).mono ?_ fun _ _ _ => trivial
    rintro told o'' ⟨⟨sheets, stored, rfl⟩, rfl⟩
    refine ⟨n.text, _, rfl, n.text_ne_empty,
      .given found ((numberOf?_eq reads).trans (filter_of_missing missing)) numbered,
      numbered.named? found, Calculation.ofRecord?_numbered n.text read, ?_, stored⟩
    simpa using n.text_ne_empty

end Calculations

/-! ## Offers -/

namespace Offers

variable {m : Type} {o : Office m} {row : Record} {told : OfferDetail} {offerPrefix : String}
  {id : Int}

/-- What is told of a row that has a number. -/
structure Shows (doc : Document) (id : Int) (row : Record) (told : OfferDetail) : Prop where
  read : Offer.ofRecord? row = some told.offer
  filled : (told.offer.offerNumber.getD "").isEmpty = false
  sheets : doc.sheets? (.offer id) told.offer.kind = some told.sheets

variable [Medium m]

theorem Shows.get (h : Shows o.store.document id row told)
    (found : o.store.document.named? table id = some row) :
    (get offerPrefix id).run.run o = (.ok told, o) := by
  refine Ends.run_eq ?_
  simp only [Offers.get, require, detail, backfill, ends_bind, ends_storage, ends_selectFirst,
    Select.rows_matching, Document.named?_eq, found, h.read, ends_pure, h.filled,
    Bool.false_eq_true, if_false, LineItems.ends_sheets, h.sheets]
  exact ⟨trivial, trivial⟩

/-- An offer that is told has a number from then on. -/
theorem get_fills :
    Ends (get offerPrefix id) o
      (fun told o' => ∃ number row, told.offer.offerNumber = some number ∧ number ≠ "" ∧
        o.FilledIn table id number o' ∧ o'.store.document.named? table id = some row ∧
        Shows o'.store.document id row told) fun _ _ => True := by
  refine get_ends_of (fun _ => trivial) fun row offer found read => ends_storage.mpr ?_
  have number := Offer.numberOf?_of_ofRecord? read
  refine ends_bind.mpr ((fill_ends (by decide) 1 offer.offerNumber offer
    fun number => { offer with offerNumber := some number.text }).mono ?_ fun _ _ _ => trivial)
  rintro filled o' (⟨there, rfl, rfl⟩ | ⟨missing, n, rfl, numbered⟩)
  · obtain ⟨n, own, some, same⟩ := Calculations.exists_of_filled there
    refine (sheets_ends_found (OfferDetail.mk _)).mono ?_ fun _ _ _ => trivial
    rintro told o' ⟨⟨sheets, stored, rfl⟩, rfl⟩
    exact ⟨n, row, own, some, .kept found (number.trans same), found, read, there, stored⟩
  · refine (sheets_ends_found (OfferDetail.mk _)).mono ?_ fun _ _ _ => trivial
    rintro told o'' ⟨⟨sheets, stored, rfl⟩, rfl⟩
    refine ⟨n.text, _, rfl, n.text_ne_empty,
      .given found (number.trans (Calculations.filter_of_missing missing)) numbered,
      numbered.named? found, Offer.ofRecord?_numbered n.text read, ?_, stored⟩
    simpa using n.text_ne_empty

end Offers

/-! ## Lookups one after the other -/

namespace Office

variable {m α : Type} {o : Office m}

/-- Ask one thing after the other, each at its time: what is told, and the office left behind. -/
def askAll (o : Office m) : List (Instant × Service m α) → List (Except ServiceError α) × Office m
  | [] => ([], o)
  | (now, ask) :: rest =>
    let (told, o') := ask.run.run (o.setNow now)
    let (later, o'') := askAll o' rest
    (told :: later, o'')

/-- Where nothing that is asked changes anything, the same is told each time. -/
theorem askAll_of_steady {told : α} {asked : List (Instant × Service m α)}
    (steady : ∀ a ∈ asked, ∀ now, a.2.run.run (o.setNow now) = (.ok told, o.setNow now)) :
    (o.askAll asked).1 = asked.map (fun _ => .ok told) ∧
      ∃ now, (o.askAll asked).2 = o.setNow now := by
  induction asked generalizing o with
  | nil => exact ⟨rfl, o.now, rfl⟩
  | cons a rest ih =>
    obtain ⟨first, later⟩ := List.forall_mem_cons.mp steady
    obtain ⟨same, now, left⟩ := @ih (o.setNow a.1) later
    have asked : o.askAll (a :: rest) =
        (.ok told :: ((o.setNow a.1).askAll rest).1, ((o.setNow a.1).askAll rest).2) := by
      simp only [askAll, first]
    rw [asked, same]
    exact ⟨rfl, now, left⟩

variable [Medium m]

/-- When a calculation or an offer is told, its number is there, or it is filled in. What is asked
    after that, by the id or by a chain of which the current version is found in the same row, is
    answered alike, and nothing changes. -/
theorem numbers_are_filled_in_once (offerPrefix : String) {o o' : Office m} {id : Int}
    (fits : fitsSigned id = true) :
    (∀ told, (Calculations.get offerPrefix id).run.run o = (.ok told, o') →
      (∃ number, told.calculation.offerNumber = some number ∧ number ≠ "" ∧
        o.FilledIn Calculations.table id number o') ∧
      ∀ asked : List (Instant × Service m CalculationDetail),
        (∀ a ∈ asked, a.2 = Calculations.get offerPrefix id ∨
          ∃ uuid, o'.store.document.lookup? uuid = o'.store.document.named? Calculations.table id ∧
            a.2 = Calculations.latest offerPrefix uuid) →
        (o'.askAll asked).1 = asked.map (fun _ => .ok told) ∧
          ∃ now, (o'.askAll asked).2 = o'.setNow now) ∧
    ∀ told, (Offers.get offerPrefix id).run.run o = (.ok told, o') →
      (∃ number, told.offer.offerNumber = some number ∧ number ≠ "" ∧
        o.FilledIn Offers.table id number o') ∧
      ∀ asked : List (Instant × Service m OfferDetail),
        (∀ a ∈ asked, a.2 = Offers.get offerPrefix id) →
        (o'.askAll asked).1 = asked.map (fun _ => .ok told) ∧
          ∃ now, (o'.askAll asked).2 = o'.setNow now := by
  constructor
  · intro told run
    obtain ⟨number, row, own, some, filled, found, shows⟩ := (Calculations.get_fills fits).of_ok run
    refine ⟨⟨number, own, some, filled⟩, fun asked again => askAll_of_steady fun a mem now => ?_⟩
    rcases again a mem with same | ⟨uuid, looked, same⟩
    · rw [same]
      exact Calculations.Shows.get (o := o'.setNow now) shows found
    · rw [same]
      exact Calculations.Shows.latest (o := o'.setNow now) shows (looked.trans found)
  · intro told run
    obtain ⟨number, row, own, some, filled, found, shows⟩ := Offers.get_fills.of_ok run
    refine ⟨⟨number, own, some, filled⟩, fun asked again => askAll_of_steady fun a mem now => ?_⟩
    rw [again a mem]
    exact Offers.Shows.get (o := o'.setNow now) shows found

/-- A calculation with an empty number and an offer with none. -/
def withoutNumbers : Document :=
  ⟨.empty, .ofList
    [("calculations", [.ofList [("id", .int 1), ("calculation_uuid", .text "a"),
      ("is_current", .int 1), ("offer_number", .text "")]]),
     ("offers", [.ofList [("id", .int 1), ("offer_number", .null)]])]⟩

theorem numbers_are_filled_in_once_without_numbers :
    (∃ told o', (Calculations.get "FHD" 1).run.run
        (inMemory.withStore withoutNumbers inMemory.store.medium) = (.ok told, o') ∧
      told.calculation.offerNumber = some "FHD1970-0001.1" ∧
      (o'.askAll [(5, Calculations.get "FHD" 1), (3, Calculations.latest "FHD" "a")]).1 =
        [.ok told, .ok told]) ∧
    ∃ told o', (Offers.get "FHD" 1).run.run
        (inMemory.withStore withoutNumbers inMemory.store.medium) = (.ok told, o') ∧
      told.offer.offerNumber = some "FHD1970-0001.1" ∧
      (o'.askAll [(5, Offers.get "FHD" 1)]).1 = [.ok told] := by
  have calculation : ((Calculations.get "FHD" 1).run.run
      (inMemory.withStore withoutNumbers inMemory.store.medium)).1.toOption.any
        (fun told => told.calculation.offerNumber = some "FHD1970-0001.1") = true ∧
      ((Calculations.get "FHD" 1).run.run (inMemory.withStore withoutNumbers
        inMemory.store.medium)).2.store.document.lookup? "a" =
      ((Calculations.get "FHD" 1).run.run (inMemory.withStore withoutNumbers
        inMemory.store.medium)).2.store.document.named? Calculations.table 1 := by decide +kernel
  have offer : ((Offers.get "FHD" 1).run.run
      (inMemory.withStore withoutNumbers inMemory.store.medium)).1.toOption.any
        (fun told => told.offer.offerNumber = some "FHD1970-0001.1") = true := by decide +kernel
  obtain ⟨calculation, reached⟩ := calculation
  obtain ⟨told, o', run, number⟩ := exists_of_ok calculation
  obtain ⟨told', o'', run', number'⟩ := exists_of_ok offer
  have fits : fitsSigned 1 = true := by decide
  rw [run] at reached
  refine ⟨⟨told, o', run, of_decide_eq_true number, ?_⟩, told', o'', run',
    of_decide_eq_true number', ?_⟩
  · refine (((numbers_are_filled_in_once "FHD" fits).1 told run).2 _ ?_).1
    exact List.forall_mem_cons.mpr ⟨.inl rfl, List.forall_mem_singleton.mpr
      (.inr ⟨"a", reached, rfl⟩)⟩
  · exact (((numbers_are_filled_in_once "FHD" fits).2 told' run').2 _
      (List.forall_mem_singleton.mpr rfl)).1

end Office

end OfferBook
