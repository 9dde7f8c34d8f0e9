import OfferBook.Proofs.Calculations.Chain
import OfferBook.Proofs.Document.Counters
import OfferBook.Proofs.OfferNumber.Text

/-! # The ledger of offer numbers

* `Issue`, `Entry` — a value of a year's counter, and a version whose number is based on one.
* `Office.Ledger` — the rows of calculations and offers as entries and issues, none of which is
  used twice.
* `Office.Numbered` — the invariant; `Office.Numbered.growth`, `Office.Numbered.aside` — the two
  steps of a request keep it.
-/

namespace OfferBook

/-- A value of a year's counter. -/
structure Issue where
  year : Int
  counter : Nat
deriving DecidableEq

/-- A version of a calculation. -/
structure Entry where
  uuid : String
  issue : Issue
  version : Int

/-- The number based on an issue. -/
def Issue.number (offerPrefix : String) (i : Issue) (version : Int) : OfferNumber :=
  .ofCounter offerPrefix i.year i.counter version

/-- The fields of a calculation that tell versions and their numbers apart. -/
def Calculations.signature (row : Record) : Option Json × Option Json × Option Json :=
  (row.get? "calculation_uuid", row.get? "version", row.get? "offer_number")

/-- The fields of an entry's row. -/
def Entry.signature (offerPrefix : String) (e : Entry) : Option Json × Option Json × Option Json :=
  (some (.text e.uuid), some (.int e.version),
    some (.text (e.issue.number offerPrefix e.version).text))

/-- The number of a row. -/
def OfferNumber.ofRow (row : Record) : Option Json := row.get? "offer_number"

/-- The number of an offer. -/
def Issue.signature (offerPrefix : String) (i : Issue) : Option Json :=
  some (.text (i.number offerPrefix 1).text)

namespace Calculations

theorem signature_of_annotated {f : Record → Record}
    (keeps : ∀ row column, column ∉ annotations → (f row).get? column = row.get? column) :
    signature ∘ f = signature := by
  funext row
  simp only [Function.comp_apply, signature, keeps row "calculation_uuid" (by decide),
    keeps row "version" (by decide), keeps row "offer_number" (by decide)]

theorem signature_retired (now : Instant) (uuid : String) :
    signature ∘ Change.updateRow now (retire uuid) = signature := by
  funext row
  simp only [Function.comp_apply, signature]
  rw [get?_retired (by decide), get?_retired (by decide), get?_retired (by decide)]

theorem signature_row (now : Instant) (uuid : String) (version : Int) (kunde : String)
    (createdBy : Option String) (input : CalculationInput) (number : OfferNumber)
    (parent : Option Int) (id : Int) :
    signature ((row uuid version kunde createdBy input number parent).row now [] id) =
      (some (.text uuid), some (.int version), some (.text number.text)) := by
  have given (column : String) (value : Json) (mem : (column, value) ∈
      rowFields now uuid version kunde createdBy input number parent) :=
    get?_row_of_mem mem id
  simp only [signature, given "calculation_uuid" (.text uuid) (by simp [rowFields]),
    given "version" (.int version) (by simp [rowFields]),
    given "offer_number" (.text number.text) (by simp [rowFields])]

end Calculations

namespace Office

variable {m : Type} {offerPrefix : String} {o o' : Office m} {n : Nat}

/-! ## Counters -/

/-- The value of a year's counter. -/
def counter (o : Office m) (year : Int) : Int :=
  Document.counterIn (OfferNumber.counterKey year) o.counters

theorem nextCounter_eq (o : Office m) (year : Int) : o.nextCounter year = o.counter year + 1 :=
  Document.advanceCounter_fst

/-- All counters are small. -/
def Counted (n : Nat) (o : Office m) : Prop := ∀ year, ∃ c : Nat, c ≤ n ∧ o.counter year = c

theorem counter_of_advance (h : Counted n o) (short : n < Double.exactLimit) {year : Int}
    (rows : o'.counters = o.countersAfter year) (year' : Int) :
    o'.counter year' = if year' = year then o.counter year + 1 else o.counter year' := by
  unfold counter
  rw [rows]
  split
  · next same =>
    subst same
    obtain ⟨c, few, value⟩ := h year'
    -- A counter is read back exactly while it has 64 bits, which so few requests ensure.
    refine Document.counterIn_advance ?_
    have : Document.counterIn (OfferNumber.counterKey year')
        (o.store.document.table Document.countersTable) = c := value
    rw [this]
    exact Double.fitsSigned_of_le (k := c + 1) (by omega)
  · next differs =>
    exact Document.counterIn_advance_of_ne fun same =>
      differs (OfferNumber.counterKey_injective same)

theorem Counted.advance (h : Counted n o) (short : n < Double.exactLimit) {year : Int}
    (rows : o'.counters = o.countersAfter year) : Counted (n + 1) o' := by
  intro year'
  rw [counter_of_advance h short rows]
  split
  · obtain ⟨c, few, value⟩ := h year
    exact ⟨c + 1, Nat.succ_le_succ few, by rw [value]; rfl⟩
  · obtain ⟨c, few, value⟩ := h year'
    exact ⟨c, Nat.le_succ_of_le few, value⟩

theorem counter_of_same (rows : o'.counters = o.counters) (year : Int) :
    o'.counter year = o.counter year := by
  unfold counter
  rw [rows]

theorem Counted.of_same (h : Counted n o) (rows : o'.counters = o.counters) : Counted n o' := by
  intro year
  rw [counter_of_same rows]
  exact h year

theorem Counted.succ (h : Counted n o) : Counted (n + 1) o := by
  intro year
  obtain ⟨c, few, value⟩ := h year
  exact ⟨c, Nat.le_succ_of_le few, value⟩

theorem Counted.le_of_advance (h : Counted n o) (short : n < Double.exactLimit) {year : Int}
    (rows : o'.counters = o.countersAfter year) (year' : Int) :
    o.counter year' ≤ o'.counter year' := by
  rw [counter_of_advance h short rows]
  split
  · next same => exact same ▸ Int.le_add_one (Int.le_refl _)
  · exact Int.le_refl _

/-! ## Entries and issues -/

/-- The rows as entries and issues. -/
structure Ledger (offerPrefix : String) (o : Office m) (entries : List Entry)
    (issues : List Issue) : Prop where
  calculations : o.calculations.map Calculations.signature =
    entries.map (Entry.signature offerPrefix)
  offers : o.offers.map OfferNumber.ofRow = issues.map (Issue.signature offerPrefix)
  known : ∀ i ∈ entries.map Entry.issue ++ issues, (i.counter : Int) ≤ o.counter i.year
  shared : ∀ e ∈ entries, ∀ e' ∈ entries, e.issue = e'.issue ↔ e.uuid = e'.uuid
  versions : (entries.map fun e => (e.issue, e.version)).Nodup
  alone : issues.Nodup
  apart : ∀ e ∈ entries, e.issue ∉ issues

namespace Ledger

variable {entries : List Entry} {issues : List Issue}

theorem exists_entry (h : Ledger offerPrefix o entries issues) {row : Record}
    (mem : row ∈ o.calculations) :
    ∃ e ∈ entries, Calculations.signature row = e.signature offerPrefix := by
  have := List.mem_map_of_mem (f := Calculations.signature) mem
  rw [h.calculations] at this
  obtain ⟨e, he, same⟩ := List.mem_map.mp this
  exact ⟨e, he, same.symm⟩

theorem exists_row (h : Ledger offerPrefix o entries issues) {e : Entry} (mem : e ∈ entries) :
    ∃ row ∈ o.calculations, Calculations.signature row = e.signature offerPrefix := by
  have := List.mem_map_of_mem (f := Entry.signature offerPrefix) mem
  rw [← h.calculations] at this
  exact List.mem_map.mp this

/-- The next value of a counter is based on by nothing yet. -/
theorem next_unknown (h : Ledger offerPrefix o entries issues) {year : Int} {c : Nat}
    (value : o.counter year = c) : ⟨year, c + 1⟩ ∉ entries.map Entry.issue ++ issues := by
  intro mem
  have := h.known _ mem
  simp only [value] at this
  omega

theorem mono (h : Ledger offerPrefix o entries issues)
    (calculations : o'.calculations.map Calculations.signature =
      o.calculations.map Calculations.signature)
    (offers : o'.offers.map OfferNumber.ofRow = o.offers.map OfferNumber.ofRow)
    (counters : ∀ year, o.counter year ≤ o'.counter year) :
    Ledger offerPrefix o' entries issues :=
  { h with
    calculations := calculations.trans h.calculations
    offers := offers.trans h.offers
    known := fun i mem => Int.le_trans (h.known i mem) (counters i.year) }

theorem concat_entry (h : Ledger offerPrefix o entries issues) {e : Entry}
    (calculations : o'.calculations.map Calculations.signature =
      o.calculations.map Calculations.signature ++ [e.signature offerPrefix])
    (offers : o'.offers = o.offers) (counters : ∀ year, o.counter year ≤ o'.counter year)
    (known : (e.issue.counter : Int) ≤ o'.counter e.issue.year)
    (shared : ∀ e' ∈ entries, e'.issue = e.issue ↔ e'.uuid = e.uuid)
    (version : ∀ e' ∈ entries, e'.issue = e.issue → e'.version ≠ e.version)
    (apart : e.issue ∉ issues) : Ledger offerPrefix o' (entries ++ [e]) issues where
  calculations := by rw [calculations, h.calculations, List.map_append]; rfl
  offers := offers ▸ h.offers
  known := by
    intro i mem
    have old (mem : i ∈ entries.map Entry.issue ++ issues) :=
      Int.le_trans (h.known i mem) (counters i.year)
    simp only [List.map_append, List.map_cons, List.map_nil, List.mem_append, List.mem_singleton]
      at mem
    rcases mem with (mem | rfl) | mem
    · exact old (List.mem_append_left _ mem)
    · exact known
    · exact old (List.mem_append_right _ mem)
  shared := by
    -- Old with old, old with new, new with old, new with new.
    simp only [List.mem_append, List.mem_singleton]
    rintro e₁ (h₁ | rfl) e₂ (h₂ | rfl)
    · exact h.shared e₁ h₁ e₂ h₂
    · exact shared e₁ h₁
    · exact ⟨fun same => ((shared e₂ h₂).mp same.symm).symm,
        fun same => ((shared e₂ h₂).mpr same.symm).symm⟩
    · exact ⟨fun _ => rfl, fun _ => rfl⟩
  versions := by
    rw [List.map_append]
    refine List.nodup_append.mpr ⟨h.versions, by simp, fun a ha b hb same => ?_⟩
    obtain ⟨e', he', rfl⟩ := List.mem_map.mp ha
    obtain rfl := List.mem_singleton.mp hb
    obtain ⟨issue, versions⟩ := Prod.mk.inj same
    exact version e' he' issue versions
  alone := h.alone
  apart := by
    intro e' mem
    rcases List.mem_append.mp mem with old | new
    · exact h.apart e' old
    · rw [List.mem_singleton.mp new]
      exact apart

theorem concat_issue (h : Ledger offerPrefix o entries issues) {i : Issue}
    (calculations : o'.calculations = o.calculations)
    (offers : o'.offers.map OfferNumber.ofRow =
      o.offers.map OfferNumber.ofRow ++ [i.signature offerPrefix])
    (counters : ∀ year, o.counter year ≤ o'.counter year)
    (known : (i.counter : Int) ≤ o'.counter i.year)
    (fresh : i ∉ entries.map Entry.issue ++ issues) :
    Ledger offerPrefix o' entries (issues ++ [i]) where
  calculations := calculations ▸ h.calculations
  offers := by rw [offers, h.offers, List.map_append]; rfl
  known := by
    intro j mem
    rw [← List.append_assoc] at mem
    rcases List.mem_append.mp mem with old | new
    · exact Int.le_trans (h.known j old) (counters j.year)
    · rw [List.mem_singleton.mp new]
      exact known
  shared := h.shared
  versions := h.versions
  alone := by
    refine List.nodup_append.mpr ⟨h.alone, by simp, fun a ha b hb same => ?_⟩
    rw [same, List.mem_singleton.mp hb] at ha
    exact fresh (List.mem_append_right _ ha)
  apart := by
    intro e he mem
    rcases List.mem_append.mp mem with old | new
    · exact h.apart e he old
    · exact fresh (List.mem_append_left _ (List.mem_singleton.mp new ▸ List.mem_map_of_mem he))

end Ledger

/-! ## The invariant -/

/-- Every row has a number of its own, based on a value that its counter has shown. -/
structure Numbered (offerPrefix : String) (n : Nat) (o : Office m) : Prop where
  chained : Chained n o
  counted : Counted n o
  ledger : ∃ entries issues, Ledger offerPrefix o entries issues

theorem IsNew.numbered (h : o.IsNew) : Numbered offerPrefix 0 o where
  chained := h.chained
  counted year := by
    have empty : o.counters = [] := (h.isEmpty _).1
    exact ⟨0, Nat.le_refl 0, by rw [counter, empty]; rfl⟩
  ledger := by
    have calculations : o.calculations = [] := (h.isEmpty _).1
    have offers : o.offers = [] := (h.isEmpty _).1
    exact ⟨[], [], by constructor <;> simp [calculations, offers]⟩

/-! ## The core of a request -/

theorem nextNumber_eq {c : Nat} (value : o.counter o.now.year = c) :
    nextNumber offerPrefix o = Issue.number offerPrefix ⟨o.now.year, c + 1⟩ 1 := by
  rw [nextNumber, nextCounter_eq, value]
  rfl

theorem numberAfter_eq {row : Record} {head : Calculation} (shown : Calculation.Shown row head)
    {e : Entry} (same : Calculations.signature row = e.signature offerPrefix) :
    Calculations.numberAfter head = e.issue.number offerPrefix (head.version + 1) := by
  obtain ⟨n, -, stored, number⟩ := shown.number
  have number' : row.get? "offer_number" =
      some (.text (e.issue.number offerPrefix e.version).text) := congrArg (·.2.2) same
  have : n = (e.issue.number offerPrefix e.version).text := by simpa [number'] using number.symm
  rw [Calculations.numberAfter, stored, Option.getD_some, this, Issue.number,
    OfferNumber.rebase_text OfferNumber.ofCounter_base_ne_empty]
  rfl

namespace Numbered

variable {entries : List Entry} {issues : List Issue}

theorem uuid_unused (h : Chained n o) (ledger : Ledger offerPrefix o entries issues) {k : Nat}
    (fresh : o.supply.uuidsTaken ≤ k) : ∀ e ∈ entries, e.uuid ≠ o.supply.uuid k := by
  intro e he same
  obtain ⟨row, mem, shown⟩ := ledger.exists_row he
  obtain ⟨i, hi, named⟩ := h.taken row mem
  have named' : row.get? "calculation_uuid" = some (.text e.uuid) := congrArg (·.1) shown
  have : o.supply.uuid i = o.supply.uuid k := by simpa [named, same] using named'
  have := h.distinct this
  omega

theorem version_le (h : Chained n o) (short : n < Double.exactLimit)
    (ledger : Ledger offerPrefix o entries issues) {row : Record} {head : Calculation}
    (isHead : Calculations.IsHead o.store.document row head) :
    ∀ e ∈ entries, e.uuid = head.uuid → e.version ≤ head.version := by
  intro e he same
  obtain ⟨row', mem, shown⟩ := ledger.exists_row he
  have named : row'.get? "calculation_uuid" = some (.text e.uuid) := congrArg (·.1) shown
  have version : row'.get? "version" = some (.int e.version) := congrArg (·.2.1) shown
  have inChain : row' ∈ o.store.document.chain head.uuid :=
    Document.mem_chain.mpr ⟨mem, same ▸ named⟩
  -- In a linear chain the version is the place, and the head stands last.
  obtain ⟨k, hk⟩ := List.mem_iff_getElem?.mp inChain
  have inside := (List.getElem?_eq_some_iff.mp hk).1
  have : e.version = k + 1 := by
    simpa [version, Json.int] using (h.linear head.uuid).version k row' hk
  rw [this, (h.last_of_isHead short isHead).2]
  omega

theorem of_same (h : Numbered offerPrefix n o) (chained : Chained (n + 1) o')
    (calculations : o'.calculations.map Calculations.signature =
      o.calculations.map Calculations.signature)
    (offers : o'.offers = o.offers) (counters : o'.counters = o.counters) :
    Numbered offerPrefix (n + 1) o' := by
  obtain ⟨entries, issues, ledger⟩ := h.ledger
  refine ⟨chained, (h.counted.of_same counters).succ, entries, issues, ?_⟩
  exact ledger.mono calculations (congrArg _ offers) fun year =>
    Int.le_of_eq (counter_of_same counters year).symm

theorem known_next (h : Counted n o) (short : n < Double.exactLimit) {year : Int}
    (rows : o'.counters = o.countersAfter year) {c : Nat} (value : o.counter year = c) :
    ((c + 1 : Nat) : Int) ≤ o'.counter year := by
  rw [counter_of_advance h short rows, if_pos rfl, value]
  exact Int.le_refl _

theorem first (h : Numbered offerPrefix n o) (short : n < Double.exactLimit)
    (chained : Chained (n + 1) o') {k : Nat} {kunde : String} {input : CalculationInput}
    {caller : Caller} (fresh : o.supply.uuidsTaken ≤ k)
    (rows : o'.Holds
      (o.calculations ++ [o.firstRow offerPrefix (o.supply.uuid k) kunde input caller])
      o.offers (o.countersAfter o.now.year)) : Numbered offerPrefix (n + 1) o' := by
  obtain ⟨entries, issues, ledger⟩ := h.ledger
  obtain ⟨c, -, value⟩ := h.counted o.now.year
  have unknown := ledger.next_unknown value
  have unused := uuid_unused h.chained ledger fresh
  have unissued (e : Entry) (he : e ∈ entries) : e.issue ≠ ⟨o.now.year, c + 1⟩ := fun same =>
    unknown (List.mem_append_left _ (same ▸ List.mem_map_of_mem he))
  have stored : Calculations.signature
      (o.firstRow offerPrefix (o.supply.uuid k) kunde input caller) =
        (Entry.mk (o.supply.uuid k) ⟨o.now.year, c + 1⟩ 1).signature offerPrefix := by
    rw [firstRow, Calculations.signature_row, nextNumber_eq value]
    rfl
  refine ⟨chained, h.counted.advance short rows.counters, _, issues, ledger.concat_entry
    (e := ⟨o.supply.uuid k, ⟨o.now.year, c + 1⟩, 1⟩) ?_ rows.offers
    (h.counted.le_of_advance short rows.counters) (known_next h.counted short rows.counters value)
    (fun e he => ?_) (fun e he same => absurd same (unissued e he)) fun mem =>
      unknown (List.mem_append_right _ mem)⟩
  · rw [calculations, rows.calculations, List.map_append, List.map_singleton, stored]
  · exact ⟨fun same => absurd same (unissued e he), fun same => absurd same (unused e he)⟩

theorem next (h : Numbered offerPrefix n o) (short : n < Double.exactLimit)
    (chained : Chained (n + 1) o') {head : Calculation} {row : Record} {kunde : String}
    {input : CalculationInput} (isHead : Calculations.IsHead o.store.document row head)
    (rows : o'.Holds (o.retired head.uuid ++ [o.nextRow head kunde input]) o.offers o.counters) :
    Numbered offerPrefix (n + 1) o' := by
  obtain ⟨entries, issues, ledger⟩ := h.ledger
  obtain ⟨inTable, named⟩ := Document.mem_chain.mp isHead.mem
  -- The new version shares the issue of the head's entry.
  obtain ⟨e, he, same⟩ := ledger.exists_entry inTable
  have uuid : e.uuid = head.uuid := by
    have named' : row.get? "calculation_uuid" = some (.text e.uuid) := congrArg (·.1) same
    simpa [named'] using named
  have stored : Calculations.signature (o.nextRow head kunde input) =
      (Entry.mk head.uuid e.issue (head.version + 1)).signature offerPrefix := by
    rw [nextRow, Calculations.signature_row, numberAfter_eq isHead.shown same]
    rfl
  refine ⟨chained, (h.counted.of_same rows.counters).succ, _, issues, ledger.concat_entry
    (e := ⟨head.uuid, e.issue, head.version + 1⟩) ?_ rows.offers
    (fun year => Int.le_of_eq (counter_of_same rows.counters year).symm) ?_
    (fun e' he' => ?_) (fun e' he' issue version => ?_) (ledger.apart e he)⟩
  · rw [calculations, rows.calculations, List.map_append, List.map_singleton, stored, retired,
      List.map_map, Calculations.signature_retired]
  · rw [counter_of_same rows.counters]
    exact ledger.known e.issue (List.mem_append_left _ (List.mem_map_of_mem he))
  · rw [← uuid]
    exact ledger.shared e' he' e he
  · -- It would be a version after the head's.
    have := version_le h.chained short ledger isHead e' he'
      (((ledger.shared e' he' e he).mp issue).trans uuid)
    rw [version] at this
    exact absurd this (Int.not_le.mpr (Int.lt_succ _))

theorem offered (h : Numbered offerPrefix n o) (short : n < Double.exactLimit)
    (chained : Chained (n + 1) o') {uuid : String} {input : OfferInput} {caller : Caller}
    (rows : o'.Holds o.calculations (o.offers ++ [o.offerRow offerPrefix uuid input caller])
      (o.countersAfter o.now.year)) : Numbered offerPrefix (n + 1) o' := by
  obtain ⟨entries, issues, ledger⟩ := h.ledger
  obtain ⟨c, -, value⟩ := h.counted o.now.year
  have stored : OfferNumber.ofRow (o.offerRow offerPrefix uuid input caller) =
      (Issue.mk o.now.year (c + 1)).signature offerPrefix := by
    rw [Issue.signature, ← nextNumber_eq value]
    exact Offers.get?_row_of_mem (by simp [Offers.rowFields]) _
  refine ⟨chained, h.counted.advance short rows.counters, entries, _, ledger.concat_issue
    (i := ⟨o.now.year, c + 1⟩) rows.calculations ?_
    (h.counted.le_of_advance short rows.counters) (known_next h.counted short rows.counters value)
    (ledger.next_unknown value)⟩
  rw [offers, rows.offers, List.map_append, List.map_singleton, stored]

theorem core (h : Numbered offerPrefix n o) (short : n < Double.exactLimit)
    (core : Core offerPrefix o o') : Numbered offerPrefix (n + 1) o' := by
  have chained := h.chained.core short core
  cases core.growth with
  | same rows =>
    exact h.of_same chained (congrArg _ rows.calculations) rows.offers rows.counters
  | @counted year rows =>
    -- A number was taken and nothing stored with it.
    obtain ⟨entries, issues, ledger⟩ := h.ledger
    exact ⟨chained, h.counted.advance short rows.counters, entries, issues,
      ledger.mono (congrArg _ rows.calculations) (congrArg _ rows.offers)
        (h.counted.le_of_advance short rows.counters)⟩
  | first fresh taken rows => exact h.first short chained fresh rows
  | @retired head row isHead rows =>
    refine h.of_same chained ?_ rows.offers rows.counters
    rw [calculations, rows.calculations, Office.retired, List.map_map,
      Calculations.signature_retired]
  | next isHead rows => exact h.next short chained isHead rows
  | offered rows => exact h.offered short chained rows

/-! ## Annotations -/

theorem aside (h : Numbered offerPrefix n o) (aside : Aside o o') : Numbered offerPrefix n o' := by
  obtain ⟨entries, issues, ledger⟩ := h.ledger
  obtain ⟨f, keeps, calculationRows⟩ := aside.annotated (.inl rfl)
  obtain ⟨g, keeps', offerRows⟩ := aside.annotated (.inr rfl)
  refine ⟨h.chained.aside aside, h.counted.of_same aside.counters, entries, issues,
    ledger.mono ?_ ?_ fun year => Int.le_of_eq (counter_of_same aside.counters year).symm⟩
  · rw [calculations, calculationRows, List.map_map, Calculations.signature_of_annotated keeps]
    rfl
  · have same : OfferNumber.ofRow ∘ g = OfferNumber.ofRow :=
      funext fun row => keeps' row "offer_number" (by decide)
    rw [offers, offerRows, List.map_map, same]
    rfl

theorem setNow (h : Numbered offerPrefix n o) (now : Instant) :
    Numbered offerPrefix n (o.setNow now) := by
  obtain ⟨entries, issues, ledger⟩ := h.ledger
  exact ⟨h.chained.setNow now, h.counted, entries, issues, { ledger with }⟩

variable [Medium m]

theorem serve (h : Numbered offerPrefix n o) (short : n < Double.exactLimit) (r : Request) :
    Numbered offerPrefix (n + 1) (serve offerPrefix o r) := by
  have effect : Effect offerPrefix _ _ := serve_effect h.chained.sound r
  obtain ⟨between, core, aside⟩ := effect
  exact ((h.setNow r.now).core short core).aside aside

end Numbered

end Office

end OfferBook
