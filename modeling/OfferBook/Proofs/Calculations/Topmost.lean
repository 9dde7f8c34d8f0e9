import OfferBook.Proofs.Calculations.Legacy

/-! # Edits of rows of any form

An edit puts a version on top of its chain. The head is found, and the flags are cleared, by what is
stored; versions, flags and identifiers are read from it leniently.

* `Document.OrdersVersions` — a chain in which both views agree.
* `Document.ordersVersions_of_integers` — one with the versions and identifiers that are written.
* `Calculations.update_puts_on_top` — its new version is the only current one and the highest.
* `Calculations.nameless_version_stays_current` — where an identifier is missing, it is not the
  only one.
-/

namespace OfferBook

open Office

/-! ## Versions as they are stored -/

/-- The versions of a chain come in the order in which they are read, none is the last that there
    is, and each of them names its chain. -/
structure Document.OrdersVersions (doc : Document) (uuid : String) : Prop where
  named : ∀ row ∈ doc.table Calculations.table, Calculations.uuidOf? row = some uuid →
    Json.isMissing (row.get? "calculation_uuid") = false
  ordered : ∀ row ∈ doc.table Calculations.table, ∀ other ∈ doc.table Calculations.table,
    Calculations.uuidOf? row = some uuid → Calculations.uuidOf? other = some uuid →
    (Json.compareValues (other.get? "version") (row.get? "version")).isLE = true →
    Calculations.versionOf other ≤ Calculations.versionOf row
  fits : ∀ row ∈ doc.table Calculations.table, Calculations.uuidOf? row = some uuid →
    fitsSigned (Calculations.versionOf row + 1) = true

/-- A row as the services write it, with a version that is read exactly. -/
structure Calculations.Numbered (uuid : String) (row : Record) : Prop where
  named : row.get? "calculation_uuid" = some (.text uuid)
  version : ∃ n : Nat, n < Double.exactLimit ∧ row.get? "version" = some (.int n)

theorem Calculations.versionOf_int {row : Record} {n : Int} (h : row.get? "version" = some (.int n))
    (fits : fitsSigned n = true) : versionOf row = n := by
  simp [versionOf, h, Lenient.version, Json.int, Number.signed?, fits]

theorem Document.ordersVersions_of_integers {doc : Document} {uuid : String}
    (h : ∀ row ∈ doc.table Calculations.table, Calculations.uuidOf? row = some uuid →
      Calculations.Numbered uuid row) : doc.OrdersVersions uuid where
  named row mem called := by
    rw [(h row mem called).named]
    rfl
  ordered row mem other mem' called called' le := by
    obtain ⟨-, a, small, version⟩ := h row mem called
    obtain ⟨-, b, small', version'⟩ := h other mem' called'
    rw [Calculations.versionOf_int version (Double.fitsSigned_of_le small.le),
      Calculations.versionOf_int version' (Double.fitsSigned_of_le small'.le)]
    rw [version, version'] at le
    by_contra higher
    have lt : Json.compareValues (some (.int a)) (some (.int b)) = .lt :=
      Json.compareValues_int (by omega) small'
    rw [← Json.compareValues_swap, lt] at le
    exact absurd le (by decide)
  fits row mem called := by
    obtain ⟨-, n, small, version⟩ := h row mem called
    have fits := Double.fitsSigned_of_le small.le
    rw [Calculations.versionOf_int version fits]
    exact Double.fitsSigned_of_le (k := n + 1) (by omega)

/-! ## Rows after an edit -/

namespace Calculation

open Calculations

variable {row row' : Record} {c : Calculation}

/-- Rows that differ in the flag alone are read alike, apart from the flag. -/
theorem Reads.of_sameButFlag (same : ∀ name, name ≠ "is_current" → row'.get? name = row.get? name)
    (h : Reads row c) : Reads row' { c with isCurrent := flagOf row' } where
  id := (congrArg (Option.bind · Strict.integer?) (same "id" (by decide))).trans h.id
  uuid := (uuidOf?_congr (same _ (by decide))).trans h.uuid
  version := (versionOf_congr (same _ (by decide))).trans h.version
  kunde := (textOf_congr (same _ (by decide))).trans h.kunde
  createdBy := (textOf_congr (same _ (by decide))).trans h.createdBy
  status := (textOf_congr (same _ (by decide))).trans h.status
  kind := (Fields.orDefault_congr (same _ (by decide))).trans h.kind
  offerNumber := (textOf_congr (same _ (by decide))).trans h.offerNumber
  isCurrent := rfl
  parent := (Fields.orDefault_congr (same _ (by decide))).trans h.parent
  createdAt := (Fields.orDefault_congr (same _ (by decide))).trans h.createdAt
  modifiedAt := (Fields.orDefault_congr (same _ (by decide))).trans h.modifiedAt
  deletedAt := (Fields.orDefault_congr (same _ (by decide))).trans h.deletedAt
  createdByName := (Fields.orDefault_congr (same _ (by decide))).trans h.createdByName

end Calculation

namespace Calculations

variable {m : Type} {o o' : Office m}

/-- A row that is retired is read as before, and is current no longer if it is of the chain. -/
theorem exists_retired {row : Record} {c : Calculation} (read : Calculation.ofRecord? row = some c)
    (uuid : String) : ∃ d, Calculation.ofRecord?
        (Change.updateRow o.now (retire uuid) row) = some d ∧ d.uuid = c.uuid ∧
      d.version = c.version ∧ (isCalled uuid row = true → d.isCurrent = false) := by
  have same : ∀ name, name ≠ "is_current" →
      (Change.updateRow o.now (retire uuid) row).get? name = row.get? name :=
    fun _ other => get?_retired other row
  have reads := (Calculation.reads_of_ofRecord? read).of_sameButFlag same
  refine ⟨_, reads.ofRecord?, rfl, rfl, fun called => ?_⟩
  have passed : Test.allHold ((retire uuid).bound o.now []).2 row = true :=
    (Bool.and_true _).trans called
  have cleared : (Change.updateRow o.now (retire uuid) row).get? "is_current" =
      some (.bool false) := by
    rw [Change.updateRow, if_pos passed, Update.bound_fst]
    exact Dict.get?_insert_self _ _ _
  change flagOf _ = false
  rw [flagOf, cleared]
  rfl

/-- The row of a new version is read as what was stored. -/
theorem exists_versionRow {uuid : String} {version : Int} {kunde : String}
    {createdBy : Option String} {input : CalculationInput} {number : OfferNumber} {parent : Int}
    (id : fitsSigned (o.store.document.lastId table + 1) = true)
    (fits : fitsSigned version = true) (fitsParent : fitsSigned parent = true) :
    ∃ c, Calculation.ofRecord?
        (o.versionRow uuid version kunde createdBy input number (some parent)) = some c ∧
      c.id = o.store.document.lastId table + 1 ∧ c.uuid = uuid ∧ c.version = version ∧
      c.isCurrent = true := by
  have admits : form.Admits
      (o.versionRow uuid version kunde createdBy input number (some parent)) := fun f hf =>
    (row_suits uuid version kunde createdBy input number (by simpa using fitsParent) rfl).2.2 f hf _
  obtain ⟨c, read, shown⟩ := Calculation.exists_shown (joined_of_admits admits) (get?_row_id _) id
  have chain : (o.versionRow uuid version kunde createdBy input number (some parent)).get?
      "calculation_uuid" = some (.text uuid) := get?_versionRow (by simp [rowFields])
  have flag : (o.versionRow uuid version kunde createdBy input number (some parent)).get?
      "is_current" = some (.bool true) := get?_versionRow (by simp [rowFields])
  refine ⟨c, read, ?_, ?_, shown.version version (get?_versionRow (by simp [rowFields])) fits, ?_⟩
  · have stored := (get?_row_id _).symm.trans shown.id
    simpa [Json.int] using stored.symm
  · simpa using shown.uuid.symm.trans chain
  · rw [← (Calculation.reads_of_ofRecord? read).isCurrent, flagOf, flag]
    rfl

/-! ## Edits -/

/-- The row of a version that is the only current one of its chain, and higher than all others. -/
structure IsTopmost (saved : SavedVersion) (others : List Record) (row : Record) : Prop where
  read : ∃ c, Calculation.ofRecord? row = some c ∧ c.id = saved.id ∧ c.uuid = saved.uuid ∧
    c.version = saved.version ∧ c.isCurrent = true
  others : ∀ other ∈ others, ∃ d, Calculation.ofRecord? other = some d ∧
    (d.uuid = saved.uuid → d.isCurrent = false ∧ d.version < saved.version)

theorem isCalled_of_orders {doc : Document} {uuid : String} (orders : doc.OrdersVersions uuid)
    {row : Record} (mem : row ∈ doc.table table) (among : uuidOf? row = some uuid) :
    isCalled uuid row = true := (isCalled_iff among uuid).mpr ⟨rfl, orders.named row mem among⟩

/-- What is stored after the topmost version of a chain is topmost itself. -/
theorem isTopmost_after {head : Calculation} {row : Record} {saved : SavedVersion}
    (orders : o.store.document.OrdersVersions head.uuid)
    (readable : ∀ row ∈ o.calculations, (Calculation.ofRecord? row).isSome = true)
    (top : o.store.document.topmost? head.uuid = some row)
    (read : Calculation.ofRecord? row = some head) (number : OfferNumber) (kunde : String)
    (input : CalculationInput)
    (stored : saved = ⟨o.store.document.lastId table + 1, head.uuid, head.version + 1, number.text⟩)
    (fits : fitsSigned saved.id = true) :
    IsTopmost saved (o.retired head.uuid) (rowAfter o head number kunde input) := by
  subst stored
  have mem : row ∈ o.calculations := (Document.mem_of_topmost? top).1
  have reads := Calculation.reads_of_ofRecord? read
  constructor
  · have highest : fitsSigned (head.version + 1) = true :=
      reads.version ▸ orders.fits row mem reads.uuid
    exact exists_versionRow fits highest reads.fits
  · intro other among
    obtain ⟨r, there, rfl⟩ := List.mem_map.mp among
    obtain ⟨c, readBefore⟩ := Option.isSome_iff_exists.mp (readable r there)
    obtain ⟨d, readNow, sameUuid, sameVersion, cleared⟩ := exists_retired readBefore head.uuid
    refine ⟨d, readNow, fun same => ?_⟩
    have readsBefore := Calculation.reads_of_ofRecord? readBefore
    have inChain : uuidOf? r = some head.uuid :=
      readsBefore.uuid.trans (congrArg some (sameUuid.symm.trans same))
    have called := isCalled_of_orders orders there inChain
    refine ⟨cleared called, ?_⟩
    have le : versionOf r ≤ versionOf row := orders.ordered row mem r there reads.uuid inChain
      (Document.isLE_topmost? top there called)
    rw [readsBefore.version, reads.version] at le
    rw [sameVersion]
    exact Int.lt_add_one_of_le le

variable [Medium m] {offerPrefix : String}

/-- In a table of which all rows can be read, an edit that succeeds adds a row to the chain of the
    row with the id. The new row is the only current one of the chain, and its version is higher
    than all others. -/
theorem update_puts_on_top {id : Int} {input : CalculationInput} {caller : Caller}
    {saved : SavedVersion}
    (updated : (update offerPrefix id input caller).run.run o = (.ok saved, o'))
    (readable : ∀ row ∈ o.calculations, (Calculation.ofRecord? row).isSome = true)
    (orders : o.store.document.OrdersVersions saved.uuid) :
    (∃ edited, o.store.document.named? table id = some edited ∧
      uuidOf? edited = some saved.uuid) ∧
    ∃ others row, o'.calculations = others ++ [row] ∧ others.length = o.calculations.length ∧
      IsTopmost saved others row := by
  have ends : Ends (update offerPrefix id input caller) o (fun saved o' =>
      o.store.document.OrdersVersions saved.uuid →
      (∃ edited, o.store.document.named? table id = some edited ∧
        uuidOf? edited = some saved.uuid) ∧
      ∃ others row, o'.calculations = others ++ [row] ∧
        others.length = o.calculations.length ∧ IsTopmost saved others row)
      fun _ _ => True := by
    refine update_ends_of (fun _ _ _ => trivial) ?_
    intro edited row head kunde number o₁ named uuid top read _ made
    have same := made.spares
    refine (extendWith_ends head number kunde input caller).mono ?_ fun _ _ _ => trivial
    rintro saved o' ⟨⟨rfl, fits⟩, after⟩ orders
    -- The edited row is itself of the chain, so that the chain has a topmost one.
    have mem : edited ∈ o.calculations := List.mem_of_find?_eq_some named
    obtain ⟨first, isTop⟩ := Document.exists_topmost mem (isCalled_of_orders orders mem uuid)
    obtain rfl : first = row := by
      rw [isTop] at top
      exact top
    have rows : o₁.retired head.uuid = o.retired head.uuid := by
      rw [Office.retired, Office.retired, Office.calculations, same.1, same.2.2]
      rfl
    have row : rowAfter o₁ head number kunde input = rowAfter o head number kunde input := by
      rw [rowAfter, rowAfter, Office.versionRow, Office.versionRow, same.2.1, same.2.2]
    rw [rows, row] at after
    refine ⟨⟨edited, named, uuid⟩, _, _, after, List.length_map _, ?_⟩
    rw [same.2.1] at fits ⊢
    exact isTopmost_after orders readable isTop read number kunde input rfl fits
  exact ends.of_ok updated orders

/-- Two chains with versions and flags of other forms than the services write. -/
def mixedVersions : Document :=
  ⟨.ofList [("calculations", 2)], .ofList [("calculations",
    [.ofList [("id", .int 1), ("calculation_uuid", .text "a"), ("version", .text "4"),
      ("is_current", .int 1), ("offer_number", .text "A.4")],
     .ofList [("id", .int 2), ("is_current", .text "true"), ("offer_number", .text "B.1")]])]⟩

theorem ordersVersions_of_mixedVersions : mixedVersions.OrdersVersions "a" := by
  have views : ∀ row ∈ mixedVersions.table table, uuidOf? row = some "a" →
      Json.isMissing (row.get? "calculation_uuid") = false ∧ versionOf row = 4 := by
    decide +kernel
  refine ⟨fun row mem called => (views row mem called).1, ?_, fun row mem called => ?_⟩
  · intro row mem other mem' called called' _
    exact Int.le_of_eq ((views other mem' called').2.trans (views row mem called).2.symm)
  · rw [(views row mem called).2]
    decide

theorem update_puts_on_top_of_text_version :
    ∃ saved o', (update "FHD" 1 emptyCalculation somebody).run.run
        (inMemory.withStore mixedVersions inMemory.store.medium) = (.ok saved, o') ∧
      (saved.uuid == "a" && saved.version == 5) = true ∧
      ∃ others row, o'.calculations = others ++ [row] ∧ others.length = 2 ∧
        IsTopmost saved others row := by
  obtain ⟨saved, o', updated, fifth⟩ : ∃ saved o',
      (update "FHD" 1 emptyCalculation somebody).run.run
        (inMemory.withStore mixedVersions inMemory.store.medium) = (.ok saved, o') ∧
      (saved.uuid == "a" && saved.version == 5) = true := exists_of_ok (by decide +kernel)
  have readable : ∀ row ∈ mixedVersions.table table,
      (Calculation.ofRecord? row).isSome = true := by decide +kernel
  have chain : saved.uuid = "a" := eq_of_beq (Bool.and_eq_true_iff.mp fifth).1
  have top := (@update_puts_on_top Memory
    (inMemory.withStore mixedVersions inMemory.store.medium) o' _ "FHD" 1 emptyCalculation somebody
    saved updated readable (chain ▸ ordersVersions_of_mixedVersions)).2
  exact ⟨saved, o', updated, fifth, top⟩

/-- A version of a chain without an identifier. -/
def namelessVersion : Document :=
  ⟨.ofList [("calculations", 1)], .ofList [("calculations",
    [.ofList [("id", .int 1), ("version", .int 1), ("kunde", .text "Alt"),
      ("calculation_type", .text "garment"), ("is_current", .int 1),
      ("offer_number", .text "A.1")]])]⟩

/-- The chain of a row without an identifier has two current versions after an edit. -/
theorem nameless_version_stays_current :
    (∀ row ∈ namelessVersion.table table, (Calculation.ofRecord? row).isSome = true) ∧
    ((update "FHD" 1 emptyCalculation somebody).run.run
      (inMemory.withStore namelessVersion inMemory.store.medium)).1.isOk = true ∧
    ((update "FHD" 1 emptyCalculation somebody).run.run
      (inMemory.withStore namelessVersion inMemory.store.medium)).2.calculations.map
        (fun row => (uuidOf? row, flagOf row)) = [(some "", true), (some "", true)] := by
  decide +kernel

end Calculations

end OfferBook
