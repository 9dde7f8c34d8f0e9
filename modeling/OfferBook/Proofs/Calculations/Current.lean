import OfferBook.Proofs.Calculations.Legacy
import OfferBook.Proofs.Model.Naming

/-! # Which version is current

The list reads identifiers and flags leniently, a lookup compares what is stored with what it asks
for. The two can differ: a flag stored as the text `true` is read as set and is not equal to one.

* `Json.isPlainFlag` — flags of which both say the same.
* `Calculations.rows_remaining`, `Calculations.exists_entry` — what the list contains.
* `Calculations.list_agrees_with_lookup` — where flags are plain, a lookup finds an entry of the
  list that is current, or there is none.
* `Calculations.flag_as_text_is_overlooked` — elsewhere the list may show one that is not found.
-/

namespace OfferBook

open Office

/-! ## Flags -/

namespace Number

/-- A number that equals one is not zero. -/
theorem not_zero_of_same_one {n : Number} (h : n.same (.int 1) = true) :
    Double.same n.toDouble .zero = false := by
  have apart : (Double.ofInt 1).position ≠ Double.zero.position := by decide +kernel
  have position : n.toDouble.position = (Double.ofInt 1).position := by
    cases n with
    | int k =>
      unfold same at h
      cases small : (Number.int k).signed? with
      | none => simpa [small, Double.same_iff, toDouble] using h
      | some x =>
        have one : (Number.int 1).signed? = some 1 := by decide
        have given : x = k := by
          unfold signed? at small
          split at small <;> simp_all
        have : k = 1 := by simpa [small, one, given] using h
        rw [this]
        rfl
    | double d => simpa [same, signed?, Double.same_iff, toDouble] using h
  rw [← Bool.not_eq_true, Double.same_iff, position]
  exact apart

end Number

namespace Json

/-- A flag that is zero or one, the text `1`, or nothing that anybody takes for one. -/
def isPlainFlag : Option Json → Bool
  | some (.number n) => n.same (.int 1) || Double.same n.toDouble .zero
  | some (.text s) =>
    s == "1" || !(textIsNumber s (.int 1) || Text.equalsIgnoringCase s "true")
  | _ => true

/-- Plain flags equal one where they are read as set. -/
theorem matchesValue_of_isPlainFlag {v : Option Json} (h : isPlainFlag v = true) :
    matchesValue v (.int 1) = (v.map Lenient.flag).getD false := by
  match v with
  | none => rfl
  | some .null => rfl
  | some (.bool b) => cases b <;> decide +kernel
  | some (.number n) =>
    change n.same (.int 1) = !Double.same n.toDouble .zero
    cases one : n.same (.int 1) with
    | true => rw [Number.not_zero_of_same_one one, Bool.not_false]
    | false =>
      have zero : Double.same n.toDouble .zero = true := by simpa [isPlainFlag, one] using h
      rw [zero, Bool.not_true]
  | some (.text s) =>
    change textIsNumber s (.int 1) = (s == "1" || Text.equalsIgnoringCase s "true")
    by_cases one : s = "1"
    · subst one
      decide +kernel
    · have neither : textIsNumber s (.int 1) = false ∧
          Text.equalsIgnoringCase s "true" = false := by simpa [isPlainFlag, one] using h
      simp [neither, one]
  | some (.array _) => rfl
  | some (.object _) => rfl

end Json

/-! ## Entries of the list -/

namespace Calculation

/-- Whether a calculation is the current version of a chain. -/
def IsCurrentOf (uuid : String) (c : Calculation) : Prop := c.uuid = uuid ∧ c.isCurrent = true

/-- An entry of the list and what is told of its row in detail. The list names the creator, and a
    row without a number gets one when it is told. -/
structure Details (e c : Calculation) : Prop where
  same : { c.unnamed with offerNumber := e.offerNumber } = e.unnamed
  numbered : (e.offerNumber.getD "").isEmpty = false → c.offerNumber = e.offerNumber

variable {row : Record} {c e told : Calculation}

theorem Details.of_told (same : c.unnamed = e.unnamed) (h : Calculations.Told c told) :
    Details e told := by
  have number : e.offerNumber = c.offerNumber := (congrArg offerNumber same).symm
  refine ⟨?_, fun numbered => ?_⟩
  · rw [number, ← same, ← h.same]
    rfl
  · rw [number] at numbered ⊢
    exact congrArg offerNumber (h.numbered numbered)

/-- What a row is read as without the name of its creator says which version it is. -/
theorem isCurrentOf_of_unnamed (read : Calculation.ofRecord? row.unnamed = some e.unnamed) :
    Calculations.uuidOf? row = some e.uuid ∧ Calculations.flagOf row = e.isCurrent := by
  have reads := reads_of_ofRecord? read
  have flag : row.unnamed.get? "is_current" = row.get? "is_current" :=
    Record.get?_unnamed (by decide)
  have own : row.unnamed.get? "calculation_uuid" = row.get? "calculation_uuid" :=
    Record.get?_unnamed (by decide)
  refine ⟨(Calculations.uuidOf?_congr own).symm.trans reads.uuid, ?_⟩
  rw [Calculations.flagOf, ← flag]
  exact reads.isCurrent

end Calculation

namespace Calculations

/-- Whether a row is not deleted. -/
def isKept (row : Record) : Bool := Json.isMissing (row.get? "deleted_at")

/-- A row that a lookup compares as the list reads it. -/
structure Plain (uuid : String) (row : Record) : Prop where
  flag : Json.isPlainFlag (row.get? "is_current") = true
  named : uuid = "" → Json.isMissing (row.get? "calculation_uuid") = false

variable {m : Type} {o o' : Office m} {doc : Document} {row : Record}
  {entries : List Calculation} {uuid : String}

theorem asked : Creators.Asked "c" [Creators.name] := ⟨.inl rfl, .inl rfl⟩

theorem rows_remaining (now : Instant) : (Creators.remaining table "c").rows now [] doc =
    OrderBy.sort (some (Creators.join "c")) ⟨⟨some "c", "id"⟩, true⟩
      (((doc.table table).filter isKept).map ((Creators.remaining table "c").shown doc)) :=
  Creators.rows_kept asked now

/-- The rows that are not deleted are read, each with the name of its creator. -/
theorem list_reads (told : (list : Service m (List Calculation)).run.run o = (.ok entries, o')) :
    ((Creators.remaining table "c").rows o.now [] o.store.document).mapM Calculation.ofRecord? =
      some entries := by
  have ends : Ends (list : Service m (List Calculation)) o
      (fun entries _ => ((Creators.remaining table "c").rows o.now [] o.store.document).mapM
        Calculation.ofRecord? = some entries) fun _ _ => True := by
    refine ends_storage.mpr (ends_selectAll.mpr ?_)
    split
    · next read => exact read
    · trivial
  exact ends.of_ok told

/-- Each row that is not deleted has an entry, -/
theorem exists_entry (told : (list : Service m (List Calculation)).run.run o = (.ok entries, o'))
    (mem : row ∈ o.calculations) (kept : isKept row = true) :
    ∃ e ∈ entries, Calculation.ofRecord? row.unnamed = some e.unnamed := by
  have there : (Creators.remaining table "c").shown o.store.document row ∈
      (Creators.remaining table "c").rows o.now [] o.store.document := by
    rw [rows_remaining, OrderBy.mem_sort]
    exact List.mem_map_of_mem (List.mem_filter.mpr ⟨mem, kept⟩)
  have entries := LineItems.map_eq_of_mapM (list_reads told) ▸ List.mem_map_of_mem there
  obtain ⟨e, among, read⟩ := List.mem_map.mp entries
  refine ⟨e, among, ?_⟩
  rw [← Creators.unnamed_shown Calculation.readsOnly asked Creators.calculation_stays row]
  exact Calculation.ofRecord?_unnamed read.symm

/-- and there are no other entries. -/
theorem exists_row_of_entry
    (told : (list : Service m (List Calculation)).run.run o = (.ok entries, o'))
    {e : Calculation} (among : e ∈ entries) :
    ∃ row ∈ o.calculations, isKept row = true ∧
      Calculation.ofRecord? row.unnamed = some e.unnamed := by
  have shown := (LineItems.map_eq_of_mapM (list_reads told)).symm ▸ List.mem_map_of_mem among
  obtain ⟨shown, there, read⟩ := List.mem_map.mp shown
  rw [rows_remaining, OrderBy.mem_sort] at there
  obtain ⟨row, mem, rfl⟩ := List.mem_map.mp there
  obtain ⟨mem, kept⟩ := List.mem_filter.mp mem
  refine ⟨row, mem, kept, ?_⟩
  rw [← Creators.unnamed_shown Calculation.readsOnly asked Creators.calculation_stays row]
  exact Calculation.ofRecord?_unnamed read

/-- A plain row is found where its entry is the current one. -/
theorem isLookedUp_iff {e : Calculation} (plain : Plain uuid row) (kept : isKept row = true)
    (read : Calculation.ofRecord? row.unnamed = some e.unnamed) :
    isLookedUp uuid row = true ↔ e.IsCurrentOf uuid := by
  obtain ⟨named, flag⟩ := Calculation.isCurrentOf_of_unnamed read
  have flagged : Json.matchesValue (row.get? "is_current") (.int 1) = e.isCurrent :=
    (Json.matchesValue_of_isPlainFlag plain.flag).trans flag
  have called : isCalled uuid row = true ↔ e.uuid = uuid := by
    rw [isCalled_iff named]
    refine and_iff_left_of_imp fun same => ?_
    rcases uuidOf?_eq_some named with found | ⟨empty, -⟩
    · rw [found]
      rfl
    · exact plain.named (same ▸ empty)
  rw [isLookedUp, flagged, ← isKept, kept, Bool.and_true, Bool.and_eq_true, called]
  rfl

/-! ## Lookups -/

/-- How a lookup answers by a list. -/
inductive AnswersBy (entries : List Calculation) (uuid : String) :
    Except ServiceError CalculationDetail → Prop
  /-- An entry that is current is told. -/
  | found {e : Calculation} {told : CalculationDetail} (among : e ∈ entries)
      (current : e.IsCurrentOf uuid) (details : e.Details told.calculation) :
      AnswersBy entries uuid (.ok told)
  /-- Such an entry is found, and its row, its sheets or the storage fails. -/
  | failed {e : Calculation} {cause : StorageError} (among : e ∈ entries)
      (current : e.IsCurrentOf uuid) : AnswersBy entries uuid (.error (.internal cause))
  /-- There is no such entry. -/
  | absent (none : ∀ e ∈ entries, ¬ e.IsCurrentOf uuid) :
      AnswersBy entries uuid (.error (notFound uuid))

variable [Medium m] {offerPrefix : String}

/-- Nothing but the sheets can fail where the row that is found has a number. -/
theorem latest_of_numbered {c : Calculation} {sheets : Sheets}
    (looked : o.store.document.lookup? uuid = some row)
    (read : Calculation.ofRecord? row = some c)
    (numbered : (c.offerNumber.getD "").isEmpty = false)
    (found : o.store.document.sheets? (.calculation c.id) c.kind = some sheets) :
    (latest offerPrefix uuid).run.run o = (.ok ⟨c, sheets⟩, o) := by
  have kept : (backfill offerPrefix c : Work m Calculation) = pure c := by
    simp [backfill, numbered]
  have ends : Ends (latest offerPrefix uuid) o (fun told o' => told = ⟨c, sheets⟩ ∧ o' = o)
      fun _ _ => False := by
    refine latest_ends_of (fun absent => by simp [looked] at absent) fun other same => ?_
    obtain rfl : row = other := Option.some.inj (looked.symm.trans same)
    simp only [read, detail, kept, ends_storage, ends_bind, ends_pure, LineItems.ends_sheets,
      found, and_self]
  obtain ⟨told, o', run, rfl, rfl⟩ := ends.exists_ok
  exact run

/-- A lookup finds a row where the list contains a current entry of the chain, and the row is the
    one of such an entry. It is told where it has a number and its sheets can be read. -/
theorem list_agrees_with_lookup
    (told : (list : Service m (List Calculation)).run.run o = (.ok entries, o'))
    (plain : ∀ row ∈ o.calculations, isKept row = true → Plain uuid row) :
    AnswersBy entries uuid ((latest offerPrefix uuid).run.run o).1 ∧
      (∀ row, o.store.document.lookup? uuid = some row → ∃ e ∈ entries, e.IsCurrentOf uuid ∧
        Calculation.ofRecord? row.unnamed = some e.unnamed) ∧
      ∀ row c sheets, o.store.document.lookup? uuid = some row →
        Calculation.ofRecord? row = some c → (c.offerNumber.getD "").isEmpty = false →
        o.store.document.sheets? (.calculation c.id) c.kind = some sheets →
        (latest offerPrefix uuid).run.run o = (.ok ⟨c, sheets⟩, o) := by
  have found (row : Record) (looked : o.store.document.lookup? uuid = some row) :
      ∃ e ∈ entries, e.IsCurrentOf uuid ∧
        Calculation.ofRecord? row.unnamed = some e.unnamed := by
    have mem : row ∈ o.calculations := List.mem_of_find?_eq_some looked
    have passed : isLookedUp uuid row = true := List.find?_some looked
    have kept : isKept row = true := (Bool.and_eq_true_iff.mp passed).2
    obtain ⟨e, among, read⟩ := exists_entry told mem kept
    exact ⟨e, among, (isLookedUp_iff (plain row mem kept) kept read).mp passed, read⟩
  refine ⟨?_, found, fun _ _ _ => latest_of_numbered⟩
  have ends : Ends (latest offerPrefix uuid) o (fun told _ => AnswersBy entries uuid (.ok told))
      fun e _ => AnswersBy entries uuid (.error e) := by
    refine latest_ends_of (fun absent => .absent fun e among current => ?_) fun row looked => ?_
    · -- The row of a current entry would have been found.
      obtain ⟨row, mem, kept, read⟩ := exists_row_of_entry told among
      have passed := (isLookedUp_iff (plain row mem kept) kept read).mpr current
      exact absurd passed (List.find?_eq_none.mp absent row mem)
    · obtain ⟨e, among, current, read⟩ := found row looked
      split
      · next c readStored =>
        have same : c.unnamed = e.unnamed :=
          Option.some.inj ((Calculation.ofRecord?_unnamed readStored).symm.trans read)
        refine ends_storage.mpr ((detail_ends c).mono ?_ ?_)
        · exact fun told o' h => .found among current (.of_told same h.1.1)
        · exact fun _ _ _ => .failed among current
      · exact .failed among current
  rcases run : (latest offerPrefix uuid).run.run o with ⟨e | told, o'⟩
  · exact ends.of_error run
  · exact ends.of_ok run

/-- Two versions with flags of other forms than the services write, the first of them deleted. -/
def plainFlags : Document :=
  ⟨.ofList [("calculations", 2)], .ofList [("calculations",
    [.ofList [("id", .int 1), ("calculation_uuid", .text "a"), ("is_current", .bool true),
      ("deleted_at", .text "2024-01-01T00:00:00.000Z"), ("offer_number", .text "A.1")],
     .ofList [("id", .int 2), ("calculation_uuid", .text "a"), ("version", .text "2"),
      ("is_current", .text "1"), ("offer_number", .text "A.2")]])]⟩

theorem list_agrees_with_lookup_of_plain_flags :
    ∃ entries o', (list : Service Memory (List Calculation)).run.run
        (inMemory.withStore plainFlags inMemory.store.medium) = (.ok entries, o') ∧
      entries.any (fun e => e.id == 2 && e.uuid == "a" && e.isCurrent) = true ∧
      AnswersBy entries "a" ((latest "FHD" "a").run.run
        (inMemory.withStore plainFlags inMemory.store.medium)).1 := by
  obtain ⟨entries, o', told, second⟩ : ∃ entries o',
      (list : Service Memory (List Calculation)).run.run
        (inMemory.withStore plainFlags inMemory.store.medium) = (.ok entries, o') ∧
      entries.any (fun e => e.id == 2 && e.uuid == "a" && e.isCurrent) = true :=
    exists_of_ok (by decide +kernel)
  have flags : ∀ row ∈ plainFlags.table table,
      Json.isPlainFlag (row.get? "is_current") = true := by decide +kernel
  have agrees := @list_agrees_with_lookup Memory
    (inMemory.withStore plainFlags inMemory.store.medium) o' entries "a" _ "FHD" told
    fun row mem _ => ⟨flags row mem, fun empty => absurd empty (by decide)⟩
  exact ⟨entries, o', told, second, agrees.1⟩

/-- A version of which the flag is stored as a text. -/
def flagAsText : Document :=
  ⟨.ofList [("calculations", 1)], .ofList [("calculations",
    [.ofList [("id", .int 1), ("calculation_uuid", .text "a"), ("version", .int 1),
      ("kunde", .text "Alt"), ("calculation_type", .text "garment"),
      ("is_current", .text "true"), ("offer_number", .text "A.1")]])]⟩

/-- The list shows a current version that is not found. -/
theorem flag_as_text_is_overlooked :
    (∃ entries o', (list : Service Memory (List Calculation)).run.run
        (inMemory.withStore flagAsText inMemory.store.medium) = (.ok entries, o') ∧
      entries.any (fun e => e.uuid == "a" && e.isCurrent) = true) ∧
    ((latest "FHD" "a").run.run (inMemory.withStore flagAsText inMemory.store.medium)).1 =
      .error (notFound "a") := by
  exact ⟨exists_of_ok (by decide +kernel), by decide +kernel⟩

end Calculations

end OfferBook
