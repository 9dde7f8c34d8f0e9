import Mathlib.Data.List.Infix
import OfferBook.Proofs.Office.Enrolled
import OfferBook.Proofs.Office.Following
import OfferBook.Proofs.Office.Typing

/-! # Lists of what is left

The lists of calculations and of offers are one query each, which joins, filters and sorts. Of an
office in which no save has failed, they tell what was saved and has not been deleted since.

* `Listing` — how a row is read as an entry; `Calculation.listing`, `Offer.listing`.
* `Creators.remaining` — the query; `Creators.rows_remaining` — the rows that it finds.
* `Listing.entries` — the entries of a document; `Reads.list_run` — they are what the query tells.
* `Reads.ids_entries`, `Reads.entries_of_nobody`, `Reads.name_of_account` — their ids, and what
  users have to do with them.
* `Office.Lists` — a list of what is left; `Office.lists_are_what_is_left` — the lists after a run
  of requests.
-/

namespace OfferBook

open Calculations (isKept)

/-! ## Entries -/

/-- How the rows of a table are read as entries of a list, which name their creators. -/
structure Listing (α : Type) where
  ofRecord? : Record → Option α
  id : α → Int
  creator : α → Option String
  name : α → Option String
  unnamed : α → α

/-- Calculations as entries of a list. -/
def Calculation.listing : Listing Calculation where
  ofRecord? := ofRecord?
  id := id
  creator := createdBy
  name := createdByName
  unnamed := unnamed

/-- Offers as entries of a list. -/
def Offer.listing : Listing Offer where
  ofRecord? := ofRecord?
  id := id
  creator := createdBy
  name := createdByName
  unnamed := unnamed

/-- The accounts of a document. -/
def Document.accounts (doc : Document) : List Account :=
  (doc.table Accounts.table).filterMap Account.ofRecord?

namespace Creators

variable {t shortName : String} {doc : Document}

theorem rows_remaining (known : shortName = "c" ∨ shortName = "o")
    (consecutive : Consecutive (doc.table t))
    (short : (doc.table t).length < Double.exactLimit) (now : Instant) :
    (remaining t shortName).rows now [] doc =
      (((doc.table t).filter isKept).map ((remaining t shortName).shown doc)).reverse := by
  have asked : Asked shortName [name] := ⟨known, .inl rfl⟩
  have column (row : Record) : row.get? (Scope.field (some (join shortName))
      ⟨some shortName, "id"⟩) = row.get? "id" := by
    rcases known with rfl | rfl <;> rfl
  refine (rows_kept asked now).trans (OrderBy.sort_eq_reverse (List.pairwise_map.mpr ?_))
  refine (consecutive.rising.sublist List.filter_sublist).imp ?_
  rintro a b ⟨i, j, ha, hb, less, inside⟩
  rw [← get?_shown asked (by decide)] at ha hb
  exact OrderBy.precedes_eq_false_of_lt rfl ((column _).trans ha) ((column _).trans hb) less
    (by omega)

end Creators

namespace Listing

variable {α : Type} (r : Listing α)

/-- Entries are read field by field, and the name of the creator is one of the fields. -/
structure Reads (shortName : String) (fields : List String) : Prop where
  known : shortName = "c" ∨ shortName = "o"
  only : ReadsOnly fields r.ofRecord?
  stay : ∀ name ∈ fields, name ≠ "created_by_name" → Creators.Stays name
  id {row : Record} {e : α} : r.ofRecord? row = some e →
    (row.get? "id").bind Json.signed? = some (r.id e)
  creator {row : Record} {e : α} : r.ofRecord? row = some e →
    Calculations.textOf row "created_by" = r.creator e
  name {row : Record} {e : α} : r.ofRecord? row = some e →
    Fields.optional "created_by_name" Strict.text? row.entries = some (r.name e)
  unnamed {row : Record} {e : α} : r.ofRecord? row = some e →
    r.ofRecord? row.unnamed = some (r.unnamed e)
  nameless {e : α} : r.name e = none → r.unnamed e = e

/-- The entries for the rows of a table that are not deleted, the newest first. -/
def entries (doc : Document) (t shortName : String) : List α :=
  (((doc.table t).filter isKept).filterMap fun row =>
    r.ofRecord? ((Creators.remaining t shortName).shown doc row)).reverse

/-- All rows of a table can be read as they are shown. -/
def Readable (doc : Document) (t shortName : String) : Prop :=
  ∀ row ∈ doc.table t, ∃ e, r.ofRecord? ((Creators.remaining t shortName).shown doc row) = some e

variable {r} {doc : Document} {t shortName : String}

theorem mem_entries {e : α} (mem : e ∈ r.entries doc t shortName) :
    ∃ row ∈ doc.table t, r.ofRecord? ((Creators.remaining t shortName).shown doc row) = some e := by
  obtain ⟨row, kept, read⟩ := List.mem_filterMap.mp (List.mem_reverse.mp mem)
  exact ⟨row, (List.mem_filter.mp kept).1, read⟩

theorem map_some_entries (readable : r.Readable doc t shortName) :
    (r.entries doc t shortName).map some = (((doc.table t).filter isKept).map fun row =>
      r.ofRecord? ((Creators.remaining t shortName).shown doc row)).reverse := by
  rw [entries, List.map_reverse, List.map_filterMap_some_eq_filter_map_isSome]
  refine congrArg _ (List.filter_eq_self.mpr (List.forall_mem_map.mpr fun row mem => ?_))
  obtain ⟨e, read⟩ := readable row (List.mem_filter.mp mem).1
  exact Option.isSome_iff_exists.mpr ⟨e, read⟩

end Listing

theorem Calculation.listing_reads : listing.Reads "c" Calculation.fieldNames where
  known := .inl rfl
  only := readsOnly
  stay := Creators.calculation_stays
  id read := Fields.required_entries.symm.trans (reads_of_ofRecord? read).id
  creator read := (reads_of_ofRecord? read).createdBy
  name read := (reads_of_ofRecord? read).createdByName
  unnamed := ofRecord?_unnamed
  nameless := unnamed_of_nameless

theorem Offer.listing_reads : listing.Reads "o" Offer.fieldNames where
  known := .inr rfl
  only := readsOnly
  stay := Creators.offer_stays
  id read := Fields.required_entries.symm.trans (reads_of_ofRecord? read).id
  creator read := Option.some.inj (Fields.orDefault_always.symm.trans
    (reads_of_ofRecord? read).createdBy)
  name read := (reads_of_ofRecord? read).createdByName
  unnamed := ofRecord?_unnamed
  nameless := unnamed_of_nameless

/-! ## What the entries are -/

namespace Listing.Reads

variable {α : Type} {r : Listing α} {t shortName : String} {fields : List String} {doc : Document}
  (h : r.Reads shortName fields)

include h

theorem id_of_read {row : Record} {e : α} (read : r.ofRecord? row = some e) :
    row.get? "id" = some (.int (r.id e)) := by
  obtain ⟨v, stored, id⟩ := Option.bind_eq_some_iff.mp (h.id read)
  obtain ⟨rfl, -⟩ := Json.eq_int_of_signed? id
  exact stored

/-- All fields of an entry are those of the row, apart from the name of the creator. -/
theorem get?_shown {field : String} (stays : Creators.Stays field) (row : Record) :
    ((Creators.remaining t shortName).shown doc row).get? field = row.get? field :=
  Creators.get?_shown ⟨h.known, .inl rfl⟩ stays

/-- What is read without the name of the creator is what is read of the stored row. -/
theorem unnamed_of_read {row : Record} {e : α}
    (read : r.ofRecord? ((Creators.remaining t shortName).shown doc row) = some e) :
    r.ofRecord? row.unnamed = some (r.unnamed e) :=
  (Creators.unnamed_shown h.only ⟨h.known, .inl rfl⟩ h.stay row).symm.trans (h.unnamed read)

/-- The list that is asked for has these entries. -/
theorem list_run {m : Type} {o : Office m} (readable : r.Readable o.store.document t shortName)
    (consecutive : Consecutive (o.store.document.table t))
    (short : (o.store.document.table t).length < Double.exactLimit) :
    (storage (Office.selectAll r.ofRecord? (Creators.remaining t shortName)) :
      Service m (List α)).run.run o = (.ok (r.entries o.store.document t shortName), o) := by
  have read : ((Creators.remaining t shortName).rows o.now [] o.store.document).mapM r.ofRecord? =
      some (r.entries o.store.document t shortName) := by
    refine LineItems.mapM_of_map_eq ?_
    rw [Creators.rows_remaining h.known consecutive short, List.map_reverse, List.map_map,
      map_some_entries readable]
    rfl
  have ends : Office.Ends (storage (Office.selectAll r.ofRecord?
      (Creators.remaining t shortName)) : Service m (List α)) o
      (fun entries o' => entries = r.entries o.store.document t shortName ∧ o' = o)
      fun _ _ => False := by
    refine Office.ends_storage.mpr (Office.ends_selectAll.mpr ?_)
    rw [read]
    exact ⟨rfl, rfl⟩
  obtain ⟨_, _, run, rfl, rfl⟩ := ends.exists_ok
  exact run

/-- There is one entry for each id that is left, in turned order. -/
theorem ids_entries {deeds : List Deed} (readable : r.Readable doc t shortName)
    (tallies : Tallies deeds (doc.table t)) :
    (r.entries doc t shortName).map r.id = (Deed.live deeds).reverse := by
  have ids : ((r.entries doc t shortName).map some).map (Option.map fun e => Json.int (r.id e)) =
      (((doc.table t).filter isKept).map (·.get? "id")).reverse := by
    rw [map_some_entries readable, List.map_reverse, List.map_map]
    refine congrArg _ (List.map_congr_left fun row mem => ?_)
    obtain ⟨e, read⟩ := readable row (List.mem_filter.mp mem).1
    rw [Function.comp_apply, read, Option.map_some, ← h.id_of_read read,
      h.get?_shown (by decide)]
  rw [tallies.ids, ← List.map_reverse, List.map_map] at ids
  refine (List.map_inj_right (f := fun id : Int => some (Json.int id)) fun i j same => ?_).mp ?_
  · simpa [Json.int] using same
  · rw [← ids, List.map_map]
    rfl

/-! ## Whom the entries name -/

/-- The user whom an entry names is the one to whom its row is joined. -/
theorem name_of_read {row : Record} {e : α}
    (read : r.ofRecord? ((Creators.remaining t shortName).shown doc row) = some e)
    (nameless : row.get? "created_by_name" = none) :
    (∀ user, (Creators.join shortName).partner? (doc.table Accounts.table) row = some user →
      ∀ s, user.get? "name" = some (.text s) → r.name e = some s) ∧
    ((Creators.join shortName).partner? (doc.table Accounts.table) row = none →
      r.name e = none) := by
  have name := h.name read
  rw [Fields.optional, Fields.orDefault_entries, Creators.remaining,
    Creators.get?_name_shown ⟨h.known, .inl rfl⟩] at name
  refine ⟨fun user found s text => ?_, fun none => ?_⟩
  · rw [found] at name
    simp only [text, Option.getD_some] at name
    exact (Option.some.inj name).symm
  · rw [none] at name
    simp only [nameless] at name
    exact (Option.some.inj name).symm

/-- Where there are no users, the entries are the same, apart from the names. -/
theorem entries_of_nobody {doc' : Document} (readable : r.Readable doc t shortName)
    (readable' : r.Readable doc' t shortName) (same : doc'.table t = doc.table t)
    (nobody : doc'.table Accounts.table = [])
    (nameless : ∀ row ∈ doc.table t, row.get? "created_by_name" = none) :
    r.entries doc' t shortName = (r.entries doc t shortName).map r.unnamed := by
  rw [entries, entries, List.map_reverse, List.map_filterMap, same]
  refine congrArg _ (List.filterMap_congr fun row mem => ?_)
  have there := (List.mem_filter.mp mem).1
  obtain ⟨e, read⟩ := readable row there
  obtain ⟨e', read'⟩ := readable' row (same ▸ there)
  have alike := Option.some.inj ((h.unnamed_of_read read).symm.trans (h.unnamed_of_read read'))
  -- Nobody is joined to the row, and no name is stored in it.
  have alone : (Creators.join shortName).partner? (doc'.table Accounts.table) row = none := by
    rw [nobody]
    rfl
  have unnamed : r.name e' = none := (h.name_of_read read' (nameless row there)).2 alone
  rw [read, read', Option.map_some, alike, h.nameless unnamed]

/-- What is read of the creator is what stands in the row. -/
theorem creator_of_read {row : Record} {e : α}
    (read : r.ofRecord? ((Creators.remaining t shortName).shown doc row) = some e)
    (text : Field.MayBeText (row.get? "created_by")) (s : String) :
    r.creator e = some s ↔ row.get? "created_by" = some (.text s) := by
  rw [← h.creator read, Calculations.textOf, h.get?_shown (by decide)]
  rcases text with none | null | ⟨s', text⟩
  · simp [none]
  · simp [null, Lenient.text]
  · simp [text, Lenient.text]

section Accounts

variable (forms : ∀ user ∈ doc.table Accounts.table, Accounts.form.Admits user)
include forms

/-- An entry that was made by somebody with an account has the name of the account. -/
theorem name_of_account (unique : ∀ user ∈ doc.table Accounts.table,
      ∀ other ∈ doc.table Accounts.table, user.get? "id" = other.get? "id" → user = other)
    {row : Record} {e : α}
    (read : r.ofRecord? ((Creators.remaining t shortName).shown doc row) = some e)
    (text : Field.MayBeText (row.get? "created_by"))
    (nameless : row.get? "created_by_name" = none) {a : Account} (mem : a ∈ doc.accounts)
    (made : r.creator e = some a.id) : r.name e = some a.name := by
  obtain ⟨user, there, readUser⟩ := List.mem_filterMap.mp mem
  obtain ⟨a', read', id, name⟩ := Account.exists_ofRecord? (forms user there)
  obtain rfl : a' = a := Option.some.inj (read'.symm.trans readUser)
  have creator := (h.creator_of_read read text a'.id).mp made
  have joined : (Creators.join shortName).partner? (doc.table Accounts.table) row = some user := by
    have related : Json.sameKey (user.get? "id") (row.get? "created_by") = true := by
      rw [id, creator, Json.sameKey_text]
    obtain ⟨other, found⟩ := Option.isSome_iff_exists.mp (List.find?_isSome (p := fun user =>
      Json.sameKey (user.get? "id") (row.get? "created_by")) |>.mpr ⟨user, there, related⟩)
    -- The first user that is found has the same id, and is the same one for that reason.
    have same := List.find?_some found
    rw [creator, Json.sameKey_comm, Json.sameKey_text] at same
    obtain rfl : other = user :=
      unique other (List.mem_of_find?_eq_some found) user there (same.trans id.symm)
    exact (Creators.partner?_eq h.known _).trans found
  exact (h.name_of_read read nameless).1 user joined a'.name name

/-- An entry that was made by nobody with an account has no name. -/
theorem name_of_unknown {row : Record} {e : α}
    (read : r.ofRecord? ((Creators.remaining t shortName).shown doc row) = some e)
    (text : Field.MayBeText (row.get? "created_by"))
    (nameless : row.get? "created_by_name" = none)
    (unknown : ∀ a ∈ doc.accounts, r.creator e ≠ some a.id) : r.name e = none := by
  refine (h.name_of_read read nameless).2 ?_
  rw [Creators.partner?_eq h.known, List.find?_eq_none]
  intro user there related
  obtain ⟨a, readUser, id, -⟩ := Account.exists_ofRecord? (forms user there)
  rw [id, Json.sameKey_text] at related
  exact unknown a (List.mem_filterMap.mpr ⟨user, there, readUser⟩)
    ((h.creator_of_read read text a.id).mpr related)

end Accounts

end Listing.Reads

/-! ## Lists -/

theorem Tallies.rising {deeds : List Deed} {rows : List Record} (h : Tallies deeds rows)
    (consecutive : Consecutive rows) : (Deed.live deeds).Pairwise (· < ·) := by
  have ids : ((rows.filter isKept).map (·.get? "id")).Pairwise fun a b =>
      ∃ i j : Nat, a = some (.int i) ∧ b = some (.int j) ∧ i < j := by
    refine List.pairwise_map.mpr ((consecutive.rising.sublist List.filter_sublist).imp ?_)
    rintro a b ⟨i, j, ha, hb, less, -⟩
    exact ⟨i, j, ha, hb, less⟩
  rw [h.ids] at ids
  refine (List.pairwise_map.mp ids).imp ?_
  rintro i j ⟨k, l, hi, hj, less⟩
  obtain rfl : i = k := by simpa [Json.int] using hi
  obtain rfl : j = l := by simpa [Json.int] using hj
  exact Int.ofNat_lt.mpr less

namespace Office

variable {m α : Type} {o : Office m}

/-- The office with the same rows, apart from the users, of whom there are none. -/
def withoutUsers (o : Office m) : Office m :=
  o.withStore (o.store.document.setTable Accounts.table []) o.store.medium

/-- A list that has one entry for each of some ids, the last of them first, and names the creators
    who have accounts. -/
structure Lists (list : Service m (List α)) (r : Listing α) (ids : List Int) (o : Office m)
    (entries : List α) : Prop where
  told : list.run.run o = (.ok entries, o)
  ids : entries.map r.id = ids.reverse
  falling : (entries.map r.id).Pairwise (· > ·)
  /-- Users are looked up for the names of creators, and for nothing else. -/
  unjoined : list.run.run o.withoutUsers = (.ok (entries.map r.unnamed), o.withoutUsers)
  named : ∀ e ∈ entries, ∀ a ∈ o.store.document.accounts, r.creator e = some a.id →
    r.name e = some a.name
  unknown : ∀ e ∈ entries, (∀ a ∈ o.store.document.accounts, r.creator e ≠ some a.id) →
    r.name e = none

end Office

open Office in
/-- The entries for the rows of a table are such a list. -/
theorem Listing.Reads.lists {α m : Type} {o : Office m} {r : Listing α} {t shortName : String}
    {fields : List String} {deeds : List Deed} (h : r.Reads shortName fields)
    (other : t ≠ Accounts.table)
    (readable : r.Readable o.store.document t shortName)
    (readable' : r.Readable o.withoutUsers.store.document t shortName)
    (consecutive : Consecutive (o.store.document.table t))
    (short : (o.store.document.table t).length < Double.exactLimit)
    (tallies : Tallies deeds (o.store.document.table t))
    (nameless : ∀ row ∈ o.store.document.table t, row.get? "created_by_name" = none)
    (forms : ∀ user ∈ o.store.document.table Accounts.table, Accounts.form.Admits user)
    (enrolled : o.Enrolled) :
    Lists (storage (selectAll r.ofRecord? (Creators.remaining t shortName))) r (Deed.live deeds) o
      (r.entries o.store.document t shortName) := by
  have same : o.withoutUsers.store.document.table t = o.store.document.table t :=
    (Document.table_setTable ..).trans (if_neg other)
  have nobody : o.withoutUsers.store.document.table Accounts.table = [] :=
    (Document.table_setTable ..).trans (if_pos rfl)
  have ids := h.ids_entries readable tallies
  refine ⟨h.list_run readable consecutive short, ids, ?_, ?_, ?_, ?_⟩
  · rw [ids]
    exact List.pairwise_reverse.mpr (tallies.rising consecutive)
  · rw [← h.entries_of_nobody readable readable' same nobody nameless]
    exact h.list_run readable' (same ▸ consecutive) (same ▸ short)
  · intro e mem a account made
    obtain ⟨row, there, read⟩ := Listing.mem_entries mem
    exact h.name_of_account forms (fun user mem other mem' => enrolled.eq_of_id mem mem') read
      (tallies.creators row there) (nameless row there) account made
  · intro e mem unknown
    obtain ⟨row, there, read⟩ := Listing.mem_entries mem
    exact h.name_of_unknown forms read (tallies.creators row there) (nameless row there) unknown

namespace Office

variable {m : Type} {o : Office m} {n : Nat} {cs os : List Deed}

/-- The calculations can be read as they are shown, whoever the users are. -/
theorem Follows.calculations_readable (h : Follows n cs os o) (short : n < Double.exactLimit)
    {doc : Document} (rows : doc.table Calculations.table = o.calculations)
    (lastId : doc.lastId Calculations.table = o.store.document.lastId Calculations.table)
    (users : ∀ user ∈ doc.table Accounts.table, Field.MayBeText (user.get? "name")) :
    Calculation.listing.Readable doc Calculations.table "c" := by
  have regular := h.chained.sound.calculations.of_eq rows lastId
  have few : (doc.table Calculations.table).length ≤ n := rows ▸ h.chained.few
  intro row mem
  obtain ⟨id, hid, fits⟩ := regular.consecutive.exists_id
    (Double.fitsSigned_of_le (Nat.le_trans few short.le)) mem
  exact Creators.exists_calculation regular users ⟨.inl rfl, .inl rfl⟩ mem hid fits

theorem Follows.offers_readable (h : Follows n cs os o) (short : n < Double.exactLimit)
    {doc : Document} (rows : doc.table Offers.table = o.offers)
    (lastId : doc.lastId Offers.table = o.store.document.lastId Offers.table)
    (sources : ∀ row ∈ o.offers, Field.MayBeSigned (row.get? "source_calculation_id"))
    (users : ∀ user ∈ doc.table Accounts.table, Field.MayBeText (user.get? "name")) :
    Offer.listing.Readable doc Offers.table "o" := by
  have regular := h.chained.sound.offers.of_eq rows lastId
  have few : (doc.table Offers.table).length ≤ n := rows ▸ h.few
  intro row mem
  obtain ⟨id, hid, fits⟩ := regular.consecutive.exists_id
    (Double.fitsSigned_of_le (Nat.le_trans few short.le)) mem
  exact Creators.exists_offer regular users ⟨.inr rfl, .inl rfl⟩ mem hid fits
    (sources row (rows ▸ mem))

/-- The current calculations are those that were saved last. -/
theorem Follows.isCurrent_iff (h : Follows n cs os o) {c : Calculation}
    (mem : c ∈ Calculation.listing.entries o.store.document Calculations.table "c") :
    c.isCurrent = true ↔ Deed.newest? c.uuid cs = some c.id := by
  obtain ⟨row, there, read⟩ := Listing.mem_entries mem
  obtain ⟨id, uuid, current, own, chain, flag, last⟩ := h.versions row there
  have unnamed := Calculation.listing_reads.unnamed_of_read read
  obtain ⟨named, flagged⟩ := Calculation.isCurrentOf_of_unnamed unnamed
  have sameId : id = c.id := by
    have stored := Calculation.listing_reads.id_of_read unnamed
    rw [Record.get?_unnamed (by decide), own] at stored
    exact Number.int.inj (Json.number.inj (Option.some.inj stored))
  have sameUuid : uuid = c.uuid := by
    rw [Calculations.uuidOf?, Fields.orDefault_text chain] at named
    exact Option.some.inj named
  have sameFlag : current = c.isCurrent := by
    rw [Calculations.flagOf, flag] at flagged
    exact flagged
  rw [← sameId, ← sameUuid, ← sameFlag]
  exact last

section Lists

variable (h : Follows n cs os o) (short : n < Double.exactLimit) (enrolled : o.Enrolled)
  (tidy : o.store.document.Tidy True)
include h short enrolled tidy

theorem Follows.lists_calculations :
    Lists Calculations.list Calculation.listing (Deed.live cs) o
      (Calculation.listing.entries o.store.document Calculations.table "c") := by
  have other : Calculations.table ≠ Accounts.table := by decide
  have regular := h.chained.sound.calculations
  refine Calculation.listing_reads.lists other ?_ ?_ regular.consecutive
    (Nat.lt_of_le_of_lt h.chained.few short) h.calculations (fun row mem => ?_) tidy.accounts
    enrolled
  · exact h.calculations_readable short rfl rfl tidy.mayBeText_name
  · exact h.calculations_readable short ((Document.table_setTable ..).trans (if_neg other)) rfl
      (by simp [withoutUsers, withStore])
  · exact regular.admits row mem ("created_by_name", Field.IsAbsent) (by simp [Calculations.form])

theorem Follows.lists_offers :
    Lists Offers.list Offer.listing (Deed.live os) o
      (Offer.listing.entries o.store.document Offers.table "o") := by
  have other : Offers.table ≠ Accounts.table := by decide
  have regular := h.chained.sound.offers
  have sources : ∀ row ∈ o.offers, Field.MayBeSigned (row.get? "source_calculation_id") :=
    fun row mem => tidy.source mem trivial
  refine Offer.listing_reads.lists other ?_ ?_ regular.consecutive
    (Nat.lt_of_le_of_lt h.few short) h.offers (fun row mem => ?_) tidy.accounts enrolled
  · exact h.offers_readable short rfl rfl sources tidy.mayBeText_name
  · exact h.offers_readable short ((Document.table_setTable ..).trans (if_neg other)) rfl sources
      (by simp [withoutUsers, withStore])
  · exact regular.admits row mem ("created_by_name", Field.IsAbsent) (by simp [Offers.form])

end Lists

variable [Medium m] {offerPrefix : String} {P : m → Prop}

/-- Whatever is asked of a new office, as long as no save fails, the lists have one entry for each
    id that was saved and has not been deleted since, the newest first. A calculation is shown as
    current where it was saved last in its chain. The names are those of the creators, and nothing
    else depends on users. -/
theorem lists_are_what_is_left (vouches : Medium.Vouches P) (h : o.IsNew) (rs : List Request)
    (short : rs.length < Double.exactLimit) (words : ∀ r ∈ rs, r.call.InWords)
    (fine : ∀ earlier, earlier <+: rs → P (serveAll offerPrefix o earlier).store.medium) :
    ∃ calculations offers,
      Lists Calculations.list Calculation.listing
        (Deed.live (deeds offerPrefix (Call.onCalculations? offerPrefix) o rs))
        (serveAll offerPrefix o rs) calculations ∧
      (∀ c ∈ calculations, c.isCurrent = true ↔
        Deed.newest? c.uuid (deeds offerPrefix (Call.onCalculations? offerPrefix) o rs) =
          some c.id) ∧
      Lists Offers.list Offer.listing
        (Deed.live (deeds offerPrefix (Call.onOffers? offerPrefix) o rs))
        (serveAll offerPrefix o rs) offers := by
  have follows := h.follows.serveAll vouches rs (by omega) words fine
  rw [Nat.zero_add, List.nil_append, List.nil_append] at follows
  have enrolled : (serveAll offerPrefix o rs).Enrolled := h.enrolled.serveAll h.sound rs
  have tidy : (serveAll offerPrefix o rs).store.document.Tidy True :=
    serveAll_tidy h.sound (h.isEmpty.tidy True) rs fun _ => words
  exact ⟨_, _, follows.lists_calculations short enrolled tidy, fun c => follows.isCurrent_iff,
    follows.lists_offers short enrolled tidy⟩

/-- A calculation, an edit, the deletion of the first version, and an offer. -/
def editAndDeletion : List Request :=
  dayBefore ++
    [⟨3600000, .updateCalculation 1 emptyCalculation somebody⟩,
     ⟨7200000, .deleteCalculation 1 somebody⟩,
     ⟨86400000, .createOffer emptyOffer somebody⟩]

/-- The second version is left, which is current, and the offer. -/
theorem lists_after_edit_and_deletion :
    ∃ (calculations : List Calculation) (offers : List Offer),
      Calculations.list.run.run
          (serveAll "FHD" (opened (⟨inMemory.store.medium, true⟩ : Watched Memory) 0)
            editAndDeletion) =
        (.ok calculations, serveAll "FHD" (opened ⟨inMemory.store.medium, true⟩ 0)
          editAndDeletion) ∧
      Offers.list.run.run
          (serveAll "FHD" (opened (⟨inMemory.store.medium, true⟩ : Watched Memory) 0)
            editAndDeletion) =
        (.ok offers, serveAll "FHD" (opened ⟨inMemory.store.medium, true⟩ 0) editAndDeletion) ∧
      calculations.map (·.id) = [2] ∧ offers.map (·.id) = [1] ∧
      ∀ c ∈ calculations, c.isCurrent = true ↔ c.uuid = "" := by
  have done : deeds "FHD" (Call.onCalculations? "FHD")
        (opened (⟨inMemory.store.medium, true⟩ : Watched Memory) 0) editAndDeletion =
          [.saves 1 "", .saves 2 "", .deletes 1] ∧
      deeds "FHD" (Call.onOffers? "FHD")
        (opened (⟨inMemory.store.medium, true⟩ : Watched Memory) 0) editAndDeletion =
          [.saves 1 "0"] ∧
      editAndDeletion.inits.all (fun earlier => (serveAll "FHD"
        (opened (⟨inMemory.store.medium, true⟩ : Watched Memory) 0)
          earlier).store.medium.fine) = true := by
    decide +kernel
  obtain ⟨onCalculations, onOffers, fine⟩ := done
  have words : ∀ r ∈ editAndDeletion, r.call.InWords := by
    simp [editAndDeletion, dayBefore, Call.InWords, LineItems.GivenFit, calculationOf,
      emptyCalculation, emptyOffer, fitsSigned_iff]
  obtain ⟨calculations, offers, saved, current, offered⟩ :=
    @lists_are_what_is_left (Watched Memory) _ _ "FHD" _ Watched.vouches
      (isNew_opened ⟨inMemory.store.medium, true⟩ 0) editAndDeletion (by decide) words
      fun earlier part => List.all_eq_true.mp fine earlier ((List.mem_inits ..).mpr part)
  rw [onCalculations] at saved current
  rw [onOffers] at offered
  refine ⟨calculations, offers, saved.told, offered.told, saved.ids, offered.ids,
    fun c mem => ?_⟩
  have second : c.id = 2 := by
    have among : c.id ∈ calculations.map Calculation.id := List.mem_map_of_mem mem
    rwa [show calculations.map Calculation.id = [2] from saved.ids, List.mem_singleton] at among
  rw [current c mem, second]
  refine Iff.trans ?_ eq_comm
  simp [Deed.newest?]

end Office

end OfferBook
