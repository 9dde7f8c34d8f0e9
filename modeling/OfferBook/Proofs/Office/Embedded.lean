import OfferBook.Proofs.Log.Paging
import OfferBook.Proofs.Model.Embedding
import OfferBook.Proofs.Office.Exported
import OfferBook.Proofs.Office.Listing

/-! # Free-form values come back

The details of an activity and the snapshot of an offer are printed into their rows. Whenever the
rows are read, also by an office over another medium, the same values are told.

* `Log.ShowsDetails`, `Offers.ShowsSnapshot` — what is told of an entry and of an offer.
* `Log.shows_of_row`, `Offers.shows_of_row` — it is what their rows hold.
* `Log.record_adds`, `Offers.create_adds` — the rows that are stored.
* `Office.free_form_values_come_back` — what is told at any time after.
-/

namespace OfferBook

open Office

/-- Rows with the ids one, two and so on are told apart by them. -/
theorem Consecutive.eq_of_id {rows : List Record} (h : Consecutive rows) {k : Nat}
    {row other : Record} (hk : rows[k]? = some row) (mem : other ∈ rows)
    (id : other.get? "id" = some (.int (k + 1))) : other = row := by
  obtain ⟨j, hj⟩ := List.getElem?_of_mem mem
  have same := (h j other hj).symm.trans id
  simp only [Json.int, Option.some.injEq, Json.number.injEq, Number.int.injEq] at same
  obtain rfl : j = k := by omega
  exact Option.some.inj (hj.symm.trans hk)

/-! ## Activities -/

namespace Log

variable {m : Type} {o : Office m}

/-- The entry with an id has some details in the list of all entries, where it has a place. It is
    on each page that reaches to this place, too. -/
def ShowsDetails (o : Office m) (id : Int) (details : Option Json) : Prop :=
  ∃ entries, (Log.all : Work m _).run.run o = (.ok entries, o) ∧
    (∀ e ∈ entries, e.id = id → e.details = details) ∧
    ∃ k e, entries[k]? = some e ∧ e.id = id ∧ ∀ limit offset, offset ≤ k → k < offset + limit →
      ∃ page, (Log.page limit offset : Work m _).run.run o = (.ok page, o) ∧ e ∈ page.entries

theorem Tells.exists_row {rows : List Record} {entries : List ActivityEntry}
    (h : Log.Tells rows entries) {e : ActivityEntry} (mem : e ∈ entries) :
    ∃ row ∈ rows, ActivityEntry.ofRecord? row = some e :=
  List.mem_map.mp (h ▸ List.mem_map_of_mem mem)

theorem Tells.getElem? {rows : List Record} {entries : List ActivityEntry}
    (h : Log.Tells rows entries) {k : Nat} {row : Record} (hk : rows[k]? = some row) :
    ∃ e, entries[k]? = some e ∧ ActivityEntry.ofRecord? row = some e := by
  have told := congrArg (·[k]?) h
  simp only [List.getElem?_map, hk, Option.map_some] at told
  obtain ⟨e, among, same⟩ := Option.map_eq_some_iff.mp told.symm
  exact ⟨e, among, same.symm⟩

theorem shows_of_row (h : o.store.document.WellTyped) {k : Nat} {row : Record}
    (hk : o.log[k]? = some row) :
    ShowsDetails o (k + 1) (Lenient.embedded ((row.get? "details").getD .null)) := by
  have fits : fitsSigned o.log.length = true := by
    have last := h.fits Log.table
    rwa [h.tidy.log.lastId] at last
  obtain ⟨entries, read⟩ := Log.all_succeeds h.tidy fits
  have told := (Log.all_ends.of_ok read).1
  refine ⟨entries, read, fun e mem same => ?_, ?_⟩
  · obtain ⟨other, among, readOther⟩ := told.exists_row mem
    obtain ⟨id, details⟩ := ActivityEntry.details_of_ofRecord? readOther
    rw [details, h.tidy.log.consecutive.eq_of_id hk (OrderBy.mem_sort.mp among) (same ▸ id)]
  · obtain ⟨place, hplace⟩ := List.getElem?_of_mem
      (show row ∈ newest o.log from OrderBy.mem_sort.mpr (List.mem_of_getElem? hk))
    obtain ⟨e, among, readRow⟩ := told.getElem? hplace
    obtain ⟨e', read', id⟩ := Log.entry_of_row h.tidy fits hk
    obtain rfl : e = e' := Option.some.inj (readRow.symm.trans read')
    refine ⟨place, e, among, id, fun limit offset low high => ?_⟩
    obtain ⟨page, readPage⟩ := Log.page_succeeds h.tidy fits limit offset
    have onPage : (((newest o.log).drop offset).take limit)[place - offset]? = some row := by
      rw [List.getElem?_take_of_lt (by omega), List.getElem?_drop, Nat.add_sub_cancel' low, hplace]
    obtain ⟨e', there, again⟩ := (Log.page_ends _ _).of_ok readPage |>.1.getElem? onPage
    obtain rfl : e = e' := Option.some.inj (readRow.symm.trans again)
    exact ⟨page, readPage, List.mem_of_getElem? there⟩

/-- What is recorded is added with its details, or dropped. -/
theorem record_adds [Medium m] (action : Action) (entityType : String) (entityId : Option Int)
    (entityUuid : Option String) (caller : Caller) (details : Option Json) :
    Ends (record action entityType entityId entityUuid caller details : Service m Unit) o
      (fun _ o' => o'.log = o.log ∨ ∃ row, o'.log = o.log ++ [row] ∧
        row.get? "details" = some (Json.ofOption (.text ·.compact) details))
      fun _ _ => False := by
  have stored (n : Int) : ((entry action entityType entityId entityUuid caller details).row o.now []
      n).get? "details" = some (Json.ofOption (.text ·.compact) details) := by
    refine Insert.get?_row_of_mem ?_ ?_ n <;> simp [entry, Insert.assignments_ofFields]
  refine Ends.record (fun medium => .inr ⟨_, ?_, stored (o.store.document.lastId table + 1)⟩)
    fun medium => .inl rfl
  exact (Change.table_insert _ Log.table).trans (if_pos rfl)

end Log

/-! ## Offers -/

namespace Offers

/-- An offer has the id and the snapshot of a row. -/
def Copied (rows : List Record) (offer : Offer) : Prop :=
  ∃ row ∈ rows, row.get? "id" = some (.int offer.id) ∧
    offer.snapshot = Lenient.embedded ((row.get? "snapshot_data").getD .null)

theorem copied_of_read {rows : List Record} {row shown : Record} {offer : Offer}
    (mem : row ∈ rows) (id : shown.get? "id" = row.get? "id")
    (snapshot : shown.get? "snapshot_data" = row.get? "snapshot_data")
    (read : Offer.ofRecord? shown = some offer) : Copied rows offer := by
  refine ⟨row, mem, ?_, ?_⟩
  · rw [← id]
    exact Offer.listing_reads.id_of_read read
  · rw [← snapshot]
    exact Offer.snapshot_of_ofRecord? read

/-- The snapshot of an offer is told with its id, in the list if it is kept, and by an export. -/
structure ShowsSnapshot {m : Type} [Medium m] (offerPrefix : String) (o : Office m) (id : Int)
    (snapshot : Option Json) (kept : Prop) : Prop where
  told : ∃ told o', (get offerPrefix id).run.run o = (.ok told, o') ∧ told.offer.id = id ∧
    told.offer.snapshot = snapshot
  listed : ∃ offers, list.run.run o = (.ok offers, o) ∧
    (∀ offer ∈ offers, offer.id = id → offer.snapshot = snapshot) ∧
    (kept → ∃ offer ∈ offers, offer.id = id)
  exported : ∀ caller : Caller, caller.isAdmin = true → ∃ e o',
    (Admin.exportAll caller).run.run o = (.ok e, o') ∧
    (∀ x ∈ e.offers, x.row.id = id → x.row.snapshot = snapshot) ∧
    ∃ x ∈ e.offers, x.row.id = id

variable {m : Type} {o : Office m} {offerPrefix : String}

theorem list_ends : Ends list o (fun offers _ => (∀ offer ∈ offers, Copied o.offers offer) ∧
      ∀ row ∈ o.offers, Calculations.isKept row = true →
        ∃ offer ∈ offers, row.get? "id" = some (.int offer.id)) fun _ _ => True := by
  have asked : Creators.Asked "o" [Creators.name] := ⟨.inr rfl, .inl rfl⟩
  refine ends_storage.mpr (ends_selectAll.mpr ?_)
  split
  · next offers read =>
    have told := LineItems.map_eq_of_mapM read
    refine ⟨fun offer mem => ?_, fun row mem kept => ?_⟩
    · obtain ⟨shown, among, readOffer⟩ := List.mem_map.mp (told ▸ List.mem_map_of_mem mem)
      obtain ⟨row, there, rfl⟩ := Select.exists_of_mem_rows among
      exact copied_of_read there (Creators.get?_shown asked (by decide))
        (Creators.get?_shown asked (by decide)) readOffer
    · rw [Creators.remaining, Creators.rows_kept asked] at told
      obtain ⟨offer, there, same⟩ : ∃ offer ∈ offers, some offer =
          Offer.ofRecord? ((Creators.remaining table "o").shown o.store.document row) := by
        rw [← List.mem_map, ← told]
        exact List.mem_map_of_mem (OrderBy.mem_sort.mpr
          (List.mem_map_of_mem (List.mem_filter.mpr ⟨mem, kept⟩)))
      exact ⟨offer, there, (Creators.get?_shown asked (by decide)).symm.trans
        (Offer.listing_reads.id_of_read same.symm)⟩
  · trivial

section Reading

variable (h : o.store.document.WellTyped)
include h

theorem Copied.snapshot_eq {offer : Offer} (copied : Copied o.offers offer) {k : Nat}
    {row : Record} (hk : o.offers[k]? = some row) (id : offer.id = k + 1) :
    offer.snapshot = Lenient.embedded ((row.get? "snapshot_data").getD .null) := by
  obtain ⟨other, mem, stored, snapshot⟩ := copied
  rw [snapshot, h.offers.consecutive.eq_of_id hk mem (id ▸ stored)]

variable [Medium m]

theorem get_ends {id : Int} (fits : fitsSigned id = true) :
    Ends (get offerPrefix id) o (fun told _ => told.offer.id = id ∧ Copied o.offers told.offer)
      fun _ _ => True := by
  refine get_ends_of (fun _ => trivial) fun row offer named read => ?_
  have mem : row ∈ o.offers := List.mem_of_find?_eq_some named
  have asked : Calculations.isNamed id row = true := List.find?_some named
  have stored : row.get? "id" = some (.int offer.id) := Offer.listing_reads.id_of_read read
  have shown := Offer.shown (h.offers.admits row mem) stored read
  have copied := copied_of_read mem rfl rfl read
  have own : offer.id = id := by
    obtain ⟨id', stored', fits'⟩ := h.offers.exists_id_fits h.fits mem
    obtain rfl : id' = offer.id := by simpa [Json.int] using stored'.symm.trans stored
    rw [Calculations.isNamed, stored, Json.matchesValue_int fits' fits] at asked
    exact of_decide_eq_true asked
  unfold detail
  rw [backfill_eq shown]
  refine ends_storage.mpr (ends_bind.mpr (ends_pure.mpr (ends_bind.mpr ?_)))
  exact (ends_trivial _ o).mono (fun _ _ _ => ends_pure.mpr ⟨own, copied⟩) fun _ _ _ => trivial

theorem shows_of_row {k : Nat} {row : Record} (hk : o.offers[k]? = some row) :
    ShowsSnapshot offerPrefix o (k + 1)
      (Lenient.embedded ((row.get? "snapshot_data").getD .null))
      (Calculations.isKept row = true) where
  told := by
    have stored := h.offers.numbered k row hk
    have held : o.store.document.Holds table (k + 1) := ⟨row, List.mem_of_getElem? hk, stored⟩
    have found : Succeeds (get offerPrefix (k + 1)) o :=
      (offers_get_tells h (k + 1)).succeeds_of held
    obtain ⟨told, run⟩ := found
    obtain ⟨id, copied⟩ := (get_ends h (h.offers.fits_of_holds h.fits held)).of_ok run
    exact ⟨told, o, run, id, copied.snapshot_eq h hk id⟩
  listed := by
    obtain ⟨offers, run⟩ := offers_list_succeeds h
    obtain ⟨copied, complete⟩ := list_ends.of_ok run
    refine ⟨offers, run, fun offer mem id => (copied offer mem).snapshot_eq h hk id, fun kept => ?_⟩
    obtain ⟨offer, mem, stored⟩ := complete row (List.mem_of_getElem? hk) kept
    rw [h.offers.numbered k row hk] at stored
    exact ⟨offer, mem, by simpa [Json.int] using stored.symm⟩
  exported caller admin := by
    obtain ⟨e, o', run⟩ := exportAll_ok h admin
    have exports := ((Admin.exportAll_ends caller).of_ok run).2
    refine ⟨e, o', run, fun x mem id => ?_, ?_⟩
    · obtain ⟨other, there, read⟩ := exports.exists_row Admin.offers_listed mem
      have copied := copied_of_read there (Record.get?_unnamed (by decide))
        (Record.get?_unnamed (by decide)) read
      exact copied.snapshot_eq h hk id
    · obtain ⟨x, mem, read⟩ :=
        exports.exists_entry Admin.offers_listed (List.mem_of_getElem? hk)
      have stored := (Admin.offers_listed.id_of_unnamed read).1
      rw [h.offers.numbered k row hk] at stored
      exact ⟨x, mem, by simpa [Json.int] using stored.symm⟩

end Reading

/-- What is created is added with its snapshot. -/
theorem create_adds [Medium m] (h : o.Sound) (input : OfferInput) (caller : Caller) :
    Ends (create offerPrefix input caller) o
      (fun saved o' => saved.id = o.offers.length + 1 ∧ ∃ row, o'.offers = o.offers ++ [row] ∧
        row.get? "snapshot_data" = some (Json.ofOption (.text ·.compact) input.snapshot) ∧
        Calculations.isKept row = true)
      fun _ _ => True := by
  rw [create_ends]
  split
  · refine ends_bind.mpr (Ends.mono (Performs.storage (allocate_performs 1)) ?_
      fun _ _ _ => trivial)
    rintro number o₁ ⟨rfl, counted⟩
    refine ends_bind.mpr (Ends.mono (Performs.storage (store_performs ..)) ?_ fun _ _ _ => trivial)
    rintro id o₂ ⟨⟨rfl, -⟩, stored⟩
    have lastId : o₁.store.document.lastId table = o.store.document.lastId table :=
      counted.lastId_of_advance offers_apart
    rw [lastId] at stored ⊢
    have rows := Holds.of_offer (List.prefix_refl _) (counted.trans stored).of_takeUuid
    refine ends_bind.mpr ((record_apart offers_ne_log ..).mono ?_ fun _ _ _ => trivial)
    rintro _ o' same
    refine ends_pure.mpr ⟨?_, _, same.trans rows.offers, ?_, ?_⟩
    · rw [← show o.store.document.lastId table = o.offers.length from h.offers.lastId]
    · exact get?_row_of_mem (by simp [rowFields]) _
    · refine congrArg Json.isMissing (get?_row_of_notMem ?_ ?_ ?_ _) <;>
        simp [rowFields, Customer.fieldNames, Customer.values]
  · trivial

end Offers

/-! ## Runs -/

/-- Whoever deletes an offer does so by its id. -/
theorem Call.Deletes.exists_call {call : Call} {row : Record}
    (h : call.Deletes Offers.table row) :
    ∃ id caller, call = .deleteOffer id caller ∧ Calculations.isNamed id row = true := by
  cases call with
  | deleteOffer id caller => exact ⟨id, caller, rfl, h.2⟩
  | deleteCalculation => exact absurd h.1 Calculations.table_ne.symm
  | _ => exact h.elim

namespace Office

variable {m n : Type} [Medium m] {offerPrefix : String} {o o₁ : Office m} {reader : Office n}

/-- After any requests to a new office, all rows have their forms. -/
theorem IsNew.wellTyped (h : o.IsNew) (rs : List Request) (words : ∀ r ∈ rs, r.call.InWords)
    (fits : (serveAll offerPrefix o rs).store.document.CountersFit) :
    (serveAll offerPrefix o rs).store.document.WellTyped := by
  have sound : (serveAll offerPrefix o rs).Sound := (serveAll_remembers offerPrefix h.sound rs).1
  have tidy : (serveAll offerPrefix o rs).store.document.Tidy True :=
    serveAll_tidy h.sound (h.isEmpty.tidy True) rs fun _ => words
  exact ⟨sound.calculations, sound.offers, tidy, fits⟩

section Later

variable (h : o₁.Sound) {older : List Record} {row : Record} (more : List Request)
  (wellTyped : reader.store.document.WellTyped)
  (same : reader.store.document = (serveAll offerPrefix o₁ more).store.document)
include h wellTyped same

/-- The entry that was added last is shown later as it was stored. -/
theorem details_shown_later (added : o₁.log = older ++ [row]) :
    Log.ShowsDetails reader (older.length + 1)
      (Lenient.embedded ((row.get? "details").getD .null)) := by
  have part : older ++ [row] <+: reader.log := by
    rw [← added, Office.log, Office.log, same]
    exact (serveAll_remembers offerPrefix h more).2.added Log.table (by decide)
  obtain ⟨newer, whole⟩ := part
  refine Log.shows_of_row wellTyped ?_
  rw [← whole]
  simp

/-- The offer that was added last is shown later as it was stored, and listed until it is
    deleted. -/
theorem snapshot_shown_later [Medium n] (words : ∀ r ∈ more, r.call.InWords)
    (added : o₁.offers = older ++ [row]) (kept : Calculations.isKept row = true)
    (readerPrefix : String) :
    Offers.ShowsSnapshot readerPrefix reader (older.length + 1)
      (Lenient.embedded ((row.get? "snapshot_data").getD .null))
      (∀ r ∈ more, ∀ caller, r.call ≠ .deleteOffer (older.length + 1) caller) := by
  have hk : o₁.offers[older.length]? = some row := by simp [added]
  obtain ⟨row', hk', later⟩ := (serveAll_remembers offerPrefix h more).2.offers _ row hk
  rw [← same] at hk'
  have stored := h.offers.numbered _ row hk
  have fits : fitsSigned (older.length + 1) = true := by
    refine wellTyped.offers.fits_of_holds wellTyped.fits ⟨row', List.mem_of_getElem? hk', ?_⟩
    exact wellTyped.offers.numbered _ row' hk'
  have shows : Offers.ShowsSnapshot readerPrefix reader (older.length + 1) _ _ :=
    Offers.shows_of_row wellTyped hk'
  rw [later.fixed "snapshot_data" (by decide)] at shows
  refine ⟨shows.told, ?_, shows.exported⟩
  obtain ⟨offers, run, snapshots, listed⟩ := shows.listed
  refine ⟨offers, run, snapshots, fun undeleted => listed ?_⟩
  rcases later.deleted with unmarked | ⟨-, r, mem, deletes, -⟩
  · exact (congrArg Json.isMissing unmarked).trans kept
  · obtain ⟨id, caller, call, named⟩ := deletes.exists_call
    have inWords : fitsSigned id = true := by simpa only [call, Call.InWords] using words r mem
    rw [Calculations.isNamed, stored, Json.matchesValue_int fits inWords] at named
    exact absurd (of_decide_eq_true named ▸ call) (undeleted r mem caller)

end Later

/-- Free-form values come back. When something is recorded in between any requests to a new office,
    and the entry is saved, it is shown with its details at the end, and without any if there are
    none. An offer that is created in between is told, listed and exported with its snapshot at the
    end; it is listed unless it has been deleted. -/
theorem free_form_values_come_back [Medium n] (h : o.IsNew) (rs more : List Request) (r : Request)
    (words : ∀ s ∈ rs ++ r :: more, s.call.InWords)
    (fits : (serveAll offerPrefix o (rs ++ r :: more)).store.document.CountersFit)
    (same : reader.store.document = (serveAll offerPrefix o (rs ++ r :: more)).store.document)
    (readerPrefix : String) :
    (∀ action entityType entityId entityUuid caller details,
      r.call = .record action entityType entityId entityUuid caller details →
      (∀ v ∈ details, v.Embeddable) →
      (serve offerPrefix (serveAll offerPrefix o rs) r).log ≠ (serveAll offerPrefix o rs).log →
      Log.ShowsDetails reader ((serveAll offerPrefix o rs).log.length + 1) details) ∧
    ∀ input caller saved left, r.call = .createOffer input caller →
      (∀ v ∈ input.snapshot, v.Embeddable) →
      (Offers.create offerPrefix input caller).run.run ((serveAll offerPrefix o rs).setNow r.now) =
        (.ok saved, left) →
      Offers.ShowsSnapshot readerPrefix reader saved.id input.snapshot
        (∀ s ∈ more, ∀ caller, s.call ≠ .deleteOffer saved.id caller) := by
  have wellTyped : reader.store.document.WellTyped := same ▸ h.wellTyped _ words fits
  have sound : (serveAll offerPrefix o rs).Sound := (serveAll_remembers offerPrefix h.sound rs).1
  have whole : serveAll offerPrefix o (rs ++ r :: more) =
      serveAll offerPrefix (serve offerPrefix (serveAll offerPrefix o rs) r) more :=
    List.foldl_append
  rw [whole] at same
  refine ⟨fun action entityType entityId entityUuid caller details call proper noted => ?_,
    fun input caller saved left call proper run => ?_⟩
  · have served : serve offerPrefix (serveAll offerPrefix o rs) r = ((Log.record action entityType
        entityId entityUuid caller details : Service m Unit).run.run
          ((serveAll offerPrefix o rs).setNow r.now)).2 := by
      rw [serve, call]
      rfl
    have ends := @Log.record_adds m ((serveAll offerPrefix o rs).setNow r.now) _ action entityType
      entityId entityUuid caller details
    have added := (ends.mono (fun _ _ => id) fun _ _ => False.elim).snd
    rw [← served] at added
    obtain ⟨row, added, stored⟩ := added.resolve_left noted
    have shows := details_shown_later (sound.serve r) more wellTyped same added
    rwa [stored, Option.getD_some, Lenient.embedded_ofOption proper] at shows
  · obtain ⟨id, row, added, stored, kept⟩ :=
      (Offers.create_adds (sound.setNow r.now) input caller).of_ok run
    have served : serve offerPrefix (serveAll offerPrefix o rs) r = left := by
      rw [serve, call]
      exact (run_discard _).trans (congrArg Prod.snd run)
    rw [← served] at added
    have shows := snapshot_shown_later (sound.serve r) more wellTyped same
      (fun s mem => words s (List.mem_append_right _ (List.mem_cons_of_mem r mem))) added kept
      readerPrefix
    rw [stored, Option.getD_some, Lenient.embedded_ofOption proper] at shows
    rwa [id]

/-- An offer with a snapshot in which there is a text like a number. -/
def offerWithSnapshot : OfferInput :=
  { emptyOffer with snapshot := some (.array [.text "5", .null]) }

/-- The text `null` comes back as a text. The offer is told and exported with its snapshot even
    though it is deleted in the end. -/
theorem texts_like_values_come_back :
    Log.ShowsDetails (serveAll "FHD" inMemory (dayBefore ++
        [⟨3600000, .record .create "draft" none none somebody (some (.text "null"))⟩]))
      2 (some (.text "null")) ∧
    ∃ saved left, (Offers.create "FHD" offerWithSnapshot somebody).run.run
        ((serveAll "FHD" inMemory dayBefore).setNow 3600000) = (.ok saved, left) ∧
      Offers.ShowsSnapshot "FHD" (serveAll "FHD" inMemory (dayBefore ++
          [⟨3600000, .createOffer offerWithSnapshot somebody⟩,
           ⟨86400000, .deleteOffer 1 somebody⟩]))
        saved.id (some (.array [.text "5", .null])) False := by
  have evaluated :
      (∀ e ∈ (serveAll "FHD" inMemory (dayBefore ++ [⟨3600000, .record .create "draft" none none
          somebody (some (.text "null"))⟩])).store.document.counters.entries,
        fitsSigned e.2 = true) ∧
      (serveAll "FHD" inMemory dayBefore).log.length = 1 ∧
      (serve "FHD" (serveAll "FHD" inMemory dayBefore) ⟨3600000, .record .create "draft" none none
        somebody (some (.text "null"))⟩).log.length = 2 ∧
      (∀ e ∈ (serveAll "FHD" inMemory (dayBefore ++ [⟨3600000, .createOffer offerWithSnapshot
          somebody⟩, ⟨86400000, .deleteOffer 1 somebody⟩])).store.document.counters.entries,
        fitsSigned e.2 = true) ∧
      ((Offers.create "FHD" offerWithSnapshot somebody).run.run
        ((serveAll "FHD" inMemory dayBefore).setNow 3600000)).1.toOption.any (fun _ => true) =
          true ∧
      Json.Embeddable (.text "null") ∧ Json.Embeddable (.array [.text "5", .null]) := by
    decide +kernel
  obtain ⟨recordedFits, one, two, offeredFits, created, text, array⟩ := evaluated
  obtain ⟨saved, left, run, -⟩ := exists_of_ok created
  have new : inMemory.IsNew := isNew_opened _ 0
  refine ⟨?_, saved, left, run, ?_⟩
  · have noted : (serve "FHD" (serveAll "FHD" inMemory dayBefore) ⟨3600000, .record .create "draft"
        none none somebody (some (.text "null"))⟩).log ≠ (serveAll "FHD" inMemory dayBefore).log :=
      fun same => by simp [same, one] at two
    have shown := (free_form_values_come_back new dayBefore []
      ⟨3600000, .record .create "draft" none none somebody (some (.text "null"))⟩
      (by simp [dayBefore, Call.InWords, LineItems.GivenFit, calculationOf, emptyCalculation])
      (Document.countersFit_iff.mpr recordedFits) rfl "FHD").1 _ _ _ _ _ _ rfl
      (fun v mem => Option.mem_some.mp mem ▸ text) noted
    rwa [one] at shown
  · have shown := (free_form_values_come_back new dayBefore [⟨86400000, .deleteOffer 1 somebody⟩]
      ⟨3600000, .createOffer offerWithSnapshot somebody⟩
      (by simp [dayBefore, Call.InWords, LineItems.GivenFit, calculationOf, emptyCalculation,
        offerWithSnapshot, emptyOffer, fitsSigned_iff])
      (Document.countersFit_iff.mpr offeredFits) rfl "FHD").2 _ _ saved left rfl
      (fun v mem => Option.mem_some.mp mem ▸ array) run
    obtain ⟨offers, listed, snapshots, -⟩ := shown.listed
    exact ⟨shown.told, ⟨offers, listed, snapshots, False.elim⟩, shown.exported⟩

end Office

end OfferBook
