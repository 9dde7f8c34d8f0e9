import OfferBook.Proofs.Log.Entries
import OfferBook.Proofs.Office.History
import OfferBook.Proofs.Office.Readable

/-! # Paging through the log

The log grows at its front while somebody reads it page by page. What moves is seen again, and
nothing is passed over.

* `Log.newest` — the rows of the log as they are read; `Log.getElem?_newest` — the place of one.
* `Office.Paged` — a reading of the log, between whose steps others make requests.
* `Paged.covers` — each entry that was there at first is on one of the pages.
* `Paged.whole` — the pages are the whole log where it has not grown.
* `Office.paging_misses_nothing` — both, for the log of an office that was new.
-/

namespace OfferBook

/-! ## The order of entries -/

namespace Log

/-- Rows of the log in the order in which they are read. -/
def newest (rows : List Record) : List Record := OrderBy.sort none ⟨.bare "id", true⟩ rows

variable {older rows : List Record}

theorem length_newest (rows : List Record) : (newest rows).length = rows.length :=
  List.length_mergeSort rows

/-- Old rows, whose numbers are exact, stand behind all new ones. -/
theorem newest_append {newer : List Record} (h : Consecutive (older ++ newer))
    (short : older.length < Double.exactLimit) :
    newest (older ++ newer) = newest newer ++ older.reverse := by
  have behind {i j : Nat} {a b : Record} (less : i < j) (inside : i < older.length)
      (ha : (older ++ newer)[i]? = some a) (hb : (older ++ newer)[j]? = some b) :
      OrderBy.precedes none ⟨.bare "id", true⟩ a b = false :=
    OrderBy.precedes_eq_false_of_lt (i := i + 1) (j := j + 1) rfl (h i a ha) (h j b hb) (by omega)
      (by omega)
  refine OrderBy.sort_rising newer (List.pairwise_iff_getElem.mpr fun i j hi hj less => ?_) ?_
  · refine behind less hi ?_ ?_ <;>
      rw [List.getElem?_append_left (by assumption), List.getElem?_eq_getElem]
  · intro a ha b hb
    obtain ⟨i, hi⟩ := List.getElem?_of_mem ha
    obtain ⟨j, hj⟩ := List.getElem?_of_mem hb
    have inside := (List.getElem?_eq_some_iff.mp hi).1
    refine behind (j := older.length + j) (by omega) inside ?_ ?_
    · rwa [List.getElem?_append_left inside]
    · rwa [List.getElem?_append_right (by omega), Nat.add_sub_cancel_left]

theorem newest_eq_reverse (h : Consecutive rows) (short : rows.length < Double.exactLimit) :
    newest rows = rows.reverse := by
  refine OrderBy.sort_eq_reverse (h.rising.imp ?_)
  rintro a b ⟨i, j, ha, hb, less, inside⟩
  exact OrderBy.precedes_eq_false_of_lt rfl ha hb less (by omega)

/-- As many rows stand before a row as were added after it. -/
theorem getElem?_newest (h : Consecutive rows) (part : older <+: rows)
    (short : older.length < Double.exactLimit) {i : Nat} {row : Record}
    (hi : older[i]? = some row) : (newest rows)[rows.length - 1 - i]? = some row := by
  obtain ⟨newer, rfl⟩ := part
  have inside := (List.getElem?_eq_some_iff.mp hi).1
  have place : (older ++ newer).length - 1 - i =
      (newest newer).length + (older.length - 1 - i) := by
    rw [List.length_append, length_newest]
    omega
  rw [newest_append h short, place, List.getElem?_append_right (by omega),
    Nat.add_sub_cancel_left, List.getElem?_reverse (by omega), ← hi]
  congr 1
  omega

end Log

/-! ## Pages -/

namespace Log

open Office

variable {m : Type} {o : Office m}

/-- What is read where some rows are told. -/
def Tells (rows : List Record) (entries : List ActivityEntry) : Prop :=
  rows.map ActivityEntry.ofRecord? = entries.map some

theorem Tells.exists_entry {rows : List Record} {entries : List ActivityEntry}
    (h : Log.Tells rows entries) {row : Record} (mem : row ∈ rows) :
    ∃ e ∈ entries, ActivityEntry.ofRecord? row = some e := by
  have told := List.mem_map_of_mem (f := ActivityEntry.ofRecord?) mem
  rw [h] at told
  obtain ⟨e, among, same⟩ := List.mem_map.mp told
  exact ⟨e, among, same.symm⟩

theorem Tells.length {rows : List Record} {entries : List ActivityEntry}
    (h : Log.Tells rows entries) : entries.length = rows.length := by
  simpa using (congrArg List.length h).symm

theorem page_ends (size offset : Nat) :
    Ends (page size offset) o
      (fun page o' => Log.Tells (((newest o.log).drop offset).take size) page.entries ∧
        page.total = o.log.length ∧ o' = o)
      fun _ _ => True := by
  unfold page
  refine ends_bind.mpr (ends_selectAll.mpr ?_)
  split
  · next entries read =>
    refine ends_bind.mpr (ends_document.mpr (ends_pure.mpr ⟨?_, rfl, rfl⟩))
    rw [newestFirst, Select.rows_paged] at read
    exact LineItems.map_eq_of_mapM read
  · trivial

theorem all_ends :
    Ends all o (fun entries o' => Log.Tells (newest o.log) entries ∧ o' = o) fun _ _ => True := by
  have rows : newestFirst.rows o.now [] o.store.document = newest o.log := by
    rw [newestFirst, Select.rows_ordered]
    exact congrArg _ (List.filter_eq_self.mpr fun _ _ => rfl)
  refine ends_selectAll.mpr ?_
  rw [rows]
  split
  · next entries read => exact ⟨LineItems.map_eq_of_mapM read, rfl⟩
  · trivial

section Entries

variable (tidy : o.store.document.Tidy True)
  (fits : fitsSigned o.log.length = true)

include tidy fits

theorem entry_of_row {k : Nat} {row : Record} (hk : o.log[k]? = some row) :
    ∃ e, ActivityEntry.ofRecord? row = some e ∧ e.id = k + 1 := by
  have inside := (List.getElem?_eq_some_iff.mp hk).1
  refine ActivityEntry.exists_ofRecord? (tidy.log.admits row (List.mem_of_getElem? hk))
    (tidy.log.numbered k row hk) ?_
  rw [fitsSigned_iff] at fits ⊢
  omega

/-- An entry has a greater number than those that are read behind it. -/
theorem entries_fall {entries : List ActivityEntry} (told : Log.Tells o.log.reverse entries) :
    entries.Pairwise fun a b => b.id < a.id := by
  have length : entries.length = o.log.length := by rw [told.length, List.length_reverse]
  have id {i : Nat} (hi : i < entries.length) : entries[i].id = o.log.length - i := by
    have inside : i < o.log.reverse.length := by rwa [List.length_reverse, ← length]
    have hk : o.log[o.log.length - 1 - i]? = some o.log.reverse[i] := by
      rw [← List.getElem?_reverse (by omega), List.getElem?_eq_getElem]
    obtain ⟨e, read, number⟩ := entry_of_row tidy fits hk
    have same := congrArg (·[i]?) told
    simp only [List.getElem?_map, List.getElem?_eq_getElem hi, List.getElem?_eq_getElem inside,
      read, Option.map_some, Option.some.injEq] at same
    rw [← same, number]
    omega
  refine List.pairwise_iff_getElem.mpr fun i j hi hj less => ?_
  rw [id hi, id hj]
  omega

theorem exists_entry {row : Record} (mem : row ∈ o.log) :
    ∃ e, ActivityEntry.ofRecord? row = some e := by
  obtain ⟨k, hk⟩ := List.getElem?_of_mem mem
  exact (entry_of_row tidy fits hk).imp fun _ => And.left

theorem page_succeeds (limit offset : Nat) : Succeeds (Log.page limit offset) o := by
  refine Tells.succeeds (P := fun _ => True) ((Tells.selectAll (Select.read_rows fun _ =>
    exists_entry tidy fits)).bind fun _ _ => ?_)
  exact Tells.bind (Q := fun _ => True) (ends_document.mpr ⟨trivial, rfl⟩) fun _ _ => .any

theorem all_succeeds : Succeeds Log.all o :=
  (Tells.selectAll (Select.read_rows fun _ => exists_entry tidy fits)).succeeds

end Entries

end Log

namespace Office

variable {m : Type} [Medium m] {offerPrefix : String} {size : Nat}

/-- A reading of the log, page by page from the `k`-th on until one is not full, with the pages
    that are read. Between one page and the next, others make requests. -/
inductive Paged (offerPrefix : String) (size : Nat) :
    Nat → Office m → List ActivityPage → Office m → Prop
  | last {k : Nat} {o o' : Office m} {page : ActivityPage}
      (read : (Log.page size (k * size)).run.run o = (.ok page, o'))
      (ends : page.entries.length < size) : Paged offerPrefix size k o [page] o'
  | next {k : Nat} {o o' o'' : Office m} {page : ActivityPage} {pages : List ActivityPage}
      (read : (Log.page size (k * size)).run.run o = (.ok page, o'))
      (full : ¬ page.entries.length < size) (between : List Request)
      (rest : Paged offerPrefix size (k + 1) (serveAll offerPrefix o' between) pages o'') :
      Paged offerPrefix size k o (page :: pages) o''

namespace Paged

variable {k : Nat} {o o' : Office m} {pages : List ActivityPage}

/-- The log only grows while it is read. -/
theorem grows (h : Paged offerPrefix size k o pages o') (sound : o.Sound) : o.log <+: o'.log := by
  induction h with
  | last read ends =>
    obtain ⟨-, -, rfl⟩ := (Log.page_ends _ _).of_ok read
    exact List.prefix_refl _
  | next read full between rest ih =>
    obtain ⟨-, -, rfl⟩ := (Log.page_ends _ _).of_ok read
    obtain ⟨sound', remembers⟩ := serveAll_remembers offerPrefix sound between
    exact (remembers.added _ (by decide)).trans (ih sound')

/-- A row that is still ahead when a page is read is on one of the pages from there on: it only
    moves away from the front, and the reading does not end before it. -/
theorem covers {older : List Record} (short : older.length < Double.exactLimit)
    (h : Paged offerPrefix size k o pages o') (sound : o.Sound)
    (tidy : o.store.document.Tidy False) (part : older <+: o.log) {i : Nat} {row : Record}
    (hi : older[i]? = some row) (ahead : k * size ≤ o.log.length - 1 - i) :
    ∃ page ∈ pages, ∃ e ∈ page.entries, ActivityEntry.ofRecord? row = some e := by
  have inside : i < older.length := (List.getElem?_eq_some_iff.mp hi).1
  have onPage {o o' : Office m} {k : Nat} {page : ActivityPage}
      (read : (Log.page size (k * size)).run.run o = (.ok page, o'))
      (tidy : o.store.document.Tidy False) (part : older <+: o.log)
      (ahead : k * size ≤ o.log.length - 1 - i) (near : o.log.length - 1 - i < (k + 1) * size) :
      ∃ e ∈ page.entries, ActivityEntry.ofRecord? row = some e := by
    have numbered : Consecutive o.log := tidy.log.consecutive
    have place := Log.getElem?_newest numbered part short hi
    refine ((Log.page_ends _ _).of_ok read).1.exists_entry (List.mem_of_getElem?
      (i := o.log.length - 1 - i - k * size) ?_)
    rw [Nat.succ_mul] at near
    rw [List.getElem?_take_of_lt (by omega), List.getElem?_drop, Nat.add_sub_cancel' ahead, place]
  induction h with
  | @last k o o' page read ends =>
    refine ⟨page, List.mem_singleton_self page, onPage read tidy part ahead ?_⟩
    have length := ((Log.page_ends _ _).of_ok read).1.length
    rw [List.length_take, List.length_drop, Log.length_newest] at length
    have := part.length_le
    rw [Nat.succ_mul]
    omega
  | @next k o o' o'' page pages read full between rest ih =>
    by_cases near : o.log.length - 1 - i < (k + 1) * size
    · exact ⟨page, List.mem_cons_self, onPage read tidy part ahead near⟩
    · obtain ⟨-, -, rfl⟩ := (Log.page_ends _ _).of_ok read
      obtain ⟨sound', remembers⟩ := serveAll_remembers offerPrefix sound between
      have grown : o'.log <+: (serveAll offerPrefix o' between).log :=
        remembers.added _ (by decide)
      have tidy' : (serveAll offerPrefix o' between).store.document.Tidy False :=
        serveAll_tidy sound tidy between False.elim
      have later := grown.length_le
      obtain ⟨other, among, found⟩ := ih sound' tidy' (part.trans grown) (by omega)
      exact ⟨other, List.mem_cons_of_mem page among, found⟩

/-- Where the log has not grown, the pages are all of it from the first of them on, and each tells
    how many entries there are. -/
theorem whole (h : Paged offerPrefix size k o pages o') (sound : o.Sound) (same : o'.log = o.log) :
    Log.Tells ((Log.newest o.log).drop (k * size)) (pages.flatMap (·.entries)) ∧
      ∀ page ∈ pages, page.total = o.log.length := by
  induction h with
  | @last k o o' page read ends =>
    obtain ⟨told, total, rfl⟩ := (Log.page_ends _ _).of_ok read
    have length := told.length
    rw [List.length_take] at length
    rw [List.take_of_length_le (by omega)] at told
    exact ⟨by simpa using told, by simpa using total⟩
  | @next k o o' o'' page pages read full between rest ih =>
    obtain ⟨told, total, rfl⟩ := (Log.page_ends _ _).of_ok read
    obtain ⟨sound', remembers⟩ := serveAll_remembers offerPrefix sound between
    -- What lies between two logs that are the same is the same, too.
    have grown : o'.log <+: (serveAll offerPrefix o' between).log := remembers.added _ (by decide)
    have kept : o'.log = (serveAll offerPrefix o' between).log :=
      grown.eq_of_length_le (same ▸ (rest.grows sound').length_le)
    obtain ⟨others, totals⟩ := ih sound' (same.trans kept)
    rw [← kept] at others totals
    refine ⟨?_, List.forall_mem_cons.mpr ⟨total, totals⟩⟩
    have split : ((Log.newest o'.log).drop (k * size)) =
        ((Log.newest o'.log).drop (k * size)).take size ++
          (Log.newest o'.log).drop ((k + 1) * size) := by
      rw [Nat.succ_mul, ← List.drop_drop, List.take_append_drop]
    unfold Log.Tells at *
    rw [split, List.map_append, told, others, List.flatMap_cons, List.map_append]

end Paged

/-! ## Runs -/

variable {o : Office m}

theorem IsNew.length_log (h : o.IsNew) (offerPrefix : String) (rs : List Request) :
    (serveAll offerPrefix o rs).log.length ≤ rs.length := by
  have few := serveAll_notes offerPrefix h.sound rs
  rwa [show o.log = [] from (h.isEmpty _).1, List.length_nil, Nat.zero_add] at few

/-- Whatever is asked of a new office, the log can be read page by page. Each entry that is there
    when the first page is read is on one of the pages, whatever is asked between one page and the
    next. If nothing is added to the log meanwhile, the pages one after the other are the entries of
    the whole log, the newest first, and each tells how many there are. -/
theorem paging_misses_nothing (h : o.IsNew) (rs : List Request)
    (words : ∀ r ∈ rs, r.call.InWords) (short : rs.length < Double.exactLimit) :
    ∃ entries, (Log.all : Work m _).run.run (serveAll offerPrefix o rs) =
        (.ok entries, serveAll offerPrefix o rs) ∧
      entries.Pairwise (fun a b => b.id < a.id) ∧
      (∀ more : List Request, (∀ r ∈ more, r.call.InWords) →
        fitsSigned (rs.length + more.length) = true → ∀ limit offset,
        Succeeds (Log.page limit offset)
          (serveAll offerPrefix (serveAll offerPrefix o rs) more)) ∧
      ∀ (size : Nat) (pages : List ActivityPage) (o' : Office m),
        Paged offerPrefix size 0 (serveAll offerPrefix o rs) pages o' →
        (∀ e ∈ entries, ∃ page ∈ pages, e ∈ page.entries) ∧
        (o'.log = (serveAll offerPrefix o rs).log →
          pages.flatMap (·.entries) = entries ∧ ∀ page ∈ pages, page.total = entries.length) := by
  have sound : (serveAll offerPrefix o rs).Sound := (serveAll_remembers offerPrefix h.sound rs).1
  have tidy : (serveAll offerPrefix o rs).store.document.Tidy True :=
    serveAll_tidy h.sound (h.isEmpty.tidy True) rs fun _ => words
  have loose : (serveAll offerPrefix o rs).store.document.Tidy False :=
    serveAll_tidy h.sound (h.isEmpty.tidy False) rs False.elim
  have few : (serveAll offerPrefix o rs).log.length < Double.exactLimit :=
    Nat.lt_of_le_of_lt (h.length_log offerPrefix rs) short
  have fits : fitsSigned (serveAll offerPrefix o rs).log.length = true :=
    Double.fitsSigned_of_le few.le
  have reversed : Log.newest (serveAll offerPrefix o rs).log =
      (serveAll offerPrefix o rs).log.reverse := Log.newest_eq_reverse tidy.log.consecutive few
  obtain ⟨entries, read⟩ := Log.all_succeeds tidy fits
  have told : Log.Tells (serveAll offerPrefix o rs).log.reverse entries :=
    reversed ▸ (Log.all_ends.of_ok read).1
  refine ⟨entries, read, Log.entries_fall tidy fits told, fun more others fit limit offset => ?_,
    fun size pages o' paged => ⟨fun e mem => ?_, fun same => ?_⟩⟩
  · have later := serveAll_notes offerPrefix sound more
    have first := h.length_log offerPrefix rs
    refine Log.page_succeeds (serveAll_tidy sound tidy more fun _ => others) ?_ limit offset
    rw [fitsSigned_iff] at fit ⊢
    omega
  · have among : some e ∈ (serveAll offerPrefix o rs).log.reverse.map ActivityEntry.ofRecord? :=
      told ▸ List.mem_map_of_mem mem
    obtain ⟨row, there, told⟩ := List.mem_map.mp among
    obtain ⟨i, hi⟩ := List.getElem?_of_mem (List.mem_reverse.mp there)
    obtain ⟨page, onto, e', onPage, same⟩ := paged.covers few sound loose (List.prefix_refl _) hi
      (by omega)
    obtain rfl : e = e' := Option.some.inj (told.symm.trans same)
    exact ⟨page, onto, onPage⟩
  · obtain ⟨whole, total⟩ := paged.whole sound same
    rw [Nat.zero_mul, List.drop_zero, reversed] at whole
    have length : entries.length = (serveAll offerPrefix o rs).log.length := by
      rw [told.length, List.length_reverse]
    exact ⟨(List.map_inj_right fun _ _ => Option.some.inj).mp (whole.symm.trans told),
      length ▸ total⟩

/-- The one entry of a new office with a calculation is all that is on two pages. -/
theorem two_pages_of_one_entry :
    ∃ entries pages o', (Log.all : Work Memory _).run.run (serveAll "FHD" inMemory dayBefore) =
        (.ok entries, serveAll "FHD" inMemory dayBefore) ∧
      Paged "FHD" 1 0 (serveAll "FHD" inMemory dayBefore) pages o' ∧
      pages.map (·.entries.length) = [1, 0] ∧ pages.flatMap (·.entries) = entries ∧
      ∀ page ∈ pages, page.total = entries.length := by
  obtain ⟨first, o₁, read₁, one⟩ : ∃ page o', (Log.page 1 (0 * 1)).run.run
      (serveAll "FHD" inMemory dayBefore) = (.ok page, o') ∧ decide (page.entries.length = 1) =
        true := exists_of_ok (by decide +kernel)
  obtain ⟨second, o₂, read₂, none⟩ : ∃ page o', (Log.page 1 (1 * 1)).run.run
      (serveAll "FHD" inMemory dayBefore) = (.ok page, o') ∧ decide (page.entries.length = 0) =
        true := exists_of_ok (by decide +kernel)
  have one := of_decide_eq_true one
  have none := of_decide_eq_true none
  obtain ⟨-, -, rfl⟩ := (Log.page_ends _ _).of_ok read₁
  obtain ⟨-, -, rfl⟩ := (Log.page_ends _ _).of_ok read₂
  have paged : Paged "FHD" 1 0 (serveAll "FHD" inMemory dayBefore) [first, second]
      (serveAll "FHD" inMemory dayBefore) :=
    .next read₁ (by omega) [] (.last read₂ (by omega))
  have words : ∀ r ∈ dayBefore, r.call.InWords := by
    simp [dayBefore, Call.InWords, LineItems.GivenFit, emptyCalculation, calculationOf]
  obtain ⟨entries, all, -, -, pages⟩ :=
    paging_misses_nothing (isNew_opened inMemory.store.medium 0) dayBefore words (by decide)
  obtain ⟨-, whole⟩ := pages 1 _ _ paged
  obtain ⟨same, total⟩ := whole rfl
  exact ⟨entries, _, _, all, paged, by simp [one, none], same, total⟩

end Office

end OfferBook
