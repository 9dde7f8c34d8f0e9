import OfferBook.Proofs.Calculations.Chain
import OfferBook.Proofs.Calculations.Latest
import OfferBook.Proofs.Office.Deletions

/-! # Edits that are cut short

An edit saves a document for each of its changes, and any of these saves may fail.

* `LineItems.changes_of_prefix` — the first few sheets of an input are the sheets of another one.
* `Calculations.extend_ends` — where an edit can be cut short.
* `Calculations.isSome_latestDetail?_of_next` — once its row is stored, an edit can be looked up,
  whichever of its sheets are stored.
* `Calculations.CutShort` — the one place at which a chain is left without a current version.
* `Office.latest_outlives_edits` — what is found after an edit, and after one that failed.
-/

namespace OfferBook

open Office

/-! ## Sheets that are stored in part -/

namespace LineItems

variable {w : Owner} {kind : SheetKind} {items items' : List GarmentItemInput}
  {warehousing : Option WarehousingInput}

theorem take_itemChanges (w : Owner) (place k : Nat) (items : List GarmentItemInput) :
    (itemChanges w place items).take k = itemChanges w place (items.take k) := by
  refine List.ext_getElem? fun i => ?_
  simp only [itemChanges, List.getElem?_take, List.getElem?_mapIdx]
  split <;> rfl

theorem changes_of_prefix {sheets : List Change}
    (part : sheets <+: changes w kind items warehousing) :
    ∃ items' warehousing', items' <+: items ∧ sheets = changes w kind items' warehousing' := by
  by_cases fits : fitsSigned w.id = true
  · simp only [changes, if_pos fits] at part ⊢
    cases kind with
    | garment =>
      refine ⟨items.take sheets.length, none, List.take_prefix _ _, ?_⟩
      rw [sheetChanges, ← take_itemChanges]
      exact List.prefix_iff_eq_take.mp part
    | warehousing =>
      cases warehousing with
      | none => exact ⟨items, none, List.prefix_refl _, List.prefix_nil.mp part⟩
      | some input =>
        rcases List.prefix_cons_iff.mp part with nothing | ⟨rest, all, nothing⟩
        · exact ⟨items, none, List.prefix_refl _, nothing⟩
        · rw [List.prefix_nil.mp nothing] at all
          exact ⟨items, some input, List.prefix_refl _, all⟩
  · simp only [changes, if_neg fits] at part ⊢
    exact ⟨items, none, List.prefix_refl _, List.prefix_nil.mp part⟩

theorem NumbersFit.of_prefix (h : NumbersFit items) (part : items' <+: items) :
    NumbersFit items' := by
  intro i item found
  obtain ⟨rest, rfl⟩ := part
  refine h i item ?_
  rwa [List.getElem?_append_left (List.getElem?_eq_some_iff.mp found).1]

end LineItems

namespace Calculations

variable {m : Type} {o o' : Office m} {offerPrefix uuid : String}

/-! ## Chains after an edit -/

theorem not_isLive_of_mem_retired {row : Record}
    (mem : row ∈ (o.retired uuid).filter (isOf uuid)) : isLive row = false := by
  rw [filter_retired] at mem
  obtain ⟨old, inChain, rfl⟩ := List.mem_map.mp mem
  have ended : (Change.updateRow o.now (retire uuid) old).get? "is_current" =
      some (.bool false) := not_current_retired (List.mem_filter.mp inChain).2
  rw [isLive, isCurrent, ended]
  rfl

theorem latest?_of_retired (rows : o'.calculations = o.retired uuid) :
    o'.store.document.latest? uuid = none := by
  refine List.find?_eq_none.mpr fun row mem => ?_
  have mem : row ∈ o'.calculations.filter (isOf uuid) := mem
  rw [not_isLive_of_mem_retired (rows ▸ mem)]
  exact Bool.false_ne_true

theorem latest?_of_next {head : Calculation} {kunde : String} {input : CalculationInput}
    (rows : o'.calculations = o.retired head.uuid ++ [o.nextRow head kunde input]) :
    o'.store.document.latest? head.uuid = some (o.nextRow head kunde input) := by
  have live : isLive (o.nextRow head kunde input) = true := by
    have current : isCurrent (o.nextRow head kunde input) = true :=
      isCurrent_iff.mpr (get?_nextRow (by simp [rowFields]))
    have unmarked : (o.nextRow head kunde input).get? "deleted_at" = none :=
      get?_row_of_notMem (by simp [rowFields]) (by simp) (by simp) _
    rw [isLive, current, unmarked]
    rfl
  have old : ((o.retired head.uuid).filter (isOf head.uuid)).find? isLive = none := by
    refine List.find?_eq_none.mpr fun row mem => ?_
    rw [not_isLive_of_mem_retired mem]
    exact Bool.false_ne_true
  rw [Document.latest?, chain_concat rows, isOf_nextRow, decide_eq_true rfl, if_pos rfl,
    List.find?_append, old, List.find?_cons_of_pos live]
  rfl

/-- What an edit does before it stores sheets. -/
def rowChanges (head : Calculation) (kunde : String) (input : CalculationInput) : List Change :=
  [.update (retire head.uuid), .insert (row head.uuid (head.version + 1) kunde head.createdBy input
    (numberAfter head) (some head.id))]

/-- The sheets of the new version may be stored in part. -/
theorem isSome_latestDetail?_of_next (h : o.Sound) (empty : o.NoneBeyond)
    (few : fitsSigned (o.calculations.length + 1) = true) {head : Calculation} {headRow : Record}
    (isHead : IsHead o.store.document headRow head) {kunde : String} {input : CalculationInput}
    (valid : LineItems.validate input.items = .ok ())
    (given : LineItems.GivenFit input.items) {sheets : List Change}
    (part : sheets <+: LineItems.changes (.calculation (o.store.document.lastId table + 1))
      input.kind input.items input.warehousing)
    (reached : Reaches o (rowChanges head kunde input ++ sheets) o') :
    (o'.store.document.latestDetail? head.uuid).isSome = true := by
  have rows : o'.calculations = o.retired head.uuid ++ [o.nextRow head kunde input] :=
    (Holds.of_next part reached).calculations
  have cut : rowChanges head kunde input ++ sheets <+:
      nextChanges o.store.document head kunde input := (List.prefix_append_right_inj _).mpr part
  have core : Core "" o o' := .next isHead cut reached valid
  have regular := (h.core core).calculations
  have lastId : o.store.document.lastId table = o.calculations.length := h.calculations.lastId
  -- The new row is the last one of the table, and can be read.
  have place : (o'.store.document.table table)[o.calculations.length]? =
      some (o.nextRow head kunde input) := by
    change o'.calculations[o.calculations.length]? = _
    rw [rows, Office.retired]
    simp
  have numbered := regular.numbered _ _ place
  obtain ⟨c, read, shown⟩ := Calculation.exists_shown
    (joined_of_admits (regular.admits _ (List.mem_of_getElem? place))) numbered few
  have id : c.id = o.store.document.lastId table + 1 := by
    have := shown.id.symm.trans numbered
    rw [lastId]
    simpa [Json.int] using this
  have kind : c.kind = input.kind :=
    Field.kind_eq_of_name shown.kind (get?_nextRow (by simp [rowFields]))
  -- Whatever is stored of its sheets are the sheets of an input.
  obtain ⟨items, warehousing, fewer, rfl⟩ := LineItems.changes_of_prefix part
  have fits : fitsSigned (o.store.document.lastId table + 1) = true := by rw [lastId]; exact few
  have numbers : LineItems.NumbersFit input.items := LineItems.numbersFit_of_validate given valid
  have sheets := LineItems.isSome_sheets? (stores_of_reaches _ reached fits ?_ fun t ht =>
    empty _ t ht fits (Int.lt_succ _)) (numbers.of_prefix fewer)
  · obtain ⟨found, sheets⟩ := Option.isSome_iff_exists.mp sheets
    simp only [Document.latestDetail?, latest?_of_next rows, Option.bind_eq_bind, Option.bind_some,
      read, id, kind, sheets]
    rfl
  · intro t ht
    have apart := (Owner.sheetTables_apart ht).1
    simp [rowChanges, Change.Spares, retire, apart.symm]

/-! ## Where an edit can be cut short -/

variable [Medium m]

/-- A row that is not returned was refused by the medium, or it is stored without a usable id. -/
theorem insertNumbered_refused (s : Insert) :
    Ends (insertNumbered s) o (fun _ _ => True) fun e o' => Reaches o [.insert s] o' ∨
      o'.store.document = o.store.document ∧
        ∃ medium : m, (Medium.save (s.apply o.now [] o.store.document).2 medium).1 = .error e := by
  refine ends_bind.mpr (Ends.commit_of_save (fun medium _ => ?_) fun cause medium failed => ?_)
  · split
    · exact ends_pure.mpr trivial
    · exact ends_throw.mpr (.inl (Reaches.withStore o [.insert s] medium))
  · exact .inr ⟨rfl, o.store.medium, by rw [failed]⟩

/-- The chain has lost its current version: all its rows were retired and saved, but the document
    with the row after them was refused. -/
structure CutShort (uuid : String) (o o' : Office m) (e : ServiceError) : Prop where
  retired : o'.store.document = ((retire uuid).apply o.now [] o.store.document).2
  refused : ∃ (next : Insert) (medium : m) (cause : StorageError), next.table = table ∧
    (Medium.save (next.apply o.now [] o'.store.document).2 medium).1 = .error cause ∧
    e = .internal cause

theorem CutShort.calculations {e : ServiceError} (cut : CutShort uuid o o' e) :
    o'.calculations = o.retired uuid := by
  rw [Office.calculations, cut.retired]
  exact (Change.table_update (retire uuid) _).trans (if_pos rfl)

/-- An edit that fails has done nothing, was cut short before its row, or after it. -/
theorem extend_ends (head : Calculation) (kunde : String) (input : CalculationInput)
    (caller : Caller) :
    Ends (extend head kunde input caller) o
      (fun _ o' => ∃ written, Reaches o (nextChanges o.store.document head kunde input) written ∧
        ∀ t ≠ Log.table, o'.store.document.table t = written.store.document.table t)
      fun e o' => o'.store.document = o.store.document ∨ CutShort head.uuid o o' e ∨
        ∃ sheets, sheets <+: LineItems.changes
            (.calculation (o.store.document.lastId table + 1)) input.kind input.items
            input.warehousing ∧
          Reaches o (rowChanges head kunde input ++ sheets) o' := by
  unfold extend
  refine ends_bind.mpr (ends_storage.mpr (ends_bind.mpr (Ends.commit ?_ fun _ _ => .inl rfl)))
  intro medium
  -- The chain is retired and saved. The ids are those from before, as no row was added.
  refine ends_pure.mpr (ends_bind.mpr (ends_storage.mpr ?_))
  have retired : Reaches o [.update (retire head.uuid)] (o.withStore _ medium) :=
    Reaches.withStore o _ medium
  have lastId : (o.withStore ((retire head.uuid).apply o.now [] o.store.document).2
      medium).store.document.lastId table = o.store.document.lastId table :=
    Change.lastId_update (retire head.uuid) table
  refine ends_bind.mpr (Ends.mono
    ((insertNumbered_performs row_distinct row_unnamed).and (insertNumbered_refused _)) ?_ ?_)
  · rintro id o₂ ⟨⟨⟨rfl, fits⟩, reached⟩, -⟩
    have started : Reaches o (rowChanges head kunde input) o₂ := retired.trans reached
    rw [row_table, lastId] at fits ⊢
    refine ends_bind.mpr
      (Ends.mono (LineItems.insertSheets_performs (.calculation _) fits ..) ?_ ?_)
    · rintro _ written ⟨-, stored⟩
      have done : Reaches o (nextChanges o.store.document head kunde input) written :=
        started.trans stored
      refine ends_pure.mpr (ends_bind.mpr (Ends.record (fun _ => ?_) fun _ => ?_))
      · exact ends_pure.mpr ⟨written, done, fun t ht =>
          (Change.table_insert _ t).trans (if_neg ht)⟩
      · exact ends_pure.mpr ⟨written, done, fun _ _ => rfl⟩
    · rintro e o' ⟨sheets, part, stored⟩
      exact .inr (.inr ⟨sheets, part, started.trans stored⟩)
  · -- A row that was stored but not returned is found all the same; one that was refused is not.
    rintro e o₂ ⟨-, reached | ⟨same, medium', failed⟩⟩
    · exact .inr (.inr ⟨[], List.nil_prefix, retired.trans reached⟩)
    · rw [← same] at failed
      refine .inr (.inl ⟨same, _, medium', e, ?_, failed, rfl⟩)
      rfl

/-- After an edit of a chain its latest version can be looked up, unless it was cut short or could
    not be looked up before. -/
theorem update_latest_ends (offerPrefix : String) (h : o.Sound) (empty : o.NoneBeyond)
    (few : fitsSigned (o.calculations.length + 1) = true) {row : Record} {id : Int}
    (edited : row ∈ o.store.document.chain uuid) (named : row.get? "id" = some (.int id))
    {input : CalculationInput} (given : LineItems.GivenFit input.items) (caller : Caller) :
    Ends (update offerPrefix id input caller) o
      (fun _ o' => (o'.store.document.latestDetail? uuid).isSome = true)
      fun e o' => o'.store.document = o.store.document ∨ CutShort uuid o o' e ∨
        (o'.store.document.latestDetail? uuid).isSome = true := by
  refine update_ends h.calculations (fun _ => .inl rfl) ?_
  rintro kunde head headRow valid isHead ⟨other, inChain, named'⟩
  -- The id names the edited row alone, so that the head is the one of its chain.
  obtain ⟨inTable, ofChain⟩ := Document.mem_chain.mp edited
  obtain ⟨inTable', ofHead⟩ := Document.mem_chain.mp inChain
  have few' : fitsSigned (o.store.document.table table).length = true := by
    rw [fitsSigned_iff] at few ⊢
    simp only [Office.calculations] at few
    omega
  obtain rfl : other = row := h.calculations.eq_of_isNamed few' inTable named inTable' named'
  obtain rfl : uuid = head.uuid := by simpa using ofChain.symm.trans ofHead
  have items := (validate_ok valid).2
  refine (extend_ends head kunde input caller).mono ?_ ?_
  · rintro _ o' ⟨written, reached, rest⟩
    have apart : ∀ t ∈ [table, "garment_data", "warehousing_data"], t ≠ Log.table := by decide
    rw [Document.latestDetail?_congr fun t ht => rest t (apart t ht)]
    exact isSome_latestDetail?_of_next h empty few isHead items given (List.prefix_refl _)
      reached
  · rintro e o' (unchanged | cut | ⟨sheets, part, reached⟩)
    · exact .inl unchanged
    · exact .inr (.inl cut)
    · exact .inr (.inr (isSome_latestDetail?_of_next h empty few isHead items given part reached))

end Calculations

/-! ## Runs -/

namespace Office

variable {m : Type} [Medium m] {offerPrefix uuid : String} {o o' : Office m}

/-- The latest version of a chain is found. -/
def Finds (offerPrefix uuid : String) (o : Office m) : Prop :=
  ∃ detail o', (Calculations.latest offerPrefix uuid).run.run o = (.ok detail, o')

theorem finds_iff (h : o.Sound) :
    Finds offerPrefix uuid o ↔ (o.store.document.latestDetail? uuid).isSome = true := by
  have latest := Calculations.latest_ends offerPrefix h uuid
  constructor
  · rintro ⟨detail, o', run⟩
    rw [(latest.of_ok run).1]
    rfl
  · intro found
    rcases run : (Calculations.latest offerPrefix uuid).run.run o with ⟨e | detail, o'⟩
    · rw [(latest.of_error run).1] at found
      cases found
    · exact ⟨detail, o', run⟩

theorem not_finds_of_latest? (h : o.Sound) (lost : o.store.document.latest? uuid = none) :
    ¬ Finds offerPrefix uuid o := by
  rw [finds_iff h, Document.latestDetail?, lost]
  exact Bool.false_ne_true

/-- Until the next edit, the latest version of a chain that has lost it is not found. -/
theorem notFound_of_cutShort {e : ServiceError} (h : o'.Sound)
    (cut : Calculations.CutShort uuid o o' e) :
    ∃ o'', (Calculations.latest offerPrefix uuid).run.run o' =
      (.error (Calculations.notFound uuid), o'') := by
  have lost := Calculations.latest?_of_retired cut.calculations
  have latest := Calculations.latest_ends offerPrefix h uuid
  rcases run : (Calculations.latest offerPrefix uuid).run.run o' with ⟨e | detail, o''⟩
  · rw [(latest.of_error run).2.1 lost]
    exact ⟨o'', rfl⟩
  · have found := (latest.of_ok run).1
    rw [Document.latestDetail?, lost] at found
    cases found

/-- Whatever was asked of a new office, and whichever saves fail, the latest version of a chain is
    found after an edit of any of its versions. If the edit fails, it is still found, unless the
    save that failed is the one of the row of the new version: then no row is current, and all else
    is as it was. -/
theorem latest_outlives_edits (h : o.IsNew) (rs : List Request)
    (few : fitsSigned (rs.length + 1) = true) (now : Instant) {row : Record} {id : Int}
    (edited : row ∈ (serveAll offerPrefix o rs).store.document.chain uuid)
    (named : row.get? "id" = some (.int id)) {input : CalculationInput}
    (given : LineItems.GivenFit input.items) (caller : Caller) :
    (∀ saved o', (Calculations.update offerPrefix id input caller).run.run
        ((serveAll offerPrefix o rs).setNow now) = (.ok saved, o') →
      ∀ now', Finds offerPrefix uuid (o'.setNow now')) ∧
    ∀ e o', (Calculations.update offerPrefix id input caller).run.run
        ((serveAll offerPrefix o rs).setNow now) = (.error e, o') →
      Finds offerPrefix uuid ((serveAll offerPrefix o rs).setNow now) →
      (∀ now', Finds offerPrefix uuid (o'.setNow now')) ∨
        Calculations.CutShort uuid ((serveAll offerPrefix o rs).setNow now) o' e ∧
          ∀ now', ∃ o'', (Calculations.latest offerPrefix uuid).run.run (o'.setNow now') =
            (.error (Calculations.notFound uuid), o'') := by
  obtain ⟨sound, keeps⟩ : (serveAll offerPrefix o rs).Sound ∧ Keeps o _ :=
    serveAll_keeps h.sound rs
  have before : ((serveAll offerPrefix o rs).setNow now).Sound := sound.setNow now
  have empty : ((serveAll offerPrefix o rs).setNow now).NoneBeyond :=
    (h.noneBeyond keeps : (serveAll offerPrefix o rs).NoneBeyond)
  have few' : fitsSigned ((serveAll offerPrefix o rs).calculations.length + 1) = true := by
    have fewRows := (serveAll_few offerPrefix h.sound rs).1
    have none : o.calculations.length = 0 := List.length_eq_zero_iff.mpr (h.isEmpty _).1
    rw [fitsSigned_iff] at few ⊢
    omega
  have ends := Calculations.update_latest_ends offerPrefix before empty few' edited named given
    caller
  have effect : Ends (Calculations.update offerPrefix id input caller)
      ((serveAll offerPrefix o rs).setNow now) (fun _ => Effect offerPrefix _)
      fun _ => Effect offerPrefix _ := update_effect before id input caller
  refine ⟨fun saved o' run now' => ?_, fun e o' run found => ?_⟩
  · have sound' : o'.Sound := before.effect (effect.of_ok run)
    have stored := ends.of_ok run
    exact (finds_iff (sound'.setNow now')).mpr stored
  · have sound' : o'.Sound := before.effect (effect.of_error run)
    rcases ends.of_error run with unchanged | cut | stored
    · refine .inl fun now' => (finds_iff (sound'.setNow now')).mpr ?_
      exact (congrArg (fun doc => (doc.latestDetail? uuid).isSome) unchanged).trans
        ((finds_iff before).mp found)
    · refine .inr ⟨cut, fun now' => ?_⟩
      exact notFound_of_cutShort (sound'.setNow now') ⟨cut.retired, cut.refused⟩
    · exact .inl fun now' => (finds_iff (sound'.setNow now')).mpr stored

/-- The medium takes three documents for the calculation, and one for the end of its being current.
    The row after it is not saved. -/
theorem edit_fails_between_saves :
    ∃ row e o', row ∈ (serveAll "FHD" (withSaves 4) dayBefore).store.document.chain "" ∧
      row.get? "id" = some (.int 1) ∧
      Finds "FHD" "" ((serveAll "FHD" (withSaves 4) dayBefore).setNow 86400000) ∧
      (Calculations.update "FHD" 1 emptyCalculation somebody).run.run
        ((serveAll "FHD" (withSaves 4) dayBefore).setNow 86400000) = (.error e, o') ∧
      ¬ Finds "FHD" "" o' := by
  have sound : ((serveAll "FHD" (withSaves 4) dayBefore).setNow 86400000).Sound :=
    (serveAll_keeps (isNew_opened _ 0).sound dayBefore).1.setNow 86400000
  have evaluated :
      ((serveAll "FHD" (withSaves 4) dayBefore).store.document.chain "").any
        (fun row => row.get? "id" = some (.int 1)) = true ∧
      (((serveAll "FHD" (withSaves 4) dayBefore).setNow 86400000).store.document.latestDetail?
        "").isSome = true ∧
      ((Calculations.update "FHD" 1 emptyCalculation somebody).run.run
        ((serveAll "FHD" (withSaves 4) dayBefore).setNow 86400000)).1.isOk = false ∧
      ((Calculations.update "FHD" 1 emptyCalculation somebody).run.run
        ((serveAll "FHD" (withSaves 4) dayBefore).setNow 86400000)).2.store.document.latest? "" =
          none := by
    decide +kernel
  obtain ⟨stored, shown, failed, lost⟩ := evaluated
  obtain ⟨row, edited, named⟩ := List.any_eq_true.mp stored
  obtain ⟨e, run⟩ := exists_of_error failed
  have sound' := sound.effect ((update_effect sound 1 emptyCalculation somebody).of_error run)
  exact ⟨row, e, _, edited, of_decide_eq_true named, (finds_iff sound).mpr shown, run,
    not_finds_of_latest? sound' lost⟩

theorem latest_not_found_after_failed_edit :
    ∃ e o', (Calculations.update "FHD" 1 emptyCalculation somebody).run.run
        ((serveAll "FHD" (withSaves 4) dayBefore).setNow 86400000) = (.error e, o') ∧
      Calculations.CutShort "" ((serveAll "FHD" (withSaves 4) dayBefore).setNow 86400000) o' e ∧
      ∀ now', ∃ o'', (Calculations.latest "FHD" "").run.run (o'.setNow now') =
        (.error (Calculations.notFound ""), o'') := by
  obtain ⟨row, e, o', edited, named, found, run, lost⟩ := edit_fails_between_saves
  refine ⟨e, o', run, ?_⟩
  rcases (@latest_outlives_edits Memory _ "FHD" "" (withSaves 4) (isNew_opened _ 0) dayBefore
    (by decide) 86400000 row 1 edited named emptyCalculation
    (by simp [LineItems.GivenFit, emptyCalculation, calculationOf]) somebody).2 e o' run found
    with finds | cut
  · exact absurd (finds o'.now) lost
  · exact cut

/-- An edit that fails can make a calculation disappear. -/
theorem latest_lost_between_saves :
    ¬ ∀ (o : Office Memory) (rs : List Request) (now : Instant) (uuid : String) (row : Record)
      (id : Int) (input : CalculationInput) (caller : Caller) (e : ServiceError)
      (o' : Office Memory), o.IsNew → row ∈ (serveAll "FHD" o rs).store.document.chain uuid →
      row.get? "id" = some (.int id) → Finds "FHD" uuid ((serveAll "FHD" o rs).setNow now) →
      (Calculations.update "FHD" id input caller).run.run ((serveAll "FHD" o rs).setNow now) =
        (.error e, o') → Finds "FHD" uuid o' := by
  intro keeps
  obtain ⟨row, e, o', edited, named, found, run, lost⟩ := edit_fails_between_saves
  exact lost (keeps (withSaves 4) dayBefore 86400000 "" row 1 emptyCalculation somebody e o'
    (isNew_opened _ 0) edited named found run)

end Office

end OfferBook
