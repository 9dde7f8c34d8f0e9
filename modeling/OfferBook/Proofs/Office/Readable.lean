import OfferBook.Proofs.Office.Telling
import OfferBook.Proofs.Office.Typing
import OfferBook.Proofs.Sheets.Frozen
import OfferBook.Proofs.Text.Characters

/-! # What is stored can be read

* `Document.Holds`, `Document.HoldsChain` — the ids and the chains that are stored.
* `Office.calculations_get_tells`, `Office.versions_tells`, … — how the services that read end where
  all rows are well-typed.
* `Office.Readable` — no row can hide another one: every list, every look-up and the export.
* `Office.stored_data_stays_readable` — this holds after any requests to a new office.
-/

namespace OfferBook

/-! ## Ids and chains -/

/-- Whether a row of a table has an id. -/
def Document.Holds (doc : Document) (t : String) (id : Int) : Prop :=
  ∃ row ∈ doc.table t, row.get? "id" = some (.int id)

/-- Whether a text stands for a chain: it is the id of one of its rows, or it names the chain. -/
def Document.HoldsChain (doc : Document) (idOrUuid : String) : Prop :=
  (∃ id, parseSigned? (Text.trimChars idOrUuid.toList) = some id ∧
    doc.Holds Calculations.table id) ∨
  parseSigned? (Text.trimChars idOrUuid.toList) = none ∧ doc.chain idOrUuid ≠ []

theorem Regular.fits_of_holds {form : Form} {t : String} {doc : Document} {id : Int}
    (h : Regular form t doc) (fits : doc.CountersFit) (held : doc.Holds t id) :
    fitsSigned id = true := by
  obtain ⟨row, there, named⟩ := held
  obtain ⟨id', named', fits⟩ := h.exists_id_fits fits there
  rw [named', Json.int, Json.int, Option.some.injEq, Json.number.injEq, Number.int.injEq] at named
  exact named ▸ fits

/-- A row with the id that is asked for is found. -/
theorem Regular.rows_named_ne_nil {form : Form} {t : String} {doc : Document} {now : Instant}
    {id : Int} (h : Regular form t doc) (fits : doc.CountersFit) (held : doc.Holds t id) :
    (Select.matching t [.is "id" (.int id)]).rows now [] doc ≠ [] := by
  have fits := h.fits_of_holds fits held
  obtain ⟨row, there, named⟩ := held
  rw [Select.rows_matching]
  refine List.ne_nil_of_mem (List.mem_filter.mpr ⟨there, ?_⟩)
  change (Json.matchesValue (row.get? "id") (.int id) && true) = true
  rw [named, Json.matchesValue_int fits fits, Bool.and_true, decide_eq_true_iff]

theorem Document.holdsChain_intText {doc : Document} {id : Int}
    (held : doc.Holds Calculations.table id) (fits : fitsSigned id = true) :
    doc.HoldsChain (intText id) := .inl ⟨id, parseSigned?_intText fits, held⟩

/-- The rows of a chain are found together with their creators. -/
theorem Calculations.rows_versions_ne_nil {doc : Document} {now : Instant} {uuid : String}
    {row : Record} (mem : row ∈ doc.chain uuid) :
    (Creators.joined table "c" [Creators.name]
      [.equals ⟨some "c", "calculation_uuid"⟩ (.literal (.text uuid))] "version").rows now [] doc ≠
        [] := by
  obtain ⟨there, named⟩ := Document.mem_chain.mp mem
  refine List.ne_nil_of_mem (Creators.shown_mem_rows there ?_)
  change (Json.matchesValue (Dict.get? _ "calculation_uuid") (.text uuid) && true) = true
  rw [Creators.get?_shown ⟨.inl rfl, .inl rfl⟩ (by decide), named]
  simp [Json.matchesValue_text ⟨uuid, rfl⟩]

namespace Office

variable {m α : Type} {o : Office m} (h : o.store.document.WellTyped)

include h

/-! ## Rows with an id -/

theorem calculations_require_tells (id : Int) :
    Tells (Calculations.require id) o
      (fun c => ∃ row ∈ o.store.document.table Calculations.table, Calculation.Shown row c)
      fun e => (∃ what, e = .notFound what) ∧
        ¬ o.store.document.Holds Calculations.table id := by
  refine (Tells.storage (.matching fun _ => h.calculation)).bind fun found told => ?_
  cases found with
  | some c =>
    obtain ⟨row, there, read⟩ := told.1 c rfl
    exact .pure ⟨row, there, Calculations.shown_of_mem h.calculations there read⟩
  | none =>
    exact .throw ⟨⟨_, rfl⟩, fun held => h.calculations.rows_named_ne_nil h.fits held (told.2 rfl)⟩

theorem offers_require_tells (id : Int) :
    Tells (Offers.require id) o
      (fun offer => ∃ row ∈ o.store.document.table Offers.table, Offer.Shown row offer)
      fun e => (∃ what, e = .notFound what) ∧ ¬ o.store.document.Holds Offers.table id := by
  refine (Tells.storage (.matching fun _ => h.offer)).bind fun found told => ?_
  cases found with
  | some offer =>
    obtain ⟨row, there, read⟩ := told.1 offer rfl
    obtain ⟨k, id, -⟩ := h.offers.exists_id there
    exact .pure ⟨row, there, Offer.shown (h.offers.admits row there) id read⟩
  | none => exact .throw ⟨⟨_, rfl⟩, fun held => h.offers.rows_named_ne_nil h.fits held (told.2 rfl)⟩

theorem sheets_tells (w : Owner) (kind : SheetKind) :
    Tells (LineItems.sheets w kind) o (fun _ => True) fun _ => False := by
  cases kind with
  | garment =>
    exact (Tells.selectAll (Select.read_rows fun _ => h.item)).bind fun _ _ => .any
  | warehousing =>
    refine (Tells.selectFirst (P := fun _ => True) (fun row _ => ?_) fun _ => trivial).bind
      fun _ _ => .any
    exact (CostSheet.exists_ofRecord? row).imp fun _ read => ⟨read, trivial⟩

/-! ## Calculations -/

theorem calculations_list_succeeds : Succeeds Calculations.list o :=
  (Tells.storage (.selectAll (Select.read_rows fun _ =>
    h.calculation_shown ⟨.inl rfl, .inl rfl⟩))).succeeds

theorem chainOf_tells (idOrUuid : String) :
    Tells (Calculations.chainOf idOrUuid) o
      (fun uuid => o.store.document.HoldsChain idOrUuid → o.store.document.chain uuid ≠ [])
      fun e => (∃ what, e = .notFound what) ∧ ¬ o.store.document.HoldsChain idOrUuid := by
  unfold Calculations.chainOf Document.HoldsChain
  cases parseSigned? (Text.trimChars idOrUuid.toList) with
  | some id =>
    simp only [Option.some.injEq, exists_eq_left', reduceCtorEq, false_and, or_false]
    refine (calculations_require_tells h id).bind fun c ⟨row, there, shown⟩ => .pure fun _ => ?_
    exact List.ne_nil_of_mem (Document.mem_chain.mpr ⟨there, shown.uuid⟩)
  | none => exact .pure fun held => (held.resolve_left nofun).2

theorem versions_tells (idOrUuid : String) :
    Tells (Calculations.versions idOrUuid) o (fun _ => True)
      fun e => (∃ what, e = .notFound what) ∧ ¬ o.store.document.HoldsChain idOrUuid := by
  refine (chainOf_tells h idOrUuid).bind fun uuid held => ?_
  refine (Tells.storage (.selectAll (Select.read_rows fun _ =>
    h.calculation_shown ⟨.inl rfl, .inl rfl⟩))).bind fun found length => ?_
  dsimp only
  split
  · next empty =>
    refine Tells.bind (Q := fun _ => True) (.throw ⟨⟨_, rfl⟩, fun holds => ?_⟩) fun _ _ => .any
    -- All rows that are found are read, so that an empty list means that none was found.
    obtain ⟨row, mem⟩ := List.exists_mem_of_ne_nil _ (held holds)
    rw [List.isEmpty_iff.mp empty] at length
    exact Calculations.rows_versions_ne_nil mem (List.length_eq_zero_iff.mp length.symm)
  · exact .any

section Details

variable [Medium m] {offerPrefix : String}

theorem calculations_detail_tells {c : Calculation} {row : Record}
    (shown : Calculation.Shown row c) :
    Tells (Calculations.detail offerPrefix c) o (fun _ => True) fun _ => False := by
  unfold Calculations.detail
  rw [Calculations.backfill_eq shown]
  exact Tells.any.bind fun _ _ => (sheets_tells h _ _).bind fun _ _ => .any

theorem calculations_get_tells (id : Int) :
    Tells (Calculations.get offerPrefix id) o (fun _ => True) fun e =>
      (∃ what, e = .notFound what) ∧ ¬ o.store.document.Holds Calculations.table id :=
  (calculations_require_tells h id).bind fun _ ⟨_, _, shown⟩ =>
    .storage (calculations_detail_tells h shown)

theorem latest_searches (uuid : String) : Searches (Calculations.latest offerPrefix uuid) o := by
  refine Tells.searches (P := fun _ => True)
    ((Tells.storage (.matching fun _ => h.calculation)).bind fun found told => ?_)
  cases found with
  | some c =>
    obtain ⟨row, there, read⟩ := told.1 c rfl
    exact .storage (calculations_detail_tells h
      (Calculations.shown_of_mem h.calculations there read))
  | none => exact .throw ⟨_, rfl⟩

end Details

/-! ## Offers -/

theorem offers_list_succeeds : Succeeds Offers.list o :=
  (Tells.storage (.selectAll (Select.read_rows fun _ =>
    h.offer_shown ⟨.inr rfl, .inl rfl⟩))).succeeds

theorem offers_get_tells [Medium m] {offerPrefix : String} (id : Int) :
    Tells (Offers.get offerPrefix id) o (fun _ => True) fun e =>
      (∃ what, e = .notFound what) ∧ ¬ o.store.document.Holds Offers.table id := by
  refine (offers_require_tells h id).bind fun offer ⟨row, _, shown⟩ => .storage ?_
  unfold Offers.detail
  rw [Offers.backfill_eq shown]
  exact Tells.any.bind fun _ _ => (sheets_tells h _ _).bind fun _ _ => .any

/-! ## Accounts and the log -/

theorem findActive_succeeds (id : String) : Succeeds (Accounts.findActive id) o := by
  rw [Accounts.findActive_eq]
  exact ((Tells.matching fun _ => h.account).bind fun _ _ => .any).succeeds

theorem firstActiveAdmin_succeeds : Succeeds Accounts.firstActiveAdmin o := by
  rw [Accounts.firstActiveAdmin_eq]
  exact ((Tells.matching fun _ => h.account).bind fun _ _ => .any).succeeds

theorem logPage_succeeds (limit offset : Nat) : Succeeds (Log.page limit offset) o := by
  refine Tells.succeeds (P := fun _ => True) ((Tells.selectAll (Select.read_rows fun _ =>
    h.entry)).bind fun _ _ => ?_)
  exact Tells.bind (Q := fun _ => True) (ends_document.mpr ⟨trivial, rfl⟩) fun _ _ => .any

theorem logAll_tells : Tells Log.all o (fun _ => True) fun _ => False :=
  (Tells.selectAll (Select.read_rows fun _ => h.entry)).mono (fun _ _ => trivial) fun _ => id

/-! ## The export -/

omit h in
theorem children_tells {ofRecord? : Record → Option α} {t column : String}
    (read : ∀ row ∈ o.store.document.table t, ∃ a, ofRecord? row = some a) :
    Tells (Admin.children ofRecord? t column) o (fun _ => True) fun _ => False := by
  refine Tells.bind (Q := fun rows => ∀ row ∈ rows, ∃ a, ofRecord? row = some a)
    (.select (Select.read_rows read)) fun rows found => ?_
  refine (Tells.mapM ?_).mono (fun _ _ => trivial) fun _ => id
  rintro ⟨id, row⟩ mem
  obtain ⟨row', there, owned⟩ := List.mem_filterMap.mp mem
  obtain ⟨_, -, same⟩ := Option.map_eq_some_iff.mp owned
  obtain rfl : row' = row := congrArg Prod.snd same
  obtain ⟨a, hread⟩ := found row' there
  exact (Tells.read hread).bind fun _ _ => .any

omit h in
theorem exists_exportRows {ofRecord? : Record → Option α} (idOf : α → Int) {rows : List Record}
    (read : ∀ row ∈ rows, ∃ a, ofRecord? row = some a) (garments : Admin.Owned GarmentItem)
    (services : Admin.Owned Warehousing) :
    ∃ exported, Admin.exportRows ofRecord? idOf garments services rows = some exported := by
  induction rows generalizing garments services with
  | nil => exact ⟨[], rfl⟩
  | cons row rest ih =>
    obtain ⟨a, first⟩ := read row List.mem_cons_self
    obtain ⟨others, hothers⟩ := ih (fun row mem => read row (List.mem_cons_of_mem _ mem))
      (Admin.takeOwned (idOf a) garments).2 (Admin.takeOwned (idOf a) services).2
    simp only [Admin.exportRows, first, bind, Option.bind_some, hothers]
    exact ⟨_, rfl⟩

theorem exportTable_tells {ofRecord? : Record → Option α} (idOf : α → Int) {t shortName : String}
    (w : Owner) (read : ∀ row ∈ o.store.document.table t, ∃ a, ofRecord? ((Creators.joined t
      shortName [Creators.name, Creators.email] [] "id").shown o.store.document row) = some a) :
    Tells (Admin.exportTable ofRecord? idOf t shortName w) o (fun _ => True) fun _ => False := by
  refine (children_tells fun _ => h.item).bind fun garments _ => ?_
  refine (children_tells fun row _ => CostSheet.exists_ofRecord? row).bind fun services _ => ?_
  refine Tells.bind (Q := fun rows => ∀ row ∈ rows, ∃ a, ofRecord? row = some a)
    (.select (Select.read_rows read)) fun rows found => ?_
  obtain ⟨exported, hexported⟩ := exists_exportRows idOf found garments services
  rw [hexported]
  exact .any

/-- The export is told of in the log, and returned whether or not that can be stored. -/
theorem exportAll_ok [Medium m] {caller : Caller} (admin : caller.isAdmin = true) :
    ∃ exported o', (Admin.exportAll caller).run.run o = (.ok exported, o') := by
  have asked : Admin.requireAdmin caller = .ok () := if_pos admin
  have ends : Ends (Admin.exportAll caller) o (fun _ _ => True) fun _ _ => False := by
    unfold Admin.exportAll
    rw [asked]
    refine ends_bind.mpr (ends_lift.mpr ?_)
    refine (Tells.storage (exportTable_tells h _ _ fun _ =>
      h.calculation_shown ⟨.inl rfl, .inr rfl⟩)).ends_bind fun calculations _ => ?_
    refine (Tells.storage (exportTable_tells h _ _ fun _ =>
      h.offer_shown ⟨.inr rfl, .inr rfl⟩)).ends_bind fun offers _ => ?_
    refine (Tells.storage (logAll_tells h)).ends_bind fun logs _ => ?_
    -- The entry of the log is stored or dropped; the date is that of the office.
    refine ends_bind.mpr (Ends.record (fun _ => ?_) fun _ => ?_) <;>
      exact ends_bind.mpr (ends_get.mpr (ends_pure.mpr trivial))
  exact ends.exists_ok.imp fun _ => Exists.imp fun _ => And.left

/-! ## Everything -/

omit h

/-- No row keeps another one from being read. Whatever is looked up, the office stays as it is:
    the document is not changed, and the medium is not asked to save anything. -/
structure Readable [Medium m] (offerPrefix : String) (o : Office m) : Prop where
  calculations : Succeeds Calculations.list o
  offers : Succeeds Offers.list o
  page : ∀ limit offset, Succeeds (Log.page limit offset) o
  log : Succeeds Log.all o
  active : ∀ id, Succeeds (Accounts.findActive id) o
  admin : Succeeds Accounts.firstActiveAdmin o
  found : ∀ id, Searches (Calculations.get offerPrefix id) o
  latest : ∀ uuid, Searches (Calculations.latest offerPrefix uuid) o
  history : ∀ idOrUuid, Searches (Calculations.versions idOrUuid) o
  offered : ∀ id, Searches (Offers.get offerPrefix id) o
  /-- Each calculation that is stored is found, and so is its history. -/
  stored : ∀ id, o.store.document.Holds Calculations.table id →
    Succeeds (Calculations.get offerPrefix id) o ∧ Succeeds (Calculations.versions (intText id)) o
  chains : ∀ idOrUuid, o.store.document.HoldsChain idOrUuid →
    Succeeds (Calculations.versions idOrUuid) o
  storedOffers : ∀ id, o.store.document.Holds Offers.table id →
    Succeeds (Offers.get offerPrefix id) o
  /-- The export leaves an entry in the log, if that can be saved. -/
  exported : ∀ caller : Caller, caller.isAdmin = true →
    ∃ exported o', (Admin.exportAll caller).run.run o = (.ok exported, o')

variable [Medium m] {offerPrefix : String}

/-- What all rows being well-typed makes of the services. -/
theorem readable (h : o.store.document.WellTyped) : Readable offerPrefix o where
  calculations := calculations_list_succeeds h
  offers := offers_list_succeeds h
  page := logPage_succeeds h
  log := (logAll_tells h).succeeds
  active := findActive_succeeds h
  admin := firstActiveAdmin_succeeds h
  found id := ((calculations_get_tells h id).mono (fun _ told => told) fun _ => And.left).searches
  latest := latest_searches h
  history s := ((versions_tells h s).mono (fun _ told => told) fun _ => And.left).searches
  offered id := ((offers_get_tells h id).mono (fun _ told => told) fun _ => And.left).searches
  stored id held := ⟨(calculations_get_tells h id).succeeds_of held,
    (versions_tells h (intText id)).succeeds_of
      (Document.holdsChain_intText held (h.calculations.fits_of_holds h.fits held))⟩
  chains s held := (versions_tells h s).succeeds_of held
  storedOffers id held := (offers_get_tells h id).succeeds_of held
  exported _ := exportAll_ok h

/-- Whatever is asked of a new office, and whichever saves fail, what it stores can be read, also
    by an office over another medium. The integers handed in fit into words, and so do the ids. -/
theorem stored_data_stays_readable (h : o.IsNew) (rs : List Request)
    (words : ∀ r ∈ rs, r.call.InWords)
    (fits : (serveAll offerPrefix o rs).store.document.CountersFit) {n : Type} [Medium n]
    {reader : Office n} (same : reader.store.document = (serveAll offerPrefix o rs).store.document)
    (readerPrefix : String) : Readable readerPrefix reader := by
  have sound : (serveAll offerPrefix o rs).Sound :=
    serveAll_induction (n := 0) (P := fun _ o => o.Sound) h.sound (fun _ _ r h => h.serve r) rs
  have tidy : (serveAll offerPrefix o rs).store.document.Tidy True :=
    serveAll_tidy h.sound (h.isEmpty.tidy _) rs fun _ => words
  exact readable (same ▸ ⟨sound.calculations, sound.offers, tidy, fits⟩)

/-- A calculation of a garment, an offer, and an edit of the calculation. -/
def offerBeforeEdit : List Request :=
  [⟨0, .createCalculation (calculationOf [pricedGarment none "7"]) somebody⟩,
   ⟨3600000, .createOffer emptyOffer somebody⟩,
   ⟨86400000, .updateCalculation 1 emptyCalculation somebody⟩]

/-- The medium is full once the edit has retired the first version, so that the chain has no
    current one. -/
theorem data_readable_where_medium_is_full :
    (serveAll "FHD" (withSaves 8) offerBeforeEdit).store.medium.allowance = some 0 ∧
    (serveAll "FHD" (withSaves 8) offerBeforeEdit).calculations.length = 1 ∧
    Readable "FHD" (serveAll "FHD" (withSaves 8) offerBeforeEdit) := by
  have reached : (serveAll "FHD" (withSaves 8) offerBeforeEdit).store.medium.allowance = some 0 ∧
      (serveAll "FHD" (withSaves 8) offerBeforeEdit).calculations.length = 1 ∧
      ∀ e ∈ (serveAll "FHD" (withSaves 8) offerBeforeEdit).store.document.counters.entries,
        fitsSigned e.2 = true := by
    decide +kernel
  have new : (withSaves 8).IsNew := isNew_opened _ 0
  have words : ∀ r ∈ offerBeforeEdit, r.call.InWords := by
    simp [offerBeforeEdit, Call.InWords, LineItems.GivenFit, calculationOf, pricedGarment,
      emptyCalculation, emptyOffer]
  exact ⟨reached.1, reached.2.1, stored_data_stays_readable new offerBeforeEdit words
    (Document.countersFit_iff.mpr reached.2.2) rfl "FHD"⟩

end Office

end OfferBook
