import OfferBook.Proofs.Calculations.Legacy
import OfferBook.Proofs.Sheets.Grouped

/-! # What an export contains

An export shows what the services tell of calculations and offers.

* `Admin.Listed` — what calculations and offers have in common where they are exported.
* `Admin.Exports.once` — each row of their tables is exported once.
* `Admin.export_contains_what_is_told` — the sheets of an owner are those that are told of it, if
  the rows of its sheets name it by its integer.
* `Admin.owner_as_text_is_not_exported` — elsewhere an export lacks sheets that are told.
-/

namespace OfferBook

open Office

/-! ## What is told -/

/-- What is told of an id is the row that has it, with the sheets of the id that is read from it. -/
theorem Calculations.get_finds {m : Type} [Medium m] {o : Office m} {offerPrefix : String}
    (id : Int) :
    Ends (get offerPrefix id) o
      (fun told _ => ∃ row c, o.store.document.named? table id = some row ∧
        Calculation.ofRecord? row = some c ∧
        o.store.document.sheets? (.calculation c.id) c.kind = some told.sheets)
      fun _ _ => True := by
  refine get_ends_of (fun _ => trivial) fun row c named read => ?_
  refine ends_storage.mpr ((detail_ends c).mono ?_ fun _ _ _ => trivial)
  rintro told o' ⟨⟨-, found⟩, -⟩
  exact ⟨row, c, named, read, found⟩

/-- What is told of an id is the row that has it, with the sheets of the id. -/
theorem Offers.get_finds {m : Type} [Medium m] {o : Office m} {offerPrefix : String} (id : Int) :
    Ends (get offerPrefix id) o
      (fun told _ => ∃ row offer, o.store.document.named? table id = some row ∧
        Offer.ofRecord? row = some offer ∧
        o.store.document.sheets? (.offer id) offer.kind = some told.sheets)
      fun _ _ => True := by
  refine get_ends_of (fun _ => trivial) fun row offer named read => ?_
  refine ends_storage.mpr ((detail_ends id offer).mono ?_ fun _ _ _ => trivial)
  exact fun told o' found => ⟨row, offer, named, read, found⟩

/-! ## What is exported -/

namespace Admin

/-- Rows that are exported with the names of their creators, and told by their ids. -/
structure Listed {α : Type} (t shortName : String) (ofRecord? : Record → Option α)
    (idOf : α → Int) (kindOf : α → SheetKind) (unnamed : α → α) : Prop where
  read : ∀ row x, ofRecord? row = some x → ofRecord? row.unnamed = some (unnamed x)
  shown : ∀ doc row, ofRecord? ((Creators.listing t shortName).shown doc row).unnamed =
    ofRecord? row.unnamed
  id : ∀ row x, ofRecord? row = some x → (row.get? "id").bind Json.signed? = some (idOf x)
  same : ∀ x, idOf (unnamed x) = idOf x ∧ kindOf (unnamed x) = kindOf x

theorem calculations_listed : Listed Calculations.table "c" Calculation.ofRecord?
    Calculation.id Calculation.kind Calculation.unnamed where
  read _ _ := Calculation.ofRecord?_unnamed
  shown _ row := Creators.unnamed_shown Calculation.readsOnly ⟨.inl rfl, .inr rfl⟩
    Creators.calculation_stays row
  id _ _ read := Fields.required_entries.symm.trans (Calculation.reads_of_ofRecord? read).id
  same _ := ⟨rfl, rfl⟩

theorem offers_listed : Listed Offers.table "o" Offer.ofRecord? Offer.id Offer.kind
    Offer.unnamed where
  read _ _ := Offer.ofRecord?_unnamed
  shown _ row := Creators.unnamed_shown Offer.readsOnly ⟨.inr rfl, .inr rfl⟩
    Creators.offer_stays row
  id _ _ read := Fields.required_entries.symm.trans (Offer.reads_of_ofRecord? read).id
  same _ := ⟨rfl, rfl⟩

variable {α m : Type} {o : Office m} {t shortName : String} {ofRecord? : Record → Option α}
  {idOf : α → Int} {kindOf : α → SheetKind} {unnamed : α → α} {w : Owner}
  {exported : List (Exported α)}

/-- The rows of an export are those of the table in some order, with their creators. -/
theorem listing_perm (doc : Document) (now : Instant) (t shortName : String) :
    ((Creators.listing t shortName).rows now [] doc).Perm
      ((doc.table t).map ((Creators.listing t shortName).shown doc)) := by
  rw [Creators.listing, Creators.rows_joined]
  refine (OrderBy.sort_perm _).trans (List.Perm.of_eq ?_)
  exact List.filter_eq_self.mpr fun _ _ => rfl

/-- Each row is exported once, with the name of its creator. -/
theorem Exports.once (h : Exports o ofRecord? idOf t shortName w exported)
    (listed : Listed t shortName ofRecord? idOf kindOf unnamed) :
    (exported.map fun x => some (unnamed x.row)).Perm
      ((o.store.document.table t).map fun row => ofRecord? row.unnamed) := by
  have rows := (List.Perm.of_eq h.rows).trans
    ((listing_perm o.store.document o.now t shortName).map ofRecord?)
  rw [List.map_map] at rows
  have named : (o.store.document.table t).map (fun row => ofRecord? row.unnamed) =
      ((o.store.document.table t).map
        (ofRecord? ∘ (Creators.listing t shortName).shown o.store.document)).map
          (Option.map unnamed) := by
    rw [List.map_map]
    refine List.map_congr_left fun row mem => ?_
    obtain ⟨x, -, read⟩ := List.mem_map.mp (rows.mem_iff.mpr (List.mem_map_of_mem mem))
    rw [Function.comp_apply, ← read, Option.map_some, ← listed.shown o.store.document row,
      listed.read _ _ read.symm]
  rw [named]
  refine (List.Perm.of_eq ?_).trans (rows.map (Option.map unnamed))
  rw [List.map_map]
  rfl

variable (h : Exports o ofRecord? idOf t shortName w exported)
  (listed : Listed t shortName ofRecord? idOf kindOf unnamed)
  (distinct : ((o.store.document.table t).map (·.get? "id")).Nodup)

include listed in
/-- What is read without the name of its creator has the id of the row. -/
theorem Listed.id_of_unnamed {row : Record} {x : α}
    (read : ofRecord? row.unnamed = some (unnamed x)) :
    row.get? "id" = some (.int (idOf x)) ∧ fitsSigned (idOf x) = true := by
  have id := listed.id _ _ read
  rw [Record.get?_unnamed (by decide), (listed.same x).1] at id
  obtain ⟨v, stored, id⟩ := Option.bind_eq_some_iff.mp id
  obtain ⟨rfl, fits⟩ := Json.eq_int_of_signed? id
  exact ⟨stored, fits⟩

include h listed in
theorem Exports.exists_row {x : Exported α} (mem : x ∈ exported) :
    ∃ row ∈ o.store.document.table t, ofRecord? row.unnamed = some (unnamed x.row) :=
  List.mem_map.mp ((h.once listed).mem_iff.mp (List.mem_map_of_mem mem))

include h listed in
theorem Exports.exists_entry {row : Record} (mem : row ∈ o.store.document.table t) :
    ∃ x ∈ exported, ofRecord? row.unnamed = some (unnamed x.row) := by
  obtain ⟨x, among, read⟩ :=
    List.mem_map.mp ((h.once listed).mem_iff.mpr (List.mem_map_of_mem mem))
  exact ⟨x, among, read.symm⟩

include h listed distinct in
/-- The ids of what is exported are distinct if those of the rows are. -/
theorem Exports.nodup : (exported.map fun x => idOf x.row).Nodup := by
  have ids := (h.once listed).map (Option.map fun x => Json.int (idOf x))
  rw [List.map_map, List.map_map] at ids
  have stored : (o.store.document.table t).map (·.get? "id") =
      (o.store.document.table t).map
        ((Option.map fun x => Json.int (idOf x)) ∘ fun row => ofRecord? row.unnamed) := by
    refine List.map_congr_left fun row mem => ?_
    obtain ⟨x, -, read⟩ := h.exists_entry listed mem
    rw [(listed.id_of_unnamed read).1, Function.comp_apply, read, Option.map_some,
      (listed.same x.row).1]
  have apart := (ids.trans (List.Perm.of_eq stored.symm)).nodup_iff.mpr distinct
  refine List.Nodup.of_map (fun id => some (Json.int id)) ?_
  rw [List.map_map]
  refine (List.Perm.of_eq (List.map_congr_left fun x _ => ?_)).nodup_iff.mp apart
  simp [(listed.same x.row).1]

include h listed distinct in
/-- What is told by the id of an entry is the row of this entry. -/
theorem Exports.told {x : Exported α} (mem : x ∈ exported) {row : Record} {a : α}
    (named : o.store.document.named? t (idOf x.row) = some row) (read : ofRecord? row = some a) :
    idOf a = idOf x.row ∧ kindOf a = kindOf x.row := by
  obtain ⟨stored, there, readStored⟩ := h.exists_row listed mem
  have there' : row ∈ o.store.document.table t := List.mem_of_find?_eq_some named
  have asked : Calculations.isNamed (idOf x.row) row = true := List.find?_some named
  have unnamedRead := listed.read _ _ read
  obtain ⟨id, fits⟩ := listed.id_of_unnamed unnamedRead
  obtain ⟨id', fits'⟩ := listed.id_of_unnamed readStored
  have same : idOf a = idOf x.row := by
    rw [Calculations.isNamed, id, Json.matchesValue_int fits fits'] at asked
    exact of_decide_eq_true asked
  -- Ids are distinct, so that both rows are the same one.
  obtain rfl : row = stored :=
    List.inj_on_of_nodup_map distinct there' there (by rw [id, id', same])
  have alike := Option.some.inj (unnamedRead.symm.trans readStored)
  refine ⟨same, ?_⟩
  rw [← (listed.same a).2, alike, (listed.same x.row).2]

include h listed distinct in
/-- The sheets of an entry are those of the owner that it shows. -/
theorem Exports.alike {x : Exported α} (mem : x ∈ exported)
    (assigns : o.store.document.Assigns (w.withId (idOf x.row))) {told : Sheets}
    (found : o.store.document.sheets? (w.withId (idOf x.row)) (kindOf x.row) = some told) :
    x.sheets.Alike (kindOf x.row) told := by
  obtain ⟨row, -, read⟩ := h.exists_row listed mem
  have fits : fitsSigned (w.withId (idOf x.row)).id = true := by
    rw [Owner.withId_id]
    exact (listed.id_of_unnamed read).2
  exact assigns.alike fits (h.sheets (h.nodup listed distinct) x mem) found

/-! ## Everything -/

theorem exportAll_ends [Medium m] (caller : Caller) :
    Ends (exportAll caller) o
      (fun e _ => Exports o Calculation.ofRecord? Calculation.id Calculations.table "c"
          (.calculation 0) e.calculations ∧
        Exports o Offer.ofRecord? Offer.id Offers.table "o" (.offer 0) e.offers)
      fun _ _ => True := by
  refine ends_bind.mpr (ends_lift.mpr ?_)
  split
  · refine ends_bind.mpr (ends_storage.mpr ((exportTable_ends ..).mono ?_ fun _ _ _ => trivial))
    rintro calculations o' ⟨hcalculations, rfl⟩
    refine ends_bind.mpr (ends_storage.mpr ((exportTable_ends ..).mono ?_ fun _ _ _ => trivial))
    rintro offers o' ⟨hoffers, rfl⟩
    -- What is logged, and what the log says, do not matter.
    refine ends_bind.mpr ((ends_trivial _ o').mono (fun logs o₁ _ => ?_) fun _ _ _ => trivial)
    refine ends_bind.mpr ((ends_trivial _ o₁).mono (fun _ o₂ _ => ?_) fun _ _ _ => trivial)
    exact ends_bind.mpr (ends_get.mpr (ends_pure.mpr ⟨hcalculations, hoffers⟩))
  · trivial

variable [Medium m] {o' : Office m} {offerPrefix : String}

/-- An export that succeeds has each row of calculations and offers once. Where one of them is told
    by its id, its sheets of its kind are those of the export. -/
theorem export_contains_what_is_told {caller : Caller} {e : Export}
    (exported : (exportAll caller).run.run o = (.ok e, o'))
    (distinct : ∀ t ∈ [Calculations.table, Offers.table],
      ((o.store.document.table t).map (·.get? "id")).Nodup) :
    ((e.calculations.map fun x => some x.row.unnamed).Perm
        ((o.store.document.table Calculations.table).map fun row =>
          Calculation.ofRecord? row.unnamed) ∧
      (e.offers.map fun x => some x.row.unnamed).Perm
        ((o.store.document.table Offers.table).map fun row => Offer.ofRecord? row.unnamed)) ∧
    (∀ x ∈ e.calculations, o.store.document.Assigns (.calculation x.row.id) →
      ∀ told o₁, (Calculations.get offerPrefix x.row.id).run.run o = (.ok told, o₁) →
        x.sheets.Alike x.row.kind told.sheets) ∧
    ∀ x ∈ e.offers, o.store.document.Assigns (.offer x.row.id) →
      ∀ told o₁, (Offers.get offerPrefix x.row.id).run.run o = (.ok told, o₁) →
        x.sheets.Alike x.row.kind told.sheets := by
  obtain ⟨calculations, offers⟩ := (exportAll_ends caller).of_ok exported
  have distinctCalculations := distinct Calculations.table (by simp)
  have distinctOffers := distinct Offers.table (by simp)
  refine ⟨⟨calculations.once calculations_listed, offers.once offers_listed⟩, ?_, ?_⟩
  · intro x mem assigns told o₁ run
    obtain ⟨row, c, named, read, found⟩ := (Calculations.get_finds x.row.id).of_ok run
    obtain ⟨sameId, sameKind⟩ :=
      calculations.told calculations_listed distinctCalculations mem named read
    rw [sameId, sameKind] at found
    exact calculations.alike calculations_listed distinctCalculations mem assigns found
  · intro x mem assigns told o₁ run
    obtain ⟨row, offer, named, read, found⟩ := (Offers.get_finds x.row.id).of_ok run
    obtain ⟨-, sameKind⟩ := offers.told offers_listed distinctOffers mem named read
    rw [sameKind] at found
    exact offers.alike offers_listed distinctOffers mem assigns found

/-- A calculation of a garment and an offer of services, with their sheets. -/
def sheetsOfBoth : Document :=
  ⟨.ofList [("calculations", 1), ("offers", 1)], .ofList
    [("calculations", [.ofList [("id", .int 1), ("calculation_type", .text "garment"),
        ("offer_number", .text "A.1")]]),
     ("garment_data", [.ofList [("id", .int 1), ("calculation_id", .int 1),
        ("item_number", .int 1), ("style", .text "Mantel")]]),
     ("offers", [.ofList [("id", .int 1), ("offer_type", .text "warehousing"),
        ("offer_number", .text "B.1")]]),
     ("warehousing_offer_data", [.ofList [("id", .int 1), ("offer_id", .int 1)]])]⟩

/-- Somebody who may ask for an export. -/
def administrator : Caller := ⟨"2", "Grace", "grace@example.org", "admin"⟩

theorem export_contains_what_is_told_of_both :
    ∃ e o', (exportAll administrator).run.run
        (inMemory.withStore sheetsOfBoth inMemory.store.medium) = (.ok e, o') ∧
      (e.calculations.map (fun x => (x.row.id, x.sheets.items.length)) = [(1, 1)] ∧
        e.offers.map (fun x => (x.row.id, x.sheets.warehousing.isSome)) = [(1, true)]) ∧
      (∃ told o₁, (Calculations.get "FHD" 1).run.run
          (inMemory.withStore sheetsOfBoth inMemory.store.medium) = (.ok told, o₁) ∧
        ∀ x ∈ e.calculations, x.sheets.Alike x.row.kind told.sheets) ∧
      ∃ told o₁, (Offers.get "FHD" 1).run.run
          (inMemory.withStore sheetsOfBoth inMemory.store.medium) = (.ok told, o₁) ∧
        ∀ x ∈ e.offers, x.sheets.Alike x.row.kind told.sheets := by
  obtain ⟨e, o', exported, listed⟩ : ∃ e o', (exportAll administrator).run.run
        (inMemory.withStore sheetsOfBoth inMemory.store.medium) = (.ok e, o') ∧
      decide (e.calculations.map (fun x => (x.row.id, x.sheets.items.length)) = [(1, 1)] ∧
        e.offers.map (fun x => (x.row.id, x.sheets.warehousing.isSome)) = [(1, true)]) = true :=
    exists_of_ok (by decide +kernel)
  obtain ⟨calculations, offers⟩ := of_decide_eq_true listed
  obtain ⟨calculation, o₁, toldCalculation, -⟩ :=
    @exists_of_ok _ _ _ (inMemory.withStore sheetsOfBoth inMemory.store.medium)
      (Calculations.get "FHD" 1) (fun _ => true) (by decide +kernel)
  obtain ⟨offer, o₂, toldOffer, -⟩ :=
    @exists_of_ok _ _ _ (inMemory.withStore sheetsOfBoth inMemory.store.medium)
      (Offers.get "FHD" 1) (fun _ => true) (by decide +kernel)
  have contains := @export_contains_what_is_told Memory
    (inMemory.withStore sheetsOfBoth inMemory.store.medium) _ o' "FHD" _ e exported
    (by decide +kernel)
  have assigns : sheetsOfBoth.Assigns (.calculation 1) ∧ sheetsOfBoth.Assigns (.offer 1) := by
    refine ⟨⟨?_, ?_⟩, ⟨?_, ?_⟩⟩ <;> decide +kernel
  refine ⟨e, o', exported, ⟨calculations, offers⟩, ⟨_, o₁, toldCalculation, fun x mem => ?_⟩,
    _, o₂, toldOffer, fun x mem => ?_⟩
  · have id : x.row.id = 1 := by
      have among := List.mem_map_of_mem (f := fun x => (x.row.id, x.sheets.items.length)) mem
      rw [calculations] at among
      exact congrArg Prod.fst (List.mem_singleton.mp among)
    exact contains.2.1 x mem (id ▸ assigns.1) _ o₁ (id ▸ toldCalculation)
  · have id : x.row.id = 1 := by
      have among := List.mem_map_of_mem (f := fun x => (x.row.id, x.sheets.warehousing.isSome)) mem
      rw [offers] at among
      exact congrArg Prod.fst (List.mem_singleton.mp among)
    exact contains.2.2 x mem (id ▸ assigns.2) _ o₂ (id ▸ toldOffer)

/-- A calculation with an item that names it by a text. -/
def ownerAsText : Document :=
  ⟨.ofList [("calculations", 1), ("garment_data", 1)], .ofList
    [("calculations", [.ofList [("id", .int 1), ("calculation_uuid", .text "a"),
        ("version", .int 1), ("kunde", .text "Alt"), ("calculation_type", .text "garment"),
        ("is_current", .int 1), ("offer_number", .text "A.1")]]),
     ("garment_data", [.ofList [("id", .int 1), ("calculation_id", .text "1"),
        ("item_number", .int 1), ("style", .text "Mantel")]])]⟩

/-- The item is told, and the export has none. -/
theorem owner_as_text_is_not_exported :
    (∃ told o', (Calculations.get "FHD" 1).run.run
        (inMemory.withStore ownerAsText inMemory.store.medium) = (.ok told, o') ∧
      (told.calculation.kind == .garment && told.sheets.items.length == 1) = true) ∧
    ∃ e o', (exportAll administrator).run.run
        (inMemory.withStore ownerAsText inMemory.store.medium) = (.ok e, o') ∧
      (e.calculations.map (fun x => (x.row.id, x.sheets.items.length)) == [(1, 0)]) = true :=
  ⟨exists_of_ok (by decide +kernel), exists_of_ok (by decide +kernel)⟩

end Admin

end OfferBook
