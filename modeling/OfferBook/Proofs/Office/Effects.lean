import OfferBook.Proofs.Offers.Rows
import OfferBook.Proofs.Office.Permits

/-! # What a request can do

* `Office.Sound` — the tables of calculations and offers are regular.
* `Office.work_made` — a call makes permitted changes only; `Office.work_aside` — calls that do not
  store work on the side.
* `Office.Core` — what a request does to the content of calculations and offers: nothing, or the
  first few changes of one of the services that create.
* `Office.Effect` — the core of a request and the changes on the side after it;
  `Office.serve_effect` — every request has such an effect.
-/

namespace OfferBook

open Office

variable {m : Type}

/-- The tables of calculations and offers are regular. -/
structure Office.Sound (o : Office m) : Prop where
  calculations : Regular Calculations.form Calculations.table o.store.document
  offers : Regular Offers.form Offers.table o.store.document

theorem Office.Sound.setNow {o : Office m} (h : o.Sound) (now : Instant) : (o.setNow now).Sound :=
  ⟨h.calculations, h.offers⟩

/-! ## Looking up details -/

namespace Calculations

variable {o : Office m} {offerPrefix : String} [Medium m]

theorem backfill_eq {c : Calculation} {row : Record} (shown : Calculation.Shown row c) :
    (backfill offerPrefix c : Work m Calculation) = pure c := by
  obtain ⟨n, filled, hn, -⟩ := shown.number
  unfold backfill
  rw [hn]
  exact if_neg (by simpa using filled)

/-- A row that shows a number is read as it is. -/
theorem detail_looks {c : Calculation} {row : Record} (shown : Calculation.Shown row c) :
    Looks (detail offerPrefix c : Work m CalculationDetail) := by
  unfold detail
  rw [backfill_eq shown]
  exact (Looks.pure c).bind fun _ => (Looks.sheets _ _).bind fun _ => .pure _

theorem get_looks (h : o.Sound) (id : Int) :
    Ends (get offerPrefix id) o (fun _ o' => o' = o) fun _ o' => o' = o := by
  refine ends_bind.mpr ((require_ends h.calculations id).mono ?_ fun _ _ same => same)
  rintro c o' ⟨⟨row, -, -, shown⟩, rfl⟩
  exact (detail_looks shown).storage o'

theorem latest_looks (h : o.Sound) (uuid : String) :
    Ends (latest offerPrefix uuid) o (fun _ o' => o' = o) fun _ o' => o' = o := by
  simp only [latest, ends_bind, ends_storage, ends_selectFirst, Select.rows_matching]
  split
  · next row found =>
    have mem := (List.mem_filter.mp (List.mem_of_head? found)).1
    cases read : Calculation.ofRecord? row with
    | none => trivial
    | some c => exact detail_looks (shown_of_mem h.calculations mem read) o
  · exact ends_throw.mpr rfl

end Calculations

namespace Offers

variable {o : Office m} {offerPrefix : String}

theorem require_ends (h : Regular form table o.store.document) (id : Int) :
    Ends (require id) o
      (fun offer o' => (∃ row ∈ o.store.document.table table, Offer.Shown row offer) ∧ o' = o)
      fun _ o' => o' = o := by
  simp only [require, ends_bind, ends_storage, ends_selectFirst, Select.rows_matching]
  split
  · next row found =>
    have mem := (List.mem_filter.mp (List.mem_of_head? found)).1
    cases read : Offer.ofRecord? row with
    | none => trivial
    | some offer =>
      obtain ⟨k, id, -⟩ := h.exists_id mem
      exact ends_pure.mpr ⟨⟨row, mem, Offer.shown (h.admits row mem) id read⟩, rfl⟩
  · exact ends_throw.mpr rfl

variable [Medium m]

theorem backfill_eq {id : Int} {offer : Offer} {row : Record} (shown : Offer.Shown row offer) :
    (backfill offerPrefix id offer : Work m Offer) = pure offer := by
  obtain ⟨n, filled, hn, -⟩ := shown.number
  unfold backfill
  rw [hn]
  exact if_neg (by simpa using filled)

theorem detail_looks {id : Int} {offer : Offer} {row : Record} (shown : Offer.Shown row offer) :
    Looks (detail offerPrefix id offer : Work m OfferDetail) := by
  unfold detail
  rw [backfill_eq shown]
  exact (Looks.pure offer).bind fun _ => (Looks.sheets _ _).bind fun _ => .pure _

theorem get_looks (h : o.Sound) (id : Int) :
    Ends (get offerPrefix id) o (fun _ o' => o' = o) fun _ o' => o' = o := by
  refine ends_bind.mpr ((require_ends h.offers id).mono ?_ fun _ _ same => same)
  rintro offer o' ⟨⟨row, -, shown⟩, rfl⟩
  exact (detail_looks shown).storage o'

end Offers

/-! ## What is permitted is done -/

namespace Office

variable {α : Type} {P : Change → Prop} {offerPrefix : String} {o : Office m}

theorem ends_discard {act : Service m α} {P : Office m → Prop}
    (h : Ends act o (fun _ => P) fun _ => P) :
    Ends (do let _ ← act : Service m Unit) o (fun _ => P) fun _ => P :=
  ends_bind.mpr (Ends.mono h (fun _ _ holds => ends_pure.mpr holds) fun _ _ => id)

theorem made_of_looks {act : Service m α}
    (h : Ends act o (fun _ o' => o' = o) fun _ o' => o' = o) :
    Ends (do let _ ← act : Service m Unit) o (fun _ => Made P o) fun _ => Made P o :=
  ends_discard (h.mono (fun _ _ same => same ▸ .refl P o) fun _ _ same => same ▸ .refl P o)

variable [Medium m]

/-- A call that does not look up details makes permitted changes only, whatever the rows are. -/
theorem work_makes {call : Call} (plain : call.looksUpDetail = false) :
    Makes (Permits call) (call.work offerPrefix : Service m Unit) := by
  cases call with
  | createCalculation input caller => exact (Makes.createCalculation input caller).discard
  | updateCalculation id input caller => exact (Makes.updateCalculation id input caller).discard
  | deleteCalculation id caller => exact Makes.deleteCalculation id caller
  | renameCalculations uuid title => exact (Makes.renameCalculations uuid title).discard
  | getCalculation | latestCalculation | getOffer => exact Bool.noConfusion plain
  | listCalculations => exact (Looks.calculations_list.makes _).discard
  | versions idOrUuid => exact ((Looks.versions idOrUuid).makes _).discard
  | createOffer input caller => exact (Makes.createOffer input caller).discard
  | listOffers => exact (Looks.offers_list.makes _).discard
  | deleteOffer id caller => exact Makes.deleteOffer id caller
  | sendOffer letterhead mailer id request caller =>
    exact (Makes.sendOffer letterhead mailer id request caller).discard
  | allocate year version =>
    exact (Makes.allocateForYear (.advance rfl) year version).storage.discard
  | seedAdmin cost email name password =>
    exact (Makes.seedAdmin cost email name password).storage.discard
  | findActive id => exact (((Looks.find _).bind fun _ => .pure _).storage.makes _).discard
  | firstActiveAdmin => exact (((Looks.find _).bind fun _ => .pure _).storage.makes _).discard
  | changePassword cost caller current new => exact Makes.changePassword cost caller current new
  | record => exact Makes.entry fun words => words
  | logPage limit offset => exact ((Looks.logPage limit offset).storage.makes _).discard
  | logAll => exact ((Looks.selectAll _ _).storage.makes _).discard
  | enter gate caller password => exact (Makes.enter gate caller password).storage.discard
  | adminLogs caller limit offset => exact ((Looks.adminLogs caller limit offset).makes _).discard
  | exportAll caller => exact (Makes.exportAll caller).discard

/-- A call makes permitted changes only, wherever it is cut short. -/
theorem work_made (h : o.Sound) (call : Call) :
    Ends (call.work offerPrefix) o (fun _ => Made (Permits call) o)
      fun _ => Made (Permits call) o := by
  cases plain : call.looksUpDetail with
  | false => exact work_makes plain o
  | true =>
    cases call with
    | getCalculation id => exact made_of_looks (Calculations.get_looks h id)
    | latestCalculation uuid => exact made_of_looks (Calculations.latest_looks h uuid)
    | getOffer id => exact made_of_looks (Offers.get_looks h id)
    | _ => exact Bool.noConfusion plain

theorem serve_made (offerPrefix : String) (h : o.Sound) (r : Request) :
    Made (Permits r.call) (o.setNow r.now) (serve offerPrefix o r) :=
  Ends.snd (work_made (h.setNow r.now) r.call)

/-- Calls that do not store work on the side. -/
theorem work_aside (h : o.Sound) {call : Call} (idle : call.isStoring = false) :
    Ends (call.work offerPrefix) o (fun _ => Aside o) fun _ => Aside o := by
  have aside {o' : Office m} (made : Made (Permits call) o o') : Aside o o' :=
    made.mono fun _ permitted => permitted.side idle o.now
  exact (work_made h call).mono (fun _ _ => aside) fun _ _ => aside

end Office

/-! ## Effects -/

namespace Office

/-- What a request does to the content of calculations and offers. -/
inductive Core (offerPrefix : String) (o o' : Office m) : Prop
  | idle (reached : Reaches o [] o')
  | allocate {year : Int} {done : List Change}
      (part : done <+: [.advance (OfferNumber.counterKey year)]) (reached : Reaches o done o')
  | first {k : Nat} {kunde : String} {input : CalculationInput} {caller : Caller}
      {done : List Change} (fresh : o.supply.uuidsTaken ≤ k) (taken : k < o'.supply.uuidsTaken)
      (part : done <+:
        Calculations.firstChanges o offerPrefix (o.supply.uuid k) kunde input caller)
      (reached : Reaches o done o') (valid : LineItems.validate input.items = .ok ())
  | next {head : Calculation} {row : Record} {kunde : String} {input : CalculationInput}
      {done : List Change} (isHead : Calculations.IsHead o.store.document row head)
      (part : done <+: Calculations.nextChanges o.store.document head kunde input)
      (reached : Reaches o done o') (valid : LineItems.validate input.items = .ok ())
  | offer {uuid : String} {input : OfferInput} {caller : Caller} {done : List Change}
      (part : done <+: Offers.newChanges o offerPrefix uuid input caller)
      (reached : Reaches o done o') (valid : LineItems.validate input.items = .ok ())

/-- The core of a request and the changes on the side after it. -/
def Effect (offerPrefix : String) (o o' : Office m) : Prop :=
  ∃ between, Core offerPrefix o between ∧ Aside between o'

variable {α : Type} {offerPrefix : String} {o : Office m}

theorem Aside.effect {o' : Office m} (h : Aside o o') : Effect offerPrefix o o' :=
  ⟨o, .idle (Reaches.refl o), h⟩

theorem Writes.effect {act : Service m α} {start : Office m} {changes : List Change}
    {R : α → Prop} (h : Writes act start changes R)
    (core : ∀ done o', done <+: changes → Reaches start done o' → Core offerPrefix o o') :
    Ends act start (fun _ => Effect offerPrefix o) fun _ => Effect offerPrefix o := by
  refine Ends.mono h ?_ ?_
  · rintro a o' ⟨-, written, reached, aside⟩
    exact ⟨written, core changes written (List.prefix_refl _) reached, aside⟩
  · rintro e o' ⟨done, part, reached⟩
    exact ⟨o', core done o' part reached, Aside.refl o'⟩

variable [Medium m]

theorem create_effect (input : CalculationInput) (caller : Caller) :
    Ends (Calculations.create offerPrefix input caller) o (fun _ => Effect offerPrefix o)
      fun _ => Effect offerPrefix o := by
  rw [Calculations.create_ends]
  split
  · next kunde valid =>
    refine (Calculations.createAs_writes ..).effect fun done o' part reached => ?_
    exact .first (Nat.le_refl _) reached.taken part reached.of_takeUuid
      (Calculations.validate_ok valid).2
  · exact (Aside.refl o).effect

theorem update_effect (h : o.Sound) (id : Int) (input : CalculationInput) (caller : Caller) :
    Ends (Calculations.update offerPrefix id input caller) o (fun _ => Effect offerPrefix o)
      fun _ => Effect offerPrefix o := by
  refine Calculations.update_ends h.calculations (fun _ => (Aside.refl o).effect) ?_
  intro kunde head row valid isHead _
  exact (Calculations.extend_writes ..).effect fun _ _ part reached =>
    .next isHead part reached (Calculations.validate_ok valid).2

theorem offer_effect (input : OfferInput) (caller : Caller) :
    Ends (Offers.create offerPrefix input caller) o (fun _ => Effect offerPrefix o)
      fun _ => Effect offerPrefix o := by
  rw [Offers.create_ends]
  split
  · next valid =>
    refine (Offers.createAs_writes ..).effect ?_
    exact fun done o' part reached => .offer part reached.of_takeUuid valid
  · exact (Aside.refl o).effect

theorem allocate_effect (year version : Int) :
    Ends (storage (allocateForYear offerPrefix year version)) o
      (fun _ => Effect offerPrefix o) fun _ => Effect offerPrefix o := by
  refine ends_storage.mpr (Ends.mono (allocateForYear_performs year version) ?_ ?_)
  · rintro n o' ⟨-, reached⟩
    exact ⟨o', .allocate (List.prefix_refl _) reached, Aside.refl o'⟩
  · rintro e o' ⟨done, part, reached⟩
    exact ⟨o', .allocate part reached, Aside.refl o'⟩

/-- Every call has an effect, whether it succeeds or not. -/
theorem work_effect (h : o.Sound) (call : Call) :
    Ends (call.work offerPrefix) o (fun _ => Effect offerPrefix o)
      fun _ => Effect offerPrefix o := by
  cases storing : call.isStoring with
  | false =>
    exact Ends.mono (work_aside h storing) (fun _ _ => Aside.effect) fun _ _ => Aside.effect
  | true =>
    cases call with
    | createCalculation input caller => exact ends_discard (create_effect input caller)
    | updateCalculation id input caller => exact ends_discard (update_effect h id input caller)
    | createOffer input caller => exact ends_discard (offer_effect input caller)
    | allocate year version => exact ends_discard (allocate_effect year version)
    | _ => exact Bool.noConfusion storing

theorem serve_effect (h : o.Sound) (r : Request) :
    Effect offerPrefix (o.setNow r.now) (serve offerPrefix o r) :=
  Ends.snd (work_effect (h.setNow r.now) r.call)

end Office

end OfferBook
