import OfferBook.Proofs.Calculations.Chain
import OfferBook.Proofs.Office.Books
import OfferBook.Proofs.Office.Deeds

/-! # The tables tell what was done

* `Call.onCalculations?`, `Call.onOffers?` — what a call does to the lists, by its answer.
* `Calculations.work_does`, `Offers.work_does` — where no save fails, it does so in the tables.
* `Office.deeds` — what is done in a run of requests.
* `Office.Follows` — an office whose tables tell what was done; `Follows.serveAll` — each does, as
  long as no save fails.
-/

namespace OfferBook

open Calculations (isKept isNamed isOf markDeleted)

/-! ## Answers -/

namespace Call

variable {m : Type} [Medium m]

/-- What a call does to the calculations, by its answer. -/
def onCalculations? (offerPrefix : String) (o : Office m) : Call → Option Deed
  | createCalculation input caller =>
    ((Calculations.create offerPrefix input caller).run.run o).1.toOption.map fun saved =>
      .saves saved.id saved.uuid
  | updateCalculation id input caller =>
    ((Calculations.update offerPrefix id input caller).run.run o).1.toOption.map fun saved =>
      .saves saved.id saved.uuid
  | deleteCalculation id caller =>
    ((Calculations.delete id caller).run.run o).1.toOption.map fun _ => .deletes id
  | _ => none

/-- What a call does to the offers, by its answer. -/
def onOffers? (offerPrefix : String) (o : Office m) : Call → Option Deed
  | createOffer input caller =>
    ((Offers.create offerPrefix input caller).run.run o).1.toOption.map fun saved =>
      .saves saved.id saved.uuid
  | deleteOffer id caller =>
    ((Offers.delete id caller).run.run o).1.toOption.map fun _ => .deletes id
  | _ => none

end Call

/-! ## Calls that leave a list alone -/

/-- The list of which a call marks rows or gives them another title. -/
def Call.annotates? : Call → Option String
  | deleteCalculation .. | renameCalculations .. => some Calculations.table
  | deleteOffer .. | sendOffer .. => some Offers.table
  | _ => none

theorem Permits.spares {call : Call} {c : Change} {t : String} (h : Permits call c)
    (idle : call.isStoring = false) (list : t = Calculations.table ∨ t = Offers.table)
    (other : call.annotates? ≠ some t) : c.Spares t := by
  have apart : Log.table ≠ t ∧ Accounts.table ≠ t := by
    rcases list with rfl | rfl <;> decide
  cases h with
  | insert storing | advance storing => exact Bool.noConfusion (storing.symm.trans idle)
  | retire => exact Bool.noConfusion idle
  | entry => exact apart.1
  | newAccount | account => exact apart.2
  | retitle | deleteCalculation | deleteOffer | markSent =>
    exact fun same => other (congrArg some same)

namespace Office

variable {m α : Type} {P : m → Prop} {o : Office m} {offerPrefix t : String}

theorem run_discard (act : Service m α) :
    ((do let _ ← act : Service m Unit).run.run o).2 = (act.run.run o).2 := by
  have ends : Ends act o (fun _ => (· = (act.run.run o).2)) fun _ => (· = (act.run.run o).2) := by
    rcases run : act.run.run o with ⟨e | a, o'⟩
    · exact .of_failed run rfl
    · exact .of_run run rfl
  exact (ends_discard ends).snd

/-- The answer of a service, and what it leaves behind. -/
theorem Yields.answer {act : Service m α} {R : α → Office m → Prop} (h : Yields P act o R)
    (fine : P (act.run.run o).2.store.medium) :
    (∃ a, (act.run.run o).1.toOption = some a ∧ R a (act.run.run o).2) ∨
      (act.run.run o).1.toOption = none ∧
        (act.run.run o).2.store.document = o.store.document := by
  rcases run : act.run.run o with ⟨e | a, o'⟩
  · exact .inr ⟨rfl, (Ends.of_error h run (by rwa [run] at fine)).2⟩
  · exact .inl ⟨a, rfl, (Ends.of_ok h run (by rwa [run] at fine)).2⟩

/-- A call that annotates no row of a list and stores none leaves the list alone. -/
theorem table_of_idle [Medium m] (h : o.Sound) {call : Call} (idle : call.isStoring = false)
    (list : t = Calculations.table ∨ t = Offers.table) (other : call.annotates? ≠ some t) :
    ((call.work offerPrefix).run.run o).2.store.document.table t = o.store.document.table t := by
  obtain ⟨changes, permitted, reached⟩ :
    Made (Permits call) o ((call.work offerPrefix).run.run o).2 := Ends.snd (work_made h call)
  exact Made.table ⟨changes, fun c hc => (permitted c hc).spares idle list other, reached⟩

theorem table_of_allocate [Medium m] (apart : Document.countersTable ≠ t) (year version : Int) :
    (((Call.allocate year version).work offerPrefix).run.run o).2.store.document.table t =
      o.store.document.table t :=
  Made.table (Ends.snd ((Makes.allocateForYear (fun _ => apart) year version).storage.discard o))

end Office

open Office

/-! ## Calculations -/

namespace Calculations

/-- Rows of other chains are not retired. -/
theorem updateRow_retire {now : Instant} {uuid : String} {row : Record}
    (text : Field.IsText (row.get? "calculation_uuid")) (other : isOf uuid row = false) :
    Change.updateRow now (retire uuid) row = row := by
  refine if_neg fun passed => ?_
  have named : (Json.matchesValue (row.get? "calculation_uuid") (.text uuid) && true) = true :=
    passed
  rw [Json.matchesValue_text text, Bool.and_true] at named
  exact absurd (named.symm.trans other) (by decide)

variable {m : Type} {o o' : Office m} {offerPrefix : String}

/-- A deed, seen in the table. -/
def Does (deed : Option Deed) (o o' : Office m) : Prop :=
  Becomes table o.calculations deed o'.calculations ∧ Extends o.calculations deed o'.calculations

theorem does_of_same (same : o'.calculations = o.calculations) : Does none o o' :=
  ⟨same ▸ .refl _ _, same ▸ .refl _⟩

theorem does_of_unchanged (same : o'.store.document = o.store.document) : Does none o o' :=
  does_of_same (congrArg (Document.table · _) same)

section Stored

variable {uuid kunde : String} {input : CalculationInput}

theorem does_create (h : o.Sound) {caller : Caller}
    (fresh : ∀ row ∈ o.calculations, isOf uuid row = false)
    (rows : o'.calculations = o.calculations ++ [o.firstRow offerPrefix uuid kunde input caller]) :
    Does (some (.saves (o.calculations.length + 1) uuid)) o o' := by
  have id : (o.firstRow offerPrefix uuid kunde input caller).get? "id" =
      some (.int (o.calculations.length + 1)) := by
    rw [← show o.store.document.lastId table = o.calculations.length from h.calculations.lastId]
    exact get?_row_id _
  have kept : isKept (o.firstRow offerPrefix uuid kunde input caller) = true := by
    refine congrArg Json.isMissing (get?_row_of_notMem ?_ ?_ ?_ _) <;> simp [rowFields]
  have creator : Field.MayBeText
      ((o.firstRow offerPrefix uuid kunde input caller).get? "created_by") :=
    .inr (.inr ⟨caller.id, get?_firstRow (by simp [rowFields, Json.ofOption])⟩)
  rw [← List.map_id o.calculations] at rows
  rw [Does, rows]
  refine ⟨.saves (fun _ _ _ => rfl) id creator kept, .saves (fun _ _ _ => rfl) (fun _ _ _ => rfl)
    (fun row mem found => ?_) id ?_ ?_⟩
  · exact absurd (found.symm.trans (fresh row mem)) (by decide)
  · exact get?_firstRow (by simp [rowFields])
  · exact get?_firstRow (by simp [rowFields])

theorem does_update (h : o.Sound) {head : Calculation}
    (rows : o'.calculations = o.retired head.uuid ++ [o.nextRow head kunde input]) :
    Does (some (.saves (o.calculations.length + 1) head.uuid)) o o' := by
  have id : (o.nextRow head kunde input).get? "id" = some (.int (o.calculations.length + 1)) := by
    rw [← show o.store.document.lastId table = o.calculations.length from h.calculations.lastId]
    exact get?_row_id _
  have kept : isKept (o.nextRow head kunde input) = true := by
    refine congrArg Json.isMissing (get?_row_of_notMem ?_ ?_ ?_ _) <;> simp [rowFields]
  have creator : Field.MayBeText ((o.nextRow head kunde input).get? "created_by") := by
    have stored : (o.nextRow head kunde input).get? "created_by" =
        some (Json.ofOption .text head.createdBy) := get?_nextRow (by simp [rowFields])
    exact stored ▸ Field.mayBeText_ofOption _
  rw [Does, rows]
  refine ⟨.saves (fun row column mem => get?_retired ?_ row) id creator kept,
    .saves (fun row column mem => get?_retired ?_ row) (fun row mem apart => ?_)
      (fun row mem own => not_current_retired own) id ?_ ?_⟩
  · rintro rfl
    simp at mem
  · rintro rfl
    simp at mem
  · rw [updateRow_retire (h.calculations.admits row mem ("calculation_uuid", Field.IsText)
      List.mem_cons_self) apart]
  · exact get?_nextRow (by simp [rowFields])
  · exact get?_nextRow (by simp [rowFields])

end Stored

theorem does_delete {id : Int}
    (rows : o'.calculations = o.calculations.map (Change.updateRow o.now (markDeleted table id))) :
    Does (some (.deletes id)) o o' := by
  rw [Does, rows]
  refine ⟨.deletes o.now id, .same (fun _ _ => nofun) fun row column mem => ?_⟩
  refine Change.get?_updateRow_of_notMem (fun assigned => ?_) row
  obtain rfl : column = "deleted_at" := List.mem_singleton.mp assigned
  simp at mem

theorem does_rename {uuid title : String}
    (rows : o'.calculations = o.calculations.map (Change.updateRow o.now (retitle uuid title))) :
    Does none o o' := by
  have keeps (row : Record) (column : String) (other : column ∉ ["kunde", "modified_at"]) :
      (Change.updateRow o.now (retitle uuid title) row).get? column = row.get? column :=
    Change.get?_updateRow_of_notMem other row
  rw [Does, rows]
  refine ⟨.same fun row column mem => keeps row column ?_,
    .same (fun _ _ => nofun) fun row column mem => keeps row column ?_⟩ <;>
    · simp only [List.mem_cons, List.not_mem_nil, or_false] at mem
      rcases mem with rfl | rfl | rfl <;> decide

variable [Medium m] {P : m → Prop} {n : Nat} (vouches : Medium.Vouches P)
include vouches

/-- Each call does in the table what its answer says, where no save fails. -/
theorem work_does (h : Chained n o) (fits : fitsSigned (o.calculations.length + 1) = true)
    (fits' : fitsSigned (o.offers.length + 1) = true) (call : Call)
    (fine : P ((call.work offerPrefix).run.run o).2.store.medium) :
    Does (call.onCalculations? offerPrefix o) o ((call.work offerPrefix).run.run o).2 := by
  have sound := h.sound
  cases call with
  | createCalculation input caller =>
    rw [Call.work, run_discard] at fine ⊢
    rcases (create_yields vouches sound fits input caller).answer fine with
      ⟨saved, answer, id, uuid, -, ⟨kunde, rows⟩, -⟩ | ⟨answer, same⟩
    · rw [Call.onCalculations?, answer, Option.map_some, id]
      exact does_create sound (uuid ▸ h.isOf_unused (Nat.le_refl _)) rows
    · rw [Call.onCalculations?, answer]
      exact does_of_unchanged same
  | updateCalculation id input caller =>
    rw [Call.work, run_discard] at fine ⊢
    rcases (update_yields vouches sound fits id input caller).answer fine with
      ⟨saved, answer, id, -, ⟨row, head, kunde, -, uuid, rows⟩, -⟩ | ⟨answer, same⟩
    · rw [Call.onCalculations?, answer, Option.map_some, id, uuid]
      exact does_update sound rows
    · rw [Call.onCalculations?, answer]
      exact does_of_unchanged same
  | deleteCalculation id caller =>
    rcases (delete_yields vouches sound id caller).answer fine with
      ⟨_, answer, rows, -⟩ | ⟨answer, same⟩
    · rw [Call.onCalculations?, answer]
      exact does_delete rows
    · rw [Call.onCalculations?, answer]
      exact does_of_unchanged same
  | renameCalculations uuid title =>
    rw [Call.work, run_discard] at fine ⊢
    rcases (rename_yields vouches uuid title).answer fine with ⟨_, -, rows, -⟩ | ⟨-, same⟩
    · exact does_rename rows
    · exact does_of_unchanged same
  | createOffer input caller =>
    rw [Call.work, run_discard] at fine ⊢
    rcases (Offers.create_yields vouches sound fits' input caller).answer fine with
      ⟨_, -, -, -, same, -⟩ | ⟨-, same⟩
    · exact does_of_same same
    · exact does_of_unchanged same
  | allocate year version => exact does_of_same (table_of_allocate (by decide) year version)
  | _ =>
    exact does_of_same
      (table_of_idle sound rfl (.inl rfl) (by simp [Call.annotates?, table_ne.symm]))

end Calculations

/-! ## Offers -/

namespace Offers

variable {m : Type} {o o' : Office m} {offerPrefix : String}

/-- A deed, seen in the table. -/
def Does (deed : Option Deed) (o o' : Office m) : Prop := Becomes table o.offers deed o'.offers

theorem does_of_same (same : o'.offers = o.offers) : Does none o o' := by
  rw [Does, same]
  exact .refl _ _

theorem does_of_unchanged (same : o'.store.document = o.store.document) : Does none o o' :=
  does_of_same (congrArg (Document.table · _) same)

theorem does_create (h : o.Sound) {uuid : String} {input : OfferInput} {caller : Caller}
    (rows : o'.offers = o.offers ++ [o.offerRow offerPrefix uuid input caller]) :
    Does (some (.saves (o.offers.length + 1) uuid)) o o' := by
  have id : (o.offerRow offerPrefix uuid input caller).get? "id" =
      some (.int (o.offers.length + 1)) := by
    rw [← show o.store.document.lastId table = o.offers.length from h.offers.lastId]
    exact Insert.get?_row_id row_distinct row_unnamed _
  have kept : isKept (o.offerRow offerPrefix uuid input caller) = true := by
    refine congrArg Json.isMissing (get?_row_of_notMem ?_ ?_ ?_ _) <;>
      simp [rowFields, Customer.fieldNames, Customer.values]
  have creator : Field.MayBeText ((o.offerRow offerPrefix uuid input caller).get? "created_by") :=
    .inr (.inr ⟨caller.id, get?_row_of_mem (by simp [rowFields]) _⟩)
  rw [← List.map_id o.offers] at rows
  rw [Does, rows]
  exact .saves (fun _ _ _ => rfl) id creator kept

theorem does_delete {id : Int}
    (rows : o'.offers = o.offers.map (Change.updateRow o.now (markDeleted table id))) :
    Does (some (.deletes id)) o o' := by
  rw [Does, rows]
  exact .deletes o.now id

theorem does_send {id : Int}
    (rows : o'.offers = o.offers.map (Change.updateRow o.now (markSent id))) : Does none o o' := by
  rw [Does, rows]
  refine .same fun row column mem => Change.get?_updateRow_of_notMem (fun assigned => ?_) row
  have among : column ∈ ["status", "sent_at"] := assigned
  simp only [List.mem_cons, List.not_mem_nil, or_false] at mem among
  rcases mem with rfl | rfl | rfl <;> simp at among

variable [Medium m] {P : m → Prop} (vouches : Medium.Vouches P)
include vouches

/-- Each call does in the table what its answer says, where no save fails. -/
theorem work_does (sound : o.Sound) (fits : fitsSigned (o.calculations.length + 1) = true)
    (fits' : fitsSigned (o.offers.length + 1) = true) (call : Call)
    (fine : P ((call.work offerPrefix).run.run o).2.store.medium) :
    Does (call.onOffers? offerPrefix o) o ((call.work offerPrefix).run.run o).2 := by
  cases call with
  | createOffer input caller =>
    rw [Call.work, run_discard] at fine ⊢
    rcases (create_yields vouches sound fits' input caller).answer fine with
      ⟨saved, answer, id, -, -, rows⟩ | ⟨answer, same⟩
    · rw [Call.onOffers?, answer, Option.map_some, id]
      exact does_create sound rows
    · rw [Call.onOffers?, answer]
      exact does_of_unchanged same
  | deleteOffer id caller =>
    rcases (delete_yields vouches id caller).answer fine with
      ⟨_, answer, -, rows, -⟩ | ⟨answer, same⟩
    · rw [Call.onOffers?, answer]
      exact does_delete rows
    · rw [Call.onOffers?, answer]
      exact does_of_unchanged same
  | sendOffer letterhead mailer id request caller =>
    rw [Call.work, run_discard] at fine ⊢
    rcases (send_yields vouches letterhead mailer id request caller).answer fine with
      ⟨_, -, -, rows, -⟩ | ⟨-, same⟩
    · exact does_send rows
    · exact does_of_unchanged same
  | createCalculation input caller =>
    rw [Call.work, run_discard] at fine ⊢
    rcases (Calculations.create_yields vouches sound fits input caller).answer fine with
      ⟨_, -, -, -, -, -, same⟩ | ⟨-, same⟩
    · exact does_of_same same
    · exact does_of_unchanged same
  | updateCalculation id input caller =>
    rw [Call.work, run_discard] at fine ⊢
    rcases (Calculations.update_yields vouches sound fits id input caller).answer fine with
      ⟨_, -, -, -, -, same⟩ | ⟨-, same⟩
    · exact does_of_same same
    · exact does_of_unchanged same
  | allocate year version => exact does_of_same (table_of_allocate (by decide) year version)
  | _ =>
    exact does_of_same
      (table_of_idle sound rfl (.inr rfl) (by simp [Call.annotates?, Calculations.table_ne]))

end Offers

/-! ## Runs -/

namespace Call

variable {m : Type} [Medium m] {o : Office m} {offerPrefix : String} {call : Call} {id : Int}

theorem fits_of_onCalculations? (words : call.InWords)
    (h : call.onCalculations? offerPrefix o = some (.deletes id)) : fitsSigned id = true := by
  cases call <;> simp [onCalculations?] at h
  obtain ⟨-, rfl⟩ := h
  exact words

theorem fits_of_onOffers? (words : call.InWords)
    (h : call.onOffers? offerPrefix o = some (.deletes id)) : fitsSigned id = true := by
  cases call <;> simp [onOffers?] at h
  obtain ⟨-, rfl⟩ := h
  exact words

end Call

namespace Office

variable {m : Type} {n : Nat} {cs os : List Deed} {o : Office m}

/-- What requests do to a list, one after the other. -/
def deeds [Medium m] (offerPrefix : String) (did : Office m → Call → Option Deed) :
    Office m → List Request → List Deed
  | _, [] => []
  | o, r :: rest =>
    (did (o.setNow r.now) r.call).toList ++ deeds offerPrefix did (serve offerPrefix o r) rest

/-- An office whose tables tell what was done to the lists, after at most `n` requests. -/
structure Follows (n : Nat) (cs os : List Deed) (o : Office m) : Prop where
  chained : Chained n o
  few : o.offers.length ≤ n
  calculations : Tallies cs o.calculations
  versions : Flagged cs o.calculations
  offers : Tallies os o.offers

theorem IsNew.follows (h : o.IsNew) : Follows 0 [] [] o := by
  have none : o.calculations = [] ∧ o.offers = [] := ⟨(h.isEmpty _).1, (h.isEmpty _).1⟩
  refine ⟨h.chained, ?_, ?_, ?_, ?_⟩
  · rw [none.2]
    exact Nat.le_refl 0
  · exact none.1 ▸ .nil
  · exact none.1 ▸ .nil
  · exact none.2 ▸ .nil

variable [Medium m] {offerPrefix : String} {P : m → Prop} (vouches : Medium.Vouches P)
include vouches

theorem Follows.serve (h : Follows n cs os o) (short : n < Double.exactLimit) (r : Request)
    (words : r.call.InWords) (fine : P (serve offerPrefix o r).store.medium) :
    Follows (n + 1) (cs ++ (r.call.onCalculations? offerPrefix (o.setNow r.now)).toList)
      (os ++ (r.call.onOffers? offerPrefix (o.setNow r.now)).toList) (serve offerPrefix o r) := by
  have fits {k : Nat} (fewer : k ≤ n + 1) : fitsSigned k = true :=
    Double.fitsSigned_of_le (Nat.le_trans fewer short)
  have chained := h.chained.setNow r.now
  have sound := chained.sound
  obtain ⟨becomes, extended⟩ := Calculations.work_does vouches chained
    (fits (Nat.succ_le_succ h.chained.few)) (fits (Nat.succ_le_succ h.few)) r.call fine
  have offered := Offers.work_does vouches sound (fits (Nat.succ_le_succ h.chained.few))
    (fits (Nat.succ_le_succ h.few)) r.call fine
  refine ⟨h.chained.serve short r, ?_, ?_, ?_, ?_⟩
  · exact Nat.le_trans (serve_few offerPrefix h.chained.sound r).2 (Nat.succ_le_succ h.few)
  · exact h.calculations.becomes (fun row => sound.calculations.consecutive.exists_id
      (fits (Nat.le_succ_of_le h.chained.few)))
      (fun id => Call.fits_of_onCalculations? words) becomes
  · exact h.versions.extends sound.calculations.consecutive extended
  · exact h.offers.becomes (fun row => sound.offers.consecutive.exists_id
      (fits (Nat.le_succ_of_le h.few)))
      (fun id => Call.fits_of_onOffers? words) offered

/-- As long as no save fails, the tables tell what the answers said. -/
theorem Follows.serveAll (h : Follows n cs os o) (rs : List Request)
    (short : n + rs.length ≤ Double.exactLimit) (words : ∀ r ∈ rs, r.call.InWords)
    (fine : ∀ earlier, earlier <+: rs → P (serveAll offerPrefix o earlier).store.medium) :
    Follows (n + rs.length) (cs ++ deeds offerPrefix (Call.onCalculations? offerPrefix) o rs)
      (os ++ deeds offerPrefix (Call.onOffers? offerPrefix) o rs) (serveAll offerPrefix o rs) := by
  induction rs generalizing n cs os o with
  | nil =>
    rw [deeds, deeds, List.append_nil, List.append_nil]
    exact h
  | cons r rest ih =>
    rw [List.length_cons] at short ⊢
    have first := h.serve vouches (by omega) r (words r List.mem_cons_self) (fine [r] (by simp))
    have later := ih first (by omega) (fun r' mem => words r' (List.mem_cons_of_mem r mem))
      fun earlier part => fine (r :: earlier) (List.prefix_cons_inj r |>.mpr part)
    rw [deeds, deeds, ← List.append_assoc, ← List.append_assoc, ← Nat.add_assoc,
      Nat.add_right_comm]
    exact later

end Office

end OfferBook
