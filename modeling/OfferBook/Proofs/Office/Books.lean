import OfferBook.Proofs.Office.Completed

/-! # The tables after a service

What the services that create, edit, delete, rename and send leave in the tables, where no save has
failed.

* `Office.Yields` — services whose results go with what they leave behind, or that refuse.
* `Office.Records` — one more entry of the log.
* `Calculations.create_yields`, `Offers.send_yields`, … — the rows after each service.
-/

namespace OfferBook

namespace Office

variable {m α : Type} {P : m → Prop} {o o' : Office m} {did : α → List Change → Prop}
  {R S : α → Office m → Prop}

/-- A service whose result goes with what it leaves behind, or that refuses and changes nothing,
    unless a save has failed. -/
def Yields (P : m → Prop) (act : Service m α) (o : Office m) (R : α → Office m → Prop) : Prop :=
  Ends act o (fun a o' => P o'.store.medium → P o.store.medium ∧ R a o')
    fun _ o' => P o'.store.medium → P o.store.medium ∧ o'.store.document = o.store.document

theorem Settles.yields {act : Service m α} (h : Settles P act o did)
    (leaves : ∀ a cs o', did a cs → Reaches o cs o' → R a o') : Yields P act o R := by
  refine Ends.mono h (fun a o' after fine => ?_) fun _ _ => id
  obtain ⟨before, cs, done, reached⟩ := after fine
  exact ⟨before, leaves a cs o' done reached⟩

theorem Yields.mono {act : Service m α} (h : Yields P act o R) (weaker : ∀ a o', R a o' → S a o') :
    Yields P act o S :=
  Ends.mono h (fun a o' after fine => ⟨(after fine).1, weaker a o' (after fine).2⟩) fun _ _ => id

theorem Yields.discard {act : Service m α} {R : Office m → Prop}
    (h : Yields P act o fun _ => R) : Yields P (do let _ ← act : Service m Unit) o fun _ => R :=
  ends_bind.mpr (Ends.mono h (fun _ _ after => ends_pure.mpr after) fun _ _ => id)

theorem Yields.snd {act : Service m α} {R : Office m → Prop} (h : Yields P act o fun _ => R)
    (fine : P (act.run.run o).2.store.medium) : P o.store.medium ∧
      (R (act.run.run o).2 ∨ (act.run.run o).2.store.document = o.store.document) := by
  have ends : Ends act o
      (fun _ o' => P o'.store.medium → P o.store.medium ∧
        (R o' ∨ o'.store.document = o.store.document))
      fun _ o' => P o'.store.medium → P o.store.medium ∧
        (R o' ∨ o'.store.document = o.store.document) :=
    Ends.mono h (fun _ _ after fine => (after fine).imp_right .inl)
      fun _ _ after fine => (after fine).imp_right .inr
  exact ends.snd fine

/-! ## Entries of the log -/

/-- The entries of the log. -/
def log (o : Office m) : List Record := o.store.document.table Log.table

/-- One entry is added to the log, about something with an identifier and for a caller. -/
def Records (uuid : String) (caller : Caller) (o o' : Office m) : Prop :=
  ∃ entry : Record, o'.log = o.log ++ [entry] ∧ entry.get? "entity_uuid" = some (.text uuid) ∧
    entry.get? "user_id" = some (.text caller.id) ∧
    entry.get? "user_name" = some (.text caller.name)

variable {cs : List Change} {action : Action} {entityType uuid : String} {id : Option Int}
  {caller : Caller} {details : Option Json}

theorem get?_entry {now : Instant} {column : String} {value : Json}
    (mem : (column, value) ∈
      (Log.entry action entityType id (some uuid) caller details).assignments now []) (n : Int) :
    ((Log.entry action entityType id (some uuid) caller details).row now [] n).get? column =
      some value :=
  Insert.get?_row_of_mem (by simp [Log.entry, Insert.assignments_ofFields]) mem n

/-- Changes that spare the log, and after them an entry. -/
theorem Reaches.records
    (reached : Reaches o (cs ++ [.insert (Log.entry action entityType id (some uuid) caller
      details)]) o')
    (spares : ∀ c ∈ cs, c.Spares Log.table) :
    Records uuid caller o o' ∧ ∃ written, Reaches o cs written ∧
      ∀ t ≠ Log.table, o'.store.document.table t = written.store.document.table t := by
  have last (t : String) : o'.store.document.table t =
      ((Change.insert (Log.entry action entityType id (some uuid) caller details)).apply o.now
        (Change.applyAll o.now cs o.store.document)).table t := by
    rw [reached.document, Change.applyAll_append, Change.applyAll_cons, Change.applyAll_nil]
  have appended : o'.log = o.log ++
      [(Log.entry action entityType id (some uuid) caller details).row o.now []
        ((Change.applyAll o.now cs o.store.document).lastId Log.table + 1)] := by
    unfold log
    rw [last, Change.table_insert, (Change.applyAll_of_spares spares).1]
    exact if_pos rfl
  refine ⟨⟨_, appended, get?_entry ?_ _, get?_entry ?_ _, get?_entry ?_ _⟩, _,
    Reaches.withStore o cs o'.store.medium, fun t other => ?_⟩
  iterate 3 simp [Log.entry, Insert.assignments_ofFields, Json.ofOption]
  rw [last, Change.table_insert]
  exact if_neg other

end Office

/-! ## Rows that are marked -/

namespace Office

variable {m : Type} {o o' : Office m} {s : Update}

/-- The rows of a table after an update. -/
def updated (o : Office m) (s : Update) (t : String) : List Record :=
  if t = s.table then (o.store.document.table t).map (Change.updateRow o.now s)
  else o.store.document.table t

theorem updated_of_eq (o : Office m) {t : String} (same : t = s.table) :
    o.updated s t = (o.store.document.table t).map (Change.updateRow o.now s) := if_pos same

theorem updated_of_ne (o : Office m) {t : String} (other : t ≠ s.table) :
    o.updated s t = o.store.document.table t := if_neg other

theorem row_unchanged {now : Instant} {rows : List Record}
    (same : rows.map (Change.updateRow now s) = rows) {row : Record} (mem : row ∈ rows) :
    Change.updateRow now s row = row :=
  List.map_inj_left.mp (same.trans (List.map_id rows).symm) row mem

theorem Reaches.updated (reached : Reaches o [.update s] o') (t : String) :
    o'.store.document.table t = o.updated s t := by
  rw [reached.document]
  exact Change.table_update s t

theorem Reaches.updated_records {action : Action} {entityType uuid : String} {id : Option Int}
    {caller : Caller} {details : Option Json} (apart : s.table ≠ Log.table)
    (reached : Reaches o ([.update s, .insert (Log.entry action entityType id (some uuid) caller
      details)]) o') :
    Records uuid caller o o' ∧
      ∀ t ≠ Log.table, o'.store.document.table t = o.updated s t := by
  have spares : ∀ c ∈ [Change.update s], c.Spares Log.table := List.forall_mem_singleton.mpr apart
  obtain ⟨records, written, reached, same⟩ := Reaches.records reached spares
  exact ⟨records, fun t other => (same t other).trans (reached.updated t)⟩

end Office

open Office

namespace Calculations

variable {m : Type} {o o' : Office m} {t : String} {id : Int}

theorem isMissing_of_marks {now : Instant} {row : Record}
    (passed : Test.allHold ((markDeleted t id).bound now []).2 row = true) :
    isNamed id row = true ∧ Json.isMissing (row.get? "deleted_at") = true := by
  obtain ⟨named, missing⟩ := Bool.and_eq_true_iff.mp passed
  exact ⟨named, (Bool.and_eq_true_iff.mp missing).1⟩

/-- A deletion that marks a row changes it. -/
theorem updated_markDeleted_ne
    (marks : 0 < ((markDeleted t id).apply o.now [] o.store.document).1.changes) :
    o.updated (markDeleted t id) t ≠ o.store.document.table t := by
  have found : ∃ row ∈ o.store.document.table t,
      Test.allHold ((markDeleted t id).bound o.now []).2 row = true := by
    unfold Update.apply at marks
    dsimp only at marks
    split at marks
    · exact List.countP_pos_iff.mp marks
    · exact absurd marks (Nat.lt_irrefl 0)
  obtain ⟨row, mem, passed⟩ := found
  intro same
  -- The row would carry a mark before.
  have marked : Change.updateRow o.now (markDeleted t id) row = row :=
    row_unchanged ((updated_of_eq o rfl).symm.trans same) mem
  have missing := (isMissing_of_marks passed).2
  have text : row.get? "deleted_at" = some (.text o.now.timestamp) := by
    rw [← marked, Change.updateRow, if_pos passed]
    exact Dict.get?_insert_self ..
  rw [text] at missing
  cases missing

theorem deletion_leaves {uuid : String} {caller : Caller} {action : Action}
    {entityType : String} {details : Option Json} (apart : t ≠ Log.table)
    (reached : Reaches o (.update (markDeleted t id) ::
      if 0 < ((markDeleted t id).apply o.now [] o.store.document).1.changes
      then [.insert (Log.entry action entityType (some id) (some uuid) caller details)]
      else []) o') :
    (∀ t' ≠ Log.table, o'.store.document.table t' = o.updated (markDeleted t id) t') ∧
      (o'.store.document.table t = o.store.document.table t ∧ o'.log = o.log ∨
        o'.store.document.table t ≠ o.store.document.table t ∧ Records uuid caller o o') := by
  split at reached
  · next marks =>
    obtain ⟨records, same⟩ := reached.updated_records apart
    exact ⟨same, .inr ⟨same t apart ▸ updated_markDeleted_ne marks, records⟩⟩
  · next none =>
    have unchanged : o'.store.document = o.store.document :=
      reached.document.trans (Update.apply_of_none (Nat.eq_zero_of_not_pos none))
    refine ⟨fun t' _ => reached.updated t', .inl ⟨by rw [unchanged], ?_⟩⟩
    unfold log
    rw [unchanged]

end Calculations

/-! ## Rows that are stored -/

theorem Office.counters_ne_log : Document.countersTable ≠ Log.table := by decide

theorem Office.calculations_ne_log : Calculations.table ≠ Log.table := by decide

theorem Office.offers_ne_log : Offers.table ≠ Log.table := by decide

theorem Office.accounts_ne_log : Accounts.table ≠ Log.table := by decide

theorem LineItems.spares_log {owner : Owner} {kind : SheetKind} {items : List GarmentItemInput}
    {warehousing : Option WarehousingInput} {c : Change}
    (h : c ∈ changes owner kind items warehousing) : c.Spares Log.table := by
  refine spares_of_mem ?_ ?_ h <;> cases owner <;>
    simp [Owner.garmentTable, Owner.warehousingTable, Log.table]

section Services

variable {m : Type} [Medium m] {P : m → Prop} {o : Office m} {offerPrefix : String}
  (vouches : Medium.Vouches P)
include vouches

namespace Calculations

theorem create_yields (h : o.Sound) (fits : fitsSigned (o.calculations.length + 1) = true)
    (input : CalculationInput) (caller : Caller) :
    Yields P (create offerPrefix input caller) o fun saved o' =>
      saved.id = o.calculations.length + 1 ∧
      saved.uuid = o.supply.uuid o.supply.uuidsTaken ∧ Records saved.uuid caller o o' ∧
      (∃ kunde, o'.calculations =
        o.calculations ++ [o.firstRow offerPrefix saved.uuid kunde input caller]) ∧
      o'.offers = o.offers := by
  have lastId : o.store.document.lastId table = o.calculations.length := h.calculations.lastId
  refine (create_settles vouches (lastId.symm ▸ fits) input caller).yields ?_
  rintro saved cs o' ⟨id, uuid, kunde, rfl⟩ reached
  obtain ⟨records, written, reached, same⟩ := reached.records <| by
    simp only [firstChanges, changes, List.forall_mem_cons]
    exact ⟨counters_ne_log, calculations_ne_log, fun _ => LineItems.spares_log⟩
  rw [uuid] at reached
  have rows := Holds.of_first (List.prefix_refl _) reached
  refine ⟨lastId ▸ id, uuid, records, ⟨kunde, ?_⟩, (same _ offers_ne_log).trans rows.offers⟩
  rw [uuid]
  exact (same _ calculations_ne_log).trans rows.calculations

theorem update_yields (h : o.Sound) (fits : fitsSigned (o.calculations.length + 1) = true)
    (id : Int) (input : CalculationInput) (caller : Caller) :
    Yields P (update offerPrefix id input caller) o fun saved o' =>
      saved.id = o.calculations.length + 1 ∧ Records saved.uuid caller o o' ∧
      (∃ row head kunde, IsHead o.store.document row head ∧ saved.uuid = head.uuid ∧
        o'.calculations = o.retired head.uuid ++ [o.nextRow head kunde input]) ∧
      o'.offers = o.offers := by
  have lastId : o.store.document.lastId table = o.calculations.length := h.calculations.lastId
  refine (update_settles vouches h (lastId.symm ▸ fits) id input caller).yields ?_
  rintro saved cs o' ⟨id, row, head, kunde, isHead, uuid, rfl⟩ reached
  obtain ⟨records, written, reached, same⟩ := reached.records <| by
    simp only [nextChanges, changes, List.forall_mem_cons]
    exact ⟨calculations_ne_log, calculations_ne_log, fun _ => LineItems.spares_log⟩
  have rows := Holds.of_next (List.prefix_refl _) reached
  refine ⟨lastId ▸ id, uuid ▸ records, ⟨row, head, kunde, isHead, uuid, ?_⟩, ?_⟩
  · exact (same _ calculations_ne_log).trans rows.calculations
  · exact (same _ offers_ne_log).trans rows.offers

theorem delete_yields (h : o.Sound) (id : Int) (caller : Caller) :
    Yields P (delete id caller) o fun _ o' =>
      o'.calculations = o.calculations.map (Change.updateRow o.now (markDeleted table id)) ∧
      o'.offers = o.offers ∧
      ∃ c, (∃ row ∈ o.calculations, isNamed id row = true ∧ Calculation.Shown row c) ∧
        (o'.calculations = o.calculations ∧ o'.log = o.log ∨
          o'.calculations ≠ o.calculations ∧ Records c.uuid caller o o') := by
  refine (delete_settles vouches h id caller).yields ?_
  rintro _ cs o' ⟨c, found, rfl⟩ reached
  obtain ⟨rows, noted⟩ := deletion_leaves calculations_ne_log reached
  refine ⟨(rows _ calculations_ne_log).trans (updated_of_eq o rfl), ?_, c, found, noted⟩
  exact (rows _ offers_ne_log).trans (updated_of_ne o table_ne.symm)

theorem rename_yields (uuid title : String) :
    Yields P (rename uuid title) o fun _ o' =>
      o'.calculations =
        o.calculations.map (Change.updateRow o.now (retitle uuid (Text.trim title))) ∧
      o'.offers = o.offers := by
  refine (rename_settles vouches uuid title).yields ?_
  rintro _ cs o' rfl reached
  exact ⟨(reached.updated _).trans (updated_of_eq o rfl),
    (reached.updated _).trans (updated_of_ne o table_ne.symm)⟩

end Calculations

namespace Offers

theorem create_yields (h : o.Sound) (fits : fitsSigned (o.offers.length + 1) = true)
    (input : OfferInput) (caller : Caller) :
    Yields P (create offerPrefix input caller) o fun saved o' =>
      saved.id = o.offers.length + 1 ∧ Records saved.uuid caller o o' ∧
      o'.calculations = o.calculations ∧
      o'.offers = o.offers ++ [o.offerRow offerPrefix saved.uuid input caller] := by
  have lastId : o.store.document.lastId table = o.offers.length := h.offers.lastId
  refine (create_settles vouches (lastId.symm ▸ fits) input caller).yields ?_
  rintro saved cs o' ⟨id, rfl⟩ reached
  obtain ⟨records, written, reached, same⟩ := reached.records <| by
    simp only [newChanges, changes, List.forall_mem_cons]
    exact ⟨counters_ne_log, offers_ne_log, fun _ => LineItems.spares_log⟩
  have rows := Holds.of_offer (List.prefix_refl _) reached
  exact ⟨lastId ▸ id, records, (same _ calculations_ne_log).trans rows.calculations,
    (same _ offers_ne_log).trans rows.offers⟩

theorem delete_yields (id : Int) (caller : Caller) :
    Yields P (delete id caller) o fun _ o' =>
      o'.calculations = o.calculations ∧
      o'.offers =
        o.offers.map (Change.updateRow o.now (Calculations.markDeleted table id)) ∧
      ∃ offer, Finds o id offer ∧
        (o'.offers = o.offers ∧ o'.log = o.log ∨
          o'.offers ≠ o.offers ∧ Records offer.uuid caller o o') := by
  refine (delete_settles vouches id caller).yields ?_
  rintro _ cs o' ⟨offer, found, rfl⟩ reached
  obtain ⟨rows, noted⟩ := Calculations.deletion_leaves offers_ne_log reached
  refine ⟨?_, (rows _ offers_ne_log).trans (updated_of_eq o rfl), offer, found, noted⟩
  exact (rows _ calculations_ne_log).trans (updated_of_ne o Calculations.table_ne)

theorem send_yields (letterhead : Letterhead) (mailer : Mailer) (id : Int)
    (request : SendRequest) (caller : Caller) :
    Yields P (send letterhead mailer id request caller) o fun _ o' =>
      o'.calculations = o.calculations ∧
      o'.offers = o.offers.map (Change.updateRow o.now (markSent id)) ∧
      ∃ offer, Finds o id offer ∧ Records offer.uuid caller o o' := by
  refine (send_settles vouches letterhead mailer id request caller).yields ?_
  rintro _ cs o' ⟨offer, letter, found, rfl⟩ reached
  obtain ⟨records, rows⟩ := reached.updated_records offers_ne_log
  refine ⟨?_, (rows _ offers_ne_log).trans (updated_of_eq o rfl), offer, found, records⟩
  exact (rows _ calculations_ne_log).trans (updated_of_ne o Calculations.table_ne)

end Offers

end Services

end OfferBook
