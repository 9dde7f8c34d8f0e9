import OfferBook.Proofs.Office.Deletions

/-! # History

What was stored stays: entries of the log and sheets as they are, calculations and offers up to a
few fields, each of which is set by calls of one kind.

* `SetBy`, `MarkedBy` — fields that some calls set, and a mark that is set once.
* `Calculations.Later`, `Offers.Later` — a row and what has become of it.
* `Document.Remembers` — a document and what has become of it; `Permits.remembers` — each change
  that a call may make is of this kind, and so are runs of requests.
* `Calculations.deleted_for_good`, `Offers.deleted_for_good` — a mark outlasts what is asked after.
* `Office.history_is_kept` — what holds of any two moments of a run, and of deletions in it.
-/

namespace OfferBook

/-! ## Fields -/

/-- Fields that are changed by calls of a kind only. -/
def SetBy (rs : List Request) (kind : Call → Prop) (columns : List String)
    (row row' : Record) : Prop :=
  (∀ column ∈ columns, row'.get? column = row.get? column) ∨ ∃ r ∈ rs, kind r.call

/-- A field that is set once, to the time of a call of a kind. -/
def MarkedBy (rs : List Request) (kind : Call → Prop) (column : String)
    (row row' : Record) : Prop :=
  row'.get? column = row.get? column ∨
    Json.isMissing (row.get? column) = true ∧
      ∃ r ∈ rs, kind r.call ∧ row'.get? column = some (.text r.now.timestamp)

section Fields

variable {rs more : List Request} {kind : Call → Prop} {columns : List String} {column : String}
  {row row' row'' : Record}

theorem SetBy.mono (h : SetBy rs kind columns row row') (sub : rs ⊆ more) :
    SetBy more kind columns row row' := h.imp_right fun ⟨r, mem, set⟩ => ⟨r, sub mem, set⟩

theorem SetBy.trans (h : SetBy rs kind columns row row') (h' : SetBy rs kind columns row' row'') :
    SetBy rs kind columns row row'' := by
  rcases h with same | set
  · exact h'.imp_left fun same' column mem => (same' column mem).trans (same column mem)
  · exact .inr set

theorem MarkedBy.mono (h : MarkedBy rs kind column row row') (sub : rs ⊆ more) :
    MarkedBy more kind column row row' :=
  h.imp_right (And.imp_right fun ⟨r, mem, set⟩ => ⟨r, sub mem, set⟩)

theorem MarkedBy.trans (h : MarkedBy rs kind column row row')
    (h' : MarkedBy rs kind column row' row'') : MarkedBy rs kind column row row'' := by
  rcases h with same | ⟨missing, r, mem, marks, set⟩
  · unfold MarkedBy at h' ⊢
    rwa [same] at h'
  · rcases h' with same' | ⟨missing', -⟩
    · exact .inr ⟨missing, r, mem, marks, same'.trans set⟩
    · -- The mark is a text, so that it is not set again.
      rw [set] at missing'
      cases missing'

end Fields

namespace Call

/-- Whether a call renames the chain of a row. -/
def Renames (row : Record) : Call → Prop
  | .renameCalculations uuid _ => row.get? "calculation_uuid" = some (.text uuid)
  | _ => False

/-- Whether a call deletes a row of a table. -/
def Deletes (t : String) (row : Record) : Call → Prop
  | .deleteCalculation id _ => t = Calculations.table ∧ Calculations.isNamed id row = true
  | .deleteOffer id _ => t = Offers.table ∧ Calculations.isNamed id row = true
  | _ => False

/-- Whether a call sends the offer of a row. -/
def Sends (row : Record) : Call → Prop
  | .sendOffer _ _ id _ _ => Calculations.isNamed id row = true
  | _ => False

end Call

/-! ## Rows -/

/-- What becomes of a row of a calculation in a run of requests. -/
structure Calculations.Later (rs : List Request) (row row' : Record) : Prop where
  fixed : ∀ column ∉ ["is_current", "kunde", "modified_at", "deleted_at"],
    row'.get? column = row.get? column
  /-- What is no longer current does not become so again. -/
  current : row'.get? "is_current" = row.get? "is_current" ∨
    row.get? "is_current" = some (.bool true) ∧ row'.get? "is_current" = some (.bool false)
  title : SetBy rs (Call.Renames row) ["kunde", "modified_at"] row row'
  deleted : MarkedBy rs (Call.Deletes Calculations.table row) "deleted_at" row row'

/-- What becomes of a row of an offer in a run of requests. -/
structure Offers.Later (rs : List Request) (row row' : Record) : Prop where
  fixed : ∀ column ∉ ["status", "sent_at", "deleted_at"], row'.get? column = row.get? column
  sent : SetBy rs (Call.Sends row) ["status", "sent_at"] row row'
  deleted : MarkedBy rs (Call.Deletes Offers.table row) "deleted_at" row row'

section Rows

variable {rs more : List Request} {row row' row'' : Record}

theorem Call.renames_congr (same : row'.get? "calculation_uuid" = row.get? "calculation_uuid") :
    Call.Renames row' = Call.Renames row := by
  funext call
  cases call <;> simp only [Renames, same]

theorem Call.deletes_congr (t : String) (same : row'.get? "id" = row.get? "id") :
    Call.Deletes t row' = Call.Deletes t row := by
  funext call
  cases call <;> simp only [Deletes, Calculations.isNamed, same]

theorem Call.sends_congr (same : row'.get? "id" = row.get? "id") :
    Call.Sends row' = Call.Sends row := by
  funext call
  cases call <;> simp only [Sends, Calculations.isNamed, same]

namespace Calculations.Later

theorem refl (rs : List Request) (row : Record) : Later rs row row :=
  ⟨fun _ _ => rfl, .inl rfl, .inl fun _ _ => rfl, .inl rfl⟩

theorem mono (h : Later rs row row') (sub : rs ⊆ more) : Later more row row' :=
  ⟨h.fixed, h.current, h.title.mono sub, h.deleted.mono sub⟩

theorem trans (h : Later rs row row') (h' : Later rs row' row'') : Later rs row row'' where
  fixed column free := (h'.fixed column free).trans (h.fixed column free)
  current := by
    rcases h.current with same | ⟨was, ended⟩
    · exact same ▸ h'.current
    · rcases h'.current with same' | ⟨is, -⟩
      · exact .inr ⟨was, same'.trans ended⟩
      · simp [ended] at is
  title := h.title.trans (Call.renames_congr (h.fixed _ (by decide)) ▸ h'.title)
  deleted := h.deleted.trans (Call.deletes_congr _ (h.fixed _ (by decide)) ▸ h'.deleted)

end Calculations.Later

namespace Offers.Later

theorem refl (rs : List Request) (row : Record) : Later rs row row :=
  ⟨fun _ _ => rfl, .inl fun _ _ => rfl, .inl rfl⟩

theorem mono (h : Later rs row row') (sub : rs ⊆ more) : Later more row row' :=
  ⟨h.fixed, h.sent.mono sub, h.deleted.mono sub⟩

theorem trans (h : Later rs row row') (h' : Later rs row' row'') : Later rs row row'' where
  fixed column free := (h'.fixed column free).trans (h.fixed column free)
  sent := h.sent.trans (Call.sends_congr (h.fixed _ (by decide)) ▸ h'.sent)
  deleted := h.deleted.trans (Call.deletes_congr _ (h.fixed _ (by decide)) ▸ h'.deleted)

end Offers.Later

end Rows

/-! ## Updates of rows -/

theorem Change.updateRow_cases (now : Instant) (s : Update) (row : Record) :
    updateRow now s row = row ∨ Test.allHold (s.bound now []).2 row = true ∧
      updateRow now s row = assign (s.bound now []).1 row := by
  unfold updateRow
  split
  · next holds => exact .inr ⟨holds, rfl⟩
  · exact .inl rfl

/-- The form of a calculation's row as far as updates depend on it. -/
structure Calculations.Typed (row : Record) : Prop where
  uuid : Field.IsText (row.get? "calculation_uuid")
  current : Field.IsFlag (row.get? "is_current")

namespace Calculations

variable {rs : List Request} {row row' : Record}

theorem typed_of_admits (h : form.Admits row) : Typed row :=
  ⟨h ("calculation_uuid", Field.IsText) (by simp [form]),
    h ("is_current", Field.IsFlag) (by simp [form])⟩

theorem Later.typed (h : Later rs row row') (typed : Typed row) : Typed row' where
  uuid := h.fixed "calculation_uuid" (by decide) ▸ typed.uuid
  current := by
    rcases h.current with same | ⟨-, ended⟩
    · exact same ▸ typed.current
    · exact ⟨false, ended⟩

theorem later_retire (r : Request) (uuid : String) (typed : Typed row) :
    Later [r] row (Change.updateRow r.now (retire uuid) row) := by
  rcases Change.updateRow_cases r.now (retire uuid) row with same | ⟨-, assigned⟩
  · rw [same]
    exact .refl _ row
  · have set (column : String) : (Change.updateRow r.now (retire uuid) row).get? column =
        if column = "is_current" then some (.bool false) else row.get? column := by
      rw [assigned]
      exact Dict.get?_insert ..
    refine ⟨fun column free => ?_, ?_, .inl fun column mem => ?_, .inl ?_⟩
    · rw [set, if_neg (by rintro rfl; simp at free)]
    · rw [set, if_pos rfl]
      obtain ⟨b, flag⟩ := typed.current
      cases b with
      | false => exact .inl flag.symm
      | true => exact .inr ⟨flag, rfl⟩
    · rw [set, if_neg (by rintro rfl; simp at mem)]
    · rw [set, if_neg (by decide)]

theorem later_retitle {r : Request} {uuid title title' : String}
    (call : r.call = .renameCalculations uuid title) (typed : Typed row) :
    Later [r] row (Change.updateRow r.now (retitle uuid title') row) := by
  rcases Change.updateRow_cases r.now (retitle uuid title') row with same | ⟨passed, -⟩
  · rw [same]
    exact .refl _ row
  · have kept (column : String) (free : column ∉ ["kunde", "modified_at"]) :
        (Change.updateRow r.now (retitle uuid title') row).get? column = row.get? column :=
      Change.get?_updateRow_of_notMem free row
    have named : row.get? "calculation_uuid" = some (.text uuid) := by
      have passed : Json.matchesValue (row.get? "calculation_uuid") (.text uuid) = true :=
        (Bool.and_eq_true_iff.mp passed).1
      rwa [Json.matchesValue_text typed.uuid, decide_eq_true_iff] at passed
    have renames : r.call.Renames row := call ▸ named
    have others : ["kunde", "modified_at"] ⊆ ["is_current", "kunde", "modified_at", "deleted_at"] :=
      by simp
    exact ⟨fun column free => kept column fun mem => free (others mem),
      .inl (kept _ (by decide)), .inr ⟨r, List.mem_singleton_self r, renames⟩,
      .inl (kept _ (by decide))⟩

theorem marked_markDeleted {r : Request} {t : String} {id : Int}
    (call : isNamed id row = true → r.call.Deletes t row) :
    MarkedBy [r] (Call.Deletes t row) "deleted_at" row
      (Change.updateRow r.now (markDeleted t id) row) := by
  rcases Change.updateRow_cases r.now (markDeleted t id) row with same | ⟨passed, assigned⟩
  · exact .inl (by rw [same])
  · obtain ⟨named, missing⟩ := Bool.and_eq_true_iff.mp passed
    refine .inr ⟨(Bool.and_eq_true_iff.mp missing).1, r, List.mem_singleton_self r, call named, ?_⟩
    rw [assigned]
    exact Dict.get?_insert_self ..

theorem later_markDeleted {r : Request} {id : Int} {caller : Caller}
    (call : r.call = .deleteCalculation id caller) :
    Later [r] row (Change.updateRow r.now (markDeleted table id) row) := by
  have kept (column : String) (free : column ∉ ["deleted_at"]) :
      (Change.updateRow r.now (markDeleted table id) row).get? column = row.get? column :=
    Change.get?_updateRow_of_notMem free row
  have others : ["deleted_at"] ⊆ ["is_current", "kunde", "modified_at", "deleted_at"] := by simp
  refine ⟨fun column free => kept column fun mem => free (others mem), .inl (kept _ (by decide)),
    .inl ?_, marked_markDeleted fun named => call ▸ ⟨rfl, named⟩⟩
  simp [kept]

end Calculations

namespace Offers

variable {row : Record} {r : Request} {id : Int}

theorem later_markSent {letterhead : Letterhead} {mailer : Mailer} {request : SendRequest}
    {caller : Caller} (call : r.call = .sendOffer letterhead mailer id request caller) :
    Later [r] row (Change.updateRow r.now (markSent id) row) := by
  rcases Change.updateRow_cases r.now (markSent id) row with same | ⟨passed, -⟩
  · rw [same]
    exact .refl _ row
  · have kept (column : String) (free : column ∉ ["status", "sent_at"]) :
        (Change.updateRow r.now (markSent id) row).get? column = row.get? column :=
      Change.get?_updateRow_of_notMem free row
    have named : Calculations.isNamed id row = true := (Bool.and_eq_true_iff.mp passed).1
    have others : ["status", "sent_at"] ⊆ ["status", "sent_at", "deleted_at"] := by simp
    have sends : r.call.Sends row := call ▸ named
    exact ⟨fun column free => kept column fun mem => free (others mem),
      .inr ⟨r, List.mem_singleton_self r, sends⟩, .inl (kept _ (by decide))⟩

theorem later_markDeleted {caller : Caller} (call : r.call = .deleteOffer id caller) :
    Later [r] row (Change.updateRow r.now (Calculations.markDeleted table id) row) := by
  have kept (column : String) (free : column ∉ ["deleted_at"]) :
      (Change.updateRow r.now (Calculations.markDeleted table id) row).get? column =
        row.get? column := Change.get?_updateRow_of_notMem free row
  have others : ["deleted_at"] ⊆ ["status", "sent_at", "deleted_at"] := by simp
  refine ⟨fun column free => kept column fun mem => free (others mem), .inl ?_,
    Calculations.marked_markDeleted fun named => call ▸ ⟨rfl, named⟩⟩
  simp [kept]

end Offers

/-! ## Documents -/

/-- The tables to which rows are only added. -/
def addedOnly : List String :=
  [Log.table, "garment_data", "warehousing_data", "garment_offer_data", "warehousing_offer_data"]

/-- Rows are still there, in their places, and `R` tells what has become of them. -/
def Still (R : Record → Record → Prop) (rows rows' : List Record) : Prop :=
  ∀ (k : Nat) (row : Record), rows[k]? = some row → ∃ row', rows'[k]? = some row' ∧ R row row'

section Still

variable {R : Record → Record → Prop} {rows rows' rows'' : List Record}

theorem Still.refl (h : ∀ row, R row row) (rows : List Record) : Still R rows rows :=
  fun _ row hk => ⟨row, hk, h row⟩

theorem Still.imp {S : Record → Record → Prop} (h : Still R rows rows')
    (weaker : ∀ row row', R row row' → S row row') : Still S rows rows' := by
  intro k row hk
  obtain ⟨row', hk', becomes⟩ := h k row hk
  exact ⟨row', hk', weaker row row' becomes⟩

theorem Still.trans (h : Still R rows rows') (h' : Still R rows' rows'')
    (compose : ∀ a b c, R a b → R b c → R a c) : Still R rows rows'' := by
  intro k row hk
  obtain ⟨row', hk', becomes⟩ := h k row hk
  obtain ⟨row'', hk'', becomes'⟩ := h' k row' hk'
  exact ⟨row'', hk'', compose _ _ _ becomes becomes'⟩

theorem Still.append (h : ∀ row, R row row) (rows more : List Record) :
    Still R rows (rows ++ more) := by
  intro k row hk
  refine ⟨row, ?_, h row⟩
  rw [List.getElem?_append_left (List.getElem?_eq_some_iff.mp hk).1, hk]

theorem Still.map {f : Record → Record} (h : ∀ row, R row (f row)) (rows : List Record) :
    Still R rows (rows.map f) := by
  intro k row hk
  refine ⟨f row, ?_, h row⟩
  rw [List.getElem?_map, hk]
  rfl

/-- What a change does to the rows that there are. -/
theorem Still.change {now : Instant} {doc : Document} {t : String} (h : ∀ row, R row row)
    (apart : t ≠ Document.countersTable) {c : Change}
    (updated : ∀ s, c = .update s → s.table = t → ∀ row, R row (Change.updateRow now s row)) :
    Still R (doc.table t) ((c.apply now doc).table t) := by
  cases c with
  | insert s =>
    rw [Change.table_insert]
    split
    · exact .append h _ _
    · exact .refl h _
  | update s =>
    rw [Change.table_update]
    split
    · next same => exact .map (updated s rfl same.symm) _
    · exact .refl h _
  | advance key =>
    rw [Change.table_advance key apart]
    exact .refl h _

end Still

/-- A document in a run of requests, and what has become of it. -/
structure Document.Remembers (rs : List Request) (doc doc' : Document) : Prop where
  added : ∀ t ∈ addedOnly, doc.table t <+: doc'.table t
  calculations : Still (fun row row' => Calculations.Typed row → Calculations.Later rs row row')
    (doc.table Calculations.table) (doc'.table Calculations.table)
  offers : Still (Offers.Later rs) (doc.table Offers.table) (doc'.table Offers.table)

namespace Document.Remembers

variable {rs more : List Request} {doc doc' doc'' : Document}

theorem refl (rs : List Request) (doc : Document) : Remembers rs doc doc :=
  ⟨fun _ _ => List.prefix_refl _, .refl (fun row _ => .refl rs row) _, .refl (.refl rs) _⟩

theorem mono (h : Remembers rs doc doc') (sub : rs ⊆ more) : Remembers more doc doc' :=
  ⟨h.added, h.calculations.imp fun _ _ later typed => (later typed).mono sub,
    h.offers.imp fun _ _ later => later.mono sub⟩

theorem trans (h : Remembers rs doc doc') (h' : Remembers rs doc' doc'') :
    Remembers rs doc doc'' where
  added t ht := (h.added t ht).trans (h'.added t ht)
  calculations := h.calculations.trans h'.calculations fun _ _ _ later later' typed =>
    (later typed).trans (later' ((later typed).typed typed))
  offers := h.offers.trans h'.offers fun _ _ _ => .trans

end Document.Remembers

namespace Permits

/-- The tables that are updated are not those to which rows are only added. -/
theorem updated_apart {call : Call} {s : Update} (h : Permits call (.update s)) :
    s.table ∉ addedOnly := by
  have apart : ∀ t ∈ [Accounts.table, Calculations.table, Offers.table], t ∉ addedOnly := by decide
  refine apart _ ?_
  cases h with
  | account => exact List.mem_cons_self
  | retire | retitle | deleteCalculation => exact List.mem_cons_of_mem _ List.mem_cons_self
  | deleteOffer | markSent => exact List.mem_of_getLast? rfl

theorem calculations_later {r : Request} {s : Update} (h : Permits r.call (.update s))
    (table : s.table = Calculations.table) {row : Record} (typed : Calculations.Typed row) :
    Calculations.Later [r] row (Change.updateRow r.now s row) := by
  generalize call : r.call = c at h
  cases h with
  | account => exact absurd table (show Accounts.table ≠ Calculations.table by decide)
  | retire uuid => exact Calculations.later_retire r uuid typed
  | retitle => exact Calculations.later_retitle call typed
  | deleteCalculation => exact Calculations.later_markDeleted call
  | deleteOffer => exact absurd table.symm Calculations.table_ne
  | markSent => exact absurd table.symm Calculations.table_ne

theorem offers_later {r : Request} {s : Update} (h : Permits r.call (.update s))
    (table : s.table = Offers.table) (row : Record) :
    Offers.Later [r] row (Change.updateRow r.now s row) := by
  generalize call : r.call = c at h
  cases h with
  | account => exact absurd table (show Accounts.table ≠ Offers.table by decide)
  | retire => exact absurd table Calculations.table_ne
  | retitle => exact absurd table Calculations.table_ne
  | deleteCalculation => exact absurd table Calculations.table_ne
  | deleteOffer => exact Offers.later_markDeleted call
  | markSent => exact Offers.later_markSent call

theorem remembers {r : Request} {c : Change} (h : Permits r.call c) (doc : Document) :
    doc.Remembers [r] (c.apply r.now doc) where
  added t ht := by
    cases c with
    | insert s =>
      rw [Change.table_insert]
      split
      · exact List.prefix_append _ _
      · exact List.prefix_refl _
    | update s =>
      have apart : t ≠ s.table := by
        rintro rfl
        exact h.updated_apart ht
      have same : ((Change.update s).apply r.now doc).table t = doc.table t :=
        (Change.table_update s t).trans (if_neg apart)
      exact same ▸ List.prefix_refl _
    | advance key =>
      have apart : t ≠ Document.countersTable := by
        rintro rfl
        exact absurd ht (by decide)
      exact Change.table_advance key apart ▸ List.prefix_refl _
  calculations := by
    refine .change (fun row _ => .refl _ row) Office.calculations_apart ?_
    rintro s rfl same row typed
    exact h.calculations_later same typed
  offers := by
    refine .change (.refl _) Office.offers_apart ?_
    rintro s rfl same row
    exact h.offers_later same row

end Permits

namespace Office

variable {m : Type} [Medium m] {offerPrefix : String} {o : Office m}

theorem serve_remembers (offerPrefix : String) (h : o.Sound) (r : Request) :
    o.store.document.Remembers [r] (serve offerPrefix o r).store.document := by
  obtain ⟨changes, permitted, reached⟩ := serve_made offerPrefix h r
  rw [reached.document]
  exact Change.applyAll_induction (P := fun doc => o.store.document.Remembers [r] doc)
    (fun c hc doc before => before.trans ((permitted c hc).remembers doc)) (.refl _ _)

theorem serveAll_remembers (offerPrefix : String) (h : o.Sound) (rs : List Request) :
    (serveAll offerPrefix o rs).Sound ∧
      o.store.document.Remembers rs (serveAll offerPrefix o rs).store.document := by
  induction rs generalizing o with
  | nil => exact ⟨h, .refl _ _⟩
  | cons r rest ih =>
    obtain ⟨sound, later⟩ := ih (o := serve offerPrefix o r) (h.serve r)
    refine ⟨sound, .trans ?_ (later.mono (List.subset_cons_self r rest))⟩
    exact (serve_remembers offerPrefix h r).mono (by simp)

end Office

/-! ## What is deleted -/

theorem MarkedBy.of_isText {rs : List Request} {kind : Call → Prop} {column : String}
    {row row' : Record} (h : MarkedBy rs kind column row row')
    (text : Field.IsText (row.get? column)) : Field.IsText (row'.get? column) := by
  rcases h with same | ⟨missing, -⟩
  · exact same ▸ text
  · obtain ⟨s, text⟩ := text
    rw [text] at missing
    cases missing

section Deleted

open Office

variable {m : Type} [Medium m] {offerPrefix : String} {o o₁ : Office m} {id : Int}
  {caller : Caller}

theorem Calculations.deleted_for_good (h : o.Sound) (fits : fitsSigned id = true)
    (run : (delete id caller).run.run o = (.ok (), o₁)) (h₁ : o₁.Sound) {more : List Request}
    (few : fitsSigned (serveAll offerPrefix o₁ more).calculations.length = true)
    (caller' : Caller) (now : Instant) :
    DeletesNothing (delete id caller') ((serveAll offerPrefix o₁ more).setNow now) := by
  obtain ⟨k, row, row₁, hk, named, hk₁, text⟩ := (delete_marks h id caller).of_ok run
  obtain ⟨h₂, remembers⟩ := serveAll_remembers offerPrefix h₁ more
  obtain ⟨row₂, hk₂, later⟩ := remembers.calculations k row₁ hk₁
  have marked : Field.IsText (row₂.get? "deleted_at") :=
    (later (typed_of_admits (h₁.calculations.admits row₁ (List.mem_of_getElem? hk₁)))).deleted
      |>.of_isText text
  have named₂ : isNamed id row₂ = true := by
    rwa [isNamed, h₂.calculations.numbered k row₂ hk₂, ← h.calculations.numbered k row hk]
  obtain rfl : id = k + 1 := (h₂.calculations.isNamed_iff few fits hk₂).mp named₂
  exact delete_again (h₂.setNow now) few hk₂ marked caller'

theorem Offers.deleted_for_good (h : o.Sound) (fits : fitsSigned id = true)
    (run : (delete id caller).run.run o = (.ok (), o₁)) (h₁ : o₁.Sound) {rs more : List Request}
    (remembers₁ : o.store.document.Remembers rs o₁.store.document)
    (few : fitsSigned (serveAll offerPrefix o₁ more).offers.length = true) (caller' : Caller)
    (now : Instant) :
    DeletesNothing (delete id caller') ((serveAll offerPrefix o₁ more).setNow now) := by
  obtain ⟨k, row, row₁, hk, named, ⟨offer, read⟩, hk₁, text⟩ := (delete_marks h id caller).of_ok run
  obtain ⟨h₂, remembers₂⟩ := serveAll_remembers offerPrefix h₁ more
  obtain ⟨row₂, hk₂, later₂⟩ := remembers₂.offers k row₁ hk₁
  have marked : Field.IsText (row₂.get? "deleted_at") := later₂.deleted.of_isText text
  have named₂ : Calculations.isNamed id row₂ = true := by
    rwa [Calculations.isNamed, h₂.offers.numbered k row₂ hk₂, ← h.offers.numbered k row hk]
  obtain rfl : id = k + 1 := (h₂.offers.isNamed_iff few fits hk₂).mp named₂
  -- The offer can still be read, as the field that may be out of range has not changed.
  have source : ∃ source, Fields.optional "source_calculation_id" Strict.integer? row₂.entries =
      some source := by
    obtain ⟨row', hk', later₁⟩ := remembers₁.offers k row hk
    obtain rfl : row₁ = row' := Option.some.inj (hk₁.symm.trans hk')
    have same : Entries.lookup "source_calculation_id" row₂.entries =
        Entries.lookup "source_calculation_id" row.entries :=
      (later₂.fixed _ (by decide)).trans (later₁.fixed _ (by decide))
    have readable := (Offer.fits_of_ofRecord? (h.offers.numbered k row hk) read).2
    rwa [Fields.optional, Fields.orDefault, same]
  exact delete_again (h₂.setNow now) few hk₂ source marked caller'

end Deleted

/-! ## Runs -/

namespace Office

variable {m : Type} [Medium m] {offerPrefix : String} {o : Office m}

/-- Whatever is asked of a new office, and whichever saves fail, what is stored at one moment is
    history at any later one. What has been deleted is not deleted again: this changes nothing,
    and only the saving of a document can fail. -/
theorem history_is_kept (h : o.IsNew) (rs more : List Request) :
    (∀ t ∈ addedOnly, (serveAll offerPrefix o rs).store.document.table t <+:
      (serveAll offerPrefix (serveAll offerPrefix o rs) more).store.document.table t) ∧
    Still (Calculations.Later more) (serveAll offerPrefix o rs).calculations
      (serveAll offerPrefix (serveAll offerPrefix o rs) more).calculations ∧
    Still (Offers.Later more) (serveAll offerPrefix o rs).offers
      (serveAll offerPrefix (serveAll offerPrefix o rs) more).offers ∧
    ∀ delete ∈ [Call.deleteCalculation, Call.deleteOffer], ∀ (id : Int) (caller : Caller)
      (now : Instant) (o₁ : Office m), fitsSigned id = true →
      fitsSigned (rs.length + 1 + more.length) = true →
      ((delete id caller).work offerPrefix).run.run ((serveAll offerPrefix o rs).setNow now) =
        (.ok (), o₁) →
      ∀ (caller' : Caller) (now' : Instant), DeletesNothing ((delete id caller').work offerPrefix)
        ((serveAll offerPrefix o₁ more).setNow now') := by
  have sound : (serveAll offerPrefix o rs).Sound := (serveAll_remembers offerPrefix h.sound rs).1
  have remembers := (serveAll_remembers offerPrefix sound more).2
  refine ⟨remembers.added, fun k row hk => ?_, remembers.offers, ?_⟩
  · obtain ⟨row', hk', later⟩ := remembers.calculations k row hk
    have admitted := sound.calculations.admits row (List.mem_of_getElem? hk)
    exact ⟨row', hk', later (Calculations.typed_of_admits admitted)⟩
  · intro delete mem id caller now o₁ fits few run caller' now'
    have before : ((serveAll offerPrefix o rs).setNow now).Sound := sound.setNow now
    have served : serve offerPrefix (serveAll offerPrefix o rs) ⟨now, delete id caller⟩ = o₁ :=
      congrArg Prod.snd run
    have sound₁ : o₁.Sound := served ▸ sound.serve _
    have remembers₁ := served ▸ serve_remembers offerPrefix sound _
    -- The whole run is short enough for ids of 64 bits, so the id still names the same row.
    have fewRows := serveAll_few offerPrefix h.sound
      (rs ++ ⟨now, delete id caller⟩ :: more)
    have same : serveAll offerPrefix o (rs ++ ⟨now, delete id caller⟩ :: more) =
        serveAll offerPrefix o₁ more := by
      rw [← served]
      exact List.foldl_append
    have none : o.calculations.length = 0 ∧ o.offers.length = 0 :=
      ⟨List.length_eq_zero_iff.mpr (h.isEmpty _).1, List.length_eq_zero_iff.mpr (h.isEmpty _).1⟩
    rw [same, none.1, none.2, List.length_append, List.length_cons] at fewRows
    rw [fitsSigned_iff] at few
    simp only [List.mem_cons, List.not_mem_nil, or_false] at mem
    rcases mem with rfl | rfl
    · have few : fitsSigned (serveAll offerPrefix o₁ more).calculations.length = true := by
        rw [fitsSigned_iff]
        omega
      exact Calculations.deleted_for_good before fits run sound₁ few caller' now'
    · have few : fitsSigned (serveAll offerPrefix o₁ more).offers.length = true := by
        rw [fitsSigned_iff]
        omega
      exact Offers.deleted_for_good before fits run sound₁ remembers₁ few caller' now'

theorem history_kept_after_deletion :
    ∃ o₁, ((Call.deleteCalculation 1 somebody).work "FHD").run.run
        ((serveAll "FHD" inMemory dayBefore).setNow 86400000) = (.ok (), o₁) ∧
      Still (Calculations.Later [⟨86400000, .deleteCalculation 1 somebody⟩])
        (serveAll "FHD" inMemory dayBefore).calculations
        (serveAll "FHD" (serveAll "FHD" inMemory dayBefore)
          [⟨86400000, .deleteCalculation 1 somebody⟩]).calculations ∧
      DeletesNothing ((Call.deleteCalculation 1 somebody).work "FHD") (o₁.setNow 172800000) := by
  have kept := @history_is_kept Memory _ "FHD" inMemory (isNew_opened _ 0) dayBefore
  have succeeds : (((Call.deleteCalculation 1 somebody).work "FHD").run.run
      ((serveAll "FHD" inMemory dayBefore).setNow 86400000)).1.toOption.any (fun _ => true) :=
    by decide +kernel
  obtain ⟨_, o₁, run, -⟩ := exists_of_ok succeeds
  exact ⟨o₁, run, (kept [⟨86400000, .deleteCalculation 1 somebody⟩]).2.1,
    (kept []).2.2.2 Call.deleteCalculation (by simp) 1 somebody 86400000 o₁ (by decide) (by decide)
      run somebody 172800000⟩

/-- The medium takes five documents, three for a calculation and two for the mark and its entry in
    the log. The second deletion attempts to save a sixth. -/
theorem deletion_again_may_fail :
    let first := (Calculations.delete 1 somebody).run.run
      ((serveAll "FHD" (withSaves 5) dayBefore).setNow 86400000)
    first.1.isOk = true ∧ ((Calculations.delete 1 somebody).run.run first.2).1.isOk = false := by
  decide +kernel

end Office

end OfferBook
