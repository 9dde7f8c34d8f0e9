import Mathlib.Data.List.Nodup
import OfferBook.Proofs.Office.Soundness

/-! # Accounts have ids of their own

* `Office.Enrolled` — the invariant of an office whose accounts have different ids.
* `Office.seedAdmin_ends` — the one call that makes accounts takes a fresh id.
* `Enrolled.serve`, `Enrolled.serveAll` — requests keep the ids apart.
* `Enrolled.eq_of_id` — an id belongs to one account.
-/

namespace OfferBook.Office

variable {m : Type} {offerPrefix : String} {o o' : Office m}

/-- The ids of the accounts. -/
def accountIds (o : Office m) : List (Option Json) :=
  (o.store.document.table Accounts.table).map (·.get? "id")

/-- Each account has an identifier that was taken for it alone. -/
structure Enrolled (o : Office m) : Prop where
  distinct : Function.Injective o.supply.uuid
  taken : ∃ ks : List Nat, ks.Nodup ∧ (∀ k ∈ ks, k < o.supply.uuidsTaken) ∧
    o.accountIds = ks.map fun k => some (.text (o.supply.uuid k))

theorem IsNew.enrolled (h : o.IsNew) : o.Enrolled := by
  refine ⟨h.distinct, [], List.nodup_nil, List.forall_mem_nil _, ?_⟩
  rw [accountIds, (h.isEmpty _).1]
  rfl

theorem Enrolled.of_same (h : o.Enrolled) {changes : List Change} (reached : Reaches o changes o')
    (same : o'.accountIds = o.accountIds) : o'.Enrolled := by
  obtain ⟨ks, apart, taken, ids⟩ := h.taken
  refine ⟨reached.uuid ▸ h.distinct, ks, apart, fun k mem => ?_, ?_⟩
  · exact Nat.lt_of_lt_of_le (taken k mem) reached.taken
  · rw [same, ids, reached.uuid]

theorem Enrolled.of_new (h : o.Enrolled) {changes : List Change} (reached : Reaches o changes o')
    (fresh : o.supply.uuidsTaken < o'.supply.uuidsTaken)
    (new : o'.accountIds =
      o.accountIds ++ [some (.text (o.supply.uuid o.supply.uuidsTaken))]) : o'.Enrolled := by
  obtain ⟨ks, apart, taken, ids⟩ := h.taken
  refine ⟨reached.uuid ▸ h.distinct, ks ++ [o.supply.uuidsTaken], ?_, ?_, ?_⟩
  · refine List.nodup_append.mpr ⟨apart, by simp, fun k mem k' last => ?_⟩
    exact Nat.ne_of_lt (List.mem_singleton.mp last ▸ taken k mem)
  · refine List.forall_mem_append.mpr ⟨fun k mem => ?_, List.forall_mem_singleton.mpr fresh⟩
    exact Nat.lt_of_lt_of_le (taken k mem) reached.taken
  · rw [new, ids, reached.uuid, List.map_append]
    rfl

theorem Enrolled.setNow (h : o.Enrolled) (now : Instant) : (o.setNow now).Enrolled :=
  ⟨h.distinct, h.taken⟩

/-- An id belongs to one account. -/
theorem Enrolled.eq_of_id (h : o.Enrolled) {row other : Record}
    (mem : row ∈ o.store.document.table Accounts.table)
    (mem' : other ∈ o.store.document.table Accounts.table)
    (same : row.get? "id" = other.get? "id") : row = other := by
  obtain ⟨ks, apart, -, ids⟩ := h.taken
  have nodup : o.accountIds.Nodup := by
    rw [ids]
    refine List.Nodup.map (fun k k' eq => h.distinct ?_) apart
    simpa using eq
  exact List.inj_on_of_nodup_map nodup mem mem' same

/-! ## Requests -/

/-- Other calls than those that make accounts keep their ids. -/
theorem accountIds_of_made {call : Call} (idle : ∀ cost email name password,
    call ≠ .seedAdmin cost email name password) (made : Made (Permits call) o o') :
    o'.accountIds = o.accountIds := by
  obtain ⟨changes, permitted, reached⟩ := made
  have keeps (c : Change) (mem : c ∈ changes) (doc : Document) :
      ((c.apply o.now doc).table Accounts.table).map (·.get? "id") =
        (doc.table Accounts.table).map (·.get? "id") := by
    rcases (permitted c mem).accounts_cases with
      spares | ⟨cost, email, name, password, _, _, seeds, -⟩ | ⟨id, hashed, rfl⟩
    · rw [spares.apply.1]
    · exact absurd seeds (idle cost email name password)
    · have same : Accounts.table = (Accounts.setPassword id hashed).table := rfl
      rw [Change.table_update, if_pos same, List.map_map]
      exact List.map_congr_left fun row _ =>
        Change.get?_updateRow_of_notMem (by simp [Accounts.setPassword]) row
  unfold accountIds
  rw [reached.document]
  exact Change.applyAll_induction
    (P := fun doc => (doc.table Accounts.table).map (·.get? "id") =
      (o.store.document.table Accounts.table).map (·.get? "id"))
    (fun c mem doc h => (keeps c mem doc).trans h) rfl

/-- What becomes of the accounts where one may be made. -/
def Enrols (o o' : Office m) : Prop :=
  ∃ changes, Reaches o changes o' ∧ (o'.accountIds = o.accountIds ∨
    o.supply.uuidsTaken < o'.supply.uuidsTaken ∧
      o'.accountIds = o.accountIds ++ [some (.text (o.supply.uuid o.supply.uuidsTaken))])

theorem Enrols.of_idle (reached : Reaches o [] o') : Enrols o o' := by
  refine ⟨[], reached, .inl ?_⟩
  unfold accountIds
  rw [reached.document]
  rfl

theorem Enrols.of_insert {email hashed name : String} {done : List Change}
    (part : done <+: [.insert (Accounts.adminRow (o.supply.uuid o.supply.uuidsTaken) email hashed
      name)])
    (reached : Reaches o.takeUuid done o') : Enrols o o' := by
  match done with
  | [] => exact .of_idle reached.of_takeUuid
  | c :: more =>
    obtain ⟨rfl, nothing⟩ := List.cons_prefix_cons.mp part
    obtain rfl := List.prefix_nil.mp nothing
    refine ⟨_, reached.of_takeUuid, .inr ⟨reached.taken, ?_⟩⟩
    have same : Accounts.table = (Accounts.adminRow (o.supply.uuid o.supply.uuidsTaken) email
      hashed name).table := rfl
    unfold accountIds
    rw [reached.document, Change.applyAll_cons, Change.applyAll_nil, Change.table_insert,
      if_pos same, List.map_append]
    have own : ∀ n, ((Accounts.adminRow (o.supply.uuid o.supply.uuidsTaken) email hashed name).row
        o.now [] n).get? "id" = some (.text (o.supply.uuid o.supply.uuidsTaken)) := by
      refine Insert.get?_row_of_mem ?_ ?_ <;>
        simp [Accounts.adminRow, Insert.assignments_ofFields]
    exact congrArg (_ ++ [·]) (own _)

variable [Medium m]

theorem seedAdmin_ends (cost : Nat) (email name password : String) :
    Ends (Accounts.seedAdmin cost email name password) o (fun _ => Enrols o) fun _ => Enrols o := by
  unfold Accounts.seedAdmin
  refine ends_bind.mpr (ends_select.mpr ?_)
  split
  · refine ends_bind.mpr (ends_freshUuid.mpr (ends_bind.mpr ?_))
    -- The hash takes a salt and changes nothing.
    have hash : Makes (fun _ => False) (Accounts.hash cost password : Work m String) :=
      Makes.hash cost password
    have idle {o₁ o₂ : Office m} (made : Made (fun _ => False) o₁ o₂) : Reaches o₁ [] o₂ := by
      obtain ⟨changes, none, reached⟩ := made
      exact List.eq_nil_iff_forall_not_mem.mpr none ▸ reached
    refine (hash o.takeUuid).mono (fun hashed o₁ made => ?_) fun _ _ made =>
      .of_idle (idle made).of_takeUuid
    refine ends_bind.mpr (Ends.mono (Performs.insert _) ?_ ?_)
    · rintro _ o₂ ⟨-, reached⟩
      exact ends_pure.mpr (.of_insert (List.prefix_refl _) ((idle made).trans reached))
    · rintro _ o₂ ⟨done, part, reached⟩
      exact .of_insert part ((idle made).trans reached)
  · exact ends_pure.mpr (.of_idle (Reaches.refl o))

theorem Enrolled.serve (h : o.Enrolled) (sound : o.Sound) (r : Request) :
    (serve offerPrefix o r).Enrolled := by
  have before := h.setNow r.now
  by_cases seeds : ∃ cost email name password, r.call = .seedAdmin cost email name password
  · obtain ⟨cost, email, name, password, seeds⟩ := seeds
    have enrols : Enrols (o.setNow r.now) (Office.serve offerPrefix o r) := by
      rw [Office.serve, seeds]
      exact (ends_discard (ends_storage.mpr (seedAdmin_ends cost email name password))).snd
    obtain ⟨changes, reached, same | ⟨fresh, new⟩⟩ := enrols
    · exact before.of_same reached same
    · exact before.of_new reached fresh new
  · have made := serve_made offerPrefix sound r
    obtain ⟨changes, -, reached⟩ := id made
    refine before.of_same reached (accountIds_of_made (fun cost email name password => ?_) made)
    exact fun same => seeds ⟨cost, email, name, password, same⟩

theorem Enrolled.serveAll (h : o.Enrolled) (sound : o.Sound) (rs : List Request) :
    (serveAll offerPrefix o rs).Enrolled := by
  induction rs generalizing o with
  | nil => exact h
  | cons r rest ih => exact ih (h.serve sound r) (sound.serve r)

end OfferBook.Office
