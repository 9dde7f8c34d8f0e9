import OfferBook.Proofs.Calculations.Linear

/-! # Chains of versions stay linear

* `Office.Chained` — the invariant of an office all of whose chains are linear.
* `Office.Chained.growth`, `Office.Chained.aside` — the two steps of a request keep it;
  `Office.Chained.serve` — so does the request, wherever it was cut short.
* `Calculations.IsLatest` — a saved version that is the only current one of its chain.
* `Office.chains_stay_linear` — what becomes of the chains of an office that was new.
-/

namespace OfferBook

/-! ## The invariant -/

namespace Office

variable {m : Type} {offerPrefix : String} {o o' : Office m} {n : Nat}

/-- All chains are linear, each begun with an identifier of its own. -/
structure Chained (n : Nat) (o : Office m) : Prop where
  sound : o.Sound
  distinct : Function.Injective o.supply.uuid
  linear : ∀ uuid, Linear (o.store.document.chain uuid)
  taken : ∀ row ∈ o.calculations, ∃ k, k < o.supply.uuidsTaken ∧
    row.get? "calculation_uuid" = some (.text (o.supply.uuid k))
  few : o.calculations.length ≤ n

theorem IsNew.chained (h : o.IsNew) : Chained 0 o := by
  have empty : o.calculations = [] := (h.isEmpty _).1
  refine ⟨h.sound, h.distinct, fun uuid => ?_, ?_, ?_⟩
  · have : o.store.document.chain uuid = o.calculations.filter (Calculations.isOf uuid) := rfl
    rw [this, empty]
    exact Linear.nil
  · simp [empty]
  · simp [empty]

theorem chain_concat {rows : List Record} {row : Record} (h : o'.calculations = rows ++ [row])
    (uuid : String) :
    o'.store.document.chain uuid = rows.filter (Calculations.isOf uuid) ++
      if Calculations.isOf uuid row then [row] else [] := by
  change o'.calculations.filter (Calculations.isOf uuid) = _
  rw [h, List.filter_append, List.filter_cons]
  rfl

theorem filter_retired (o : Office m) (retiredUuid uuid : String) :
    (o.retired retiredUuid).filter (Calculations.isOf uuid) =
      (o.store.document.chain uuid).map
        (Change.updateRow o.now (Calculations.retire retiredUuid)) :=
  Calculations.filter_isOf_map fun row => Calculations.get?_retired (by decide) row

/-! ## Fields of new rows -/

theorem isOf_firstRow {uuid uuid' kunde : String} {input : CalculationInput} {caller : Caller} :
    Calculations.isOf uuid' (o.firstRow offerPrefix uuid kunde input caller) =
      decide (uuid = uuid') := by
  have named : (o.firstRow offerPrefix uuid kunde input caller).get? "calculation_uuid" =
      some (.text uuid) := get?_firstRow (by simp [Calculations.rowFields])
  simp [Calculations.isOf, named]

theorem isOf_nextRow {uuid' kunde : String} {head : Calculation} {input : CalculationInput} :
    Calculations.isOf uuid' (o.nextRow head kunde input) = decide (head.uuid = uuid') := by
  have named : (o.nextRow head kunde input).get? "calculation_uuid" = some (.text head.uuid) :=
    get?_nextRow (by simp [Calculations.rowFields])
  simp [Calculations.isOf, named]

namespace Chained

/-! ## The core of a request -/

/-- The head of a chain is its last row, and has as many versions as there are. -/
theorem last_of_isHead (h : Chained n o) (short : n < Double.exactLimit) {row : Record}
    {head : Calculation} (isHead : Calculations.IsHead o.store.document row head) :
    (o.store.document.chain head.uuid).getLast? = some row ∧
      head.version = (o.store.document.chain head.uuid).length := by
  have linear := h.linear head.uuid
  have fewer : (o.store.document.chain head.uuid).length ≤ n :=
    Nat.le_trans (List.length_filter_le _ _) h.few
  have last := linear.getLast?_of_newest (Nat.lt_of_le_of_lt fewer short) isHead.mem isHead.newest
  refine ⟨last, ?_⟩
  obtain ⟨before, split⟩ := List.getLast?_eq_some_iff.mp last
  have version : row.get? "version" = some (.int (before.length + 1)) :=
    linear.version before.length row (by simp [split])
  rw [isHead.shown.version _ version]
  · simp [split]
  · have : before.length + 1 ≤ n := by simpa [split] using fewer
    exact Double.fitsSigned_of_le (k := before.length + 1) (by omega)

theorem of_same (h : Chained n o) (sound : o'.Sound) {done : List Change}
    (reached : Reaches o done o') (rows : o'.calculations = o.calculations) :
    Chained (n + 1) o' := by
  refine ⟨sound, reached.uuid ▸ h.distinct, fun uuid => ?_, fun row mem => ?_, ?_⟩
  · have : o'.store.document.chain uuid = o.store.document.chain uuid :=
      congrArg (List.filter (Calculations.isOf uuid)) rows
    rw [this]
    exact h.linear uuid
  · obtain ⟨k, hk, named⟩ := h.taken row (rows ▸ mem)
    exact ⟨k, Nat.lt_of_lt_of_le hk reached.taken, reached.uuid ▸ named⟩
  · rw [rows]
    exact Nat.le_succ_of_le h.few

/-- No row has an identifier that has not been taken. -/
theorem isOf_unused (h : Chained n o) {k : Nat} (unused : o.supply.uuidsTaken ≤ k) :
    ∀ row ∈ o.calculations, Calculations.isOf (o.supply.uuid k) row = false := by
  intro row mem
  obtain ⟨i, hi, named⟩ := h.taken row mem
  have other : o.supply.uuid i ≠ o.supply.uuid k := fun same => by
    have := h.distinct same
    omega
  simpa [Calculations.isOf, named] using other

theorem first (h : Chained n o) (sound : o'.Sound) {done : List Change}
    (reached : Reaches o done o') {k : Nat} {kunde : String} {input : CalculationInput}
    {caller : Caller} (fresh : o.supply.uuidsTaken ≤ k) (taken : k < o'.supply.uuidsTaken)
    (rows : o'.calculations =
      o.calculations ++ [o.firstRow offerPrefix (o.supply.uuid k) kunde input caller]) :
    Chained (n + 1) o' := by
  refine ⟨sound, reached.uuid ▸ h.distinct, fun uuid => ?_, fun row mem => ?_, ?_⟩
  · rw [chain_concat rows, isOf_firstRow]
    by_cases same : o.supply.uuid k = uuid
    · -- No row has the identifier yet.
      subst same
      have empty : o.calculations.filter (Calculations.isOf (o.supply.uuid k)) = [] :=
        List.filter_eq_nil_iff.mpr fun row mem => by simp [h.isOf_unused fresh row mem]
      rw [empty, decide_eq_true rfl, if_pos rfl]
      refine Linear.nil.concat ?_ ?_ (by simp)
      · exact get?_firstRow (by simp [Calculations.rowFields])
      · exact get?_firstRow (by simp [Calculations.rowFields, Json.ofOption])
    · rw [decide_eq_false same, if_neg Bool.false_ne_true, List.append_nil]
      exact h.linear uuid
  · rw [rows] at mem
    rcases List.mem_append.mp mem with old | new
    · obtain ⟨i, hi, named⟩ := h.taken row old
      exact ⟨i, Nat.lt_of_lt_of_le hi reached.taken, reached.uuid ▸ named⟩
    · rw [List.mem_singleton.mp new, reached.uuid]
      exact ⟨k, taken, get?_firstRow (by simp [Calculations.rowFields])⟩
  · rw [rows, List.length_append, List.length_singleton]
    exact Nat.succ_le_succ h.few

theorem taken_of_mem_retired (h : Chained n o) {done : List Change} (reached : Reaches o done o')
    {uuid : String} {row : Record} (mem : row ∈ o.retired uuid) :
    ∃ k, k < o'.supply.uuidsTaken ∧
      row.get? "calculation_uuid" = some (.text (o'.supply.uuid k)) := by
  obtain ⟨old, inTable, rfl⟩ := List.mem_map.mp mem
  obtain ⟨k, hk, named⟩ := h.taken old inTable
  refine ⟨k, Nat.lt_of_lt_of_le hk reached.taken, ?_⟩
  rw [Calculations.get?_retired (by decide), named, reached.uuid]

theorem retired (h : Chained n o) (sound : o'.Sound) {done : List Change}
    (reached : Reaches o done o') {uuid : String} (rows : o'.calculations = o.retired uuid) :
    Chained (n + 1) o' := by
  refine ⟨sound, reached.uuid ▸ h.distinct, fun uuid' => ?_, fun row mem => ?_, ?_⟩
  · have : o'.store.document.chain uuid' = _ :=
      congrArg (List.filter (Calculations.isOf uuid')) rows
    rw [this, filter_retired]
    exact (h.linear uuid').retired o.now
  · exact h.taken_of_mem_retired reached (rows ▸ mem)
  · rw [rows, Office.retired, List.length_map]
    exact Nat.le_succ_of_le h.few

theorem next (h : Chained n o) (short : n < Double.exactLimit) (sound : o'.Sound)
    {done : List Change} (reached : Reaches o done o') {head : Calculation} {row : Record}
    {kunde : String} {input : CalculationInput}
    (isHead : Calculations.IsHead o.store.document row head)
    (rows : o'.calculations = o.retired head.uuid ++ [o.nextRow head kunde input]) :
    Chained (n + 1) o' := by
  refine ⟨sound, reached.uuid ▸ h.distinct, fun uuid => ?_, fun row mem => ?_, ?_⟩
  · rw [chain_concat rows, filter_retired, isOf_nextRow]
    by_cases same : head.uuid = uuid
    · subst same
      obtain ⟨last, version⟩ := h.last_of_isHead short isHead
      rw [decide_eq_true rfl, if_pos rfl]
      refine ((h.linear head.uuid).retired o.now).concat ?_ ?_ ?_
      · rw [List.length_map, ← version]
        exact get?_nextRow (by simp [Calculations.rowFields])
      · rw [List.getLast?_map, last]
        refine ⟨head.id, ?_, get?_nextRow (by simp [Calculations.rowFields, Json.ofOption])⟩
        rw [Calculations.get?_retired (by decide), isHead.shown.id]
      · intro row' mem current
        obtain ⟨old, inChain, rfl⟩ := List.mem_map.mp mem
        rw [Calculations.not_current_retired (List.mem_filter.mp inChain).2] at current
        simp at current
    · rw [decide_eq_false same, if_neg Bool.false_ne_true, List.append_nil]
      exact (h.linear uuid).retired o.now
  · rw [rows] at mem
    rcases List.mem_append.mp mem with old | new
    · exact h.taken_of_mem_retired reached old
    · obtain ⟨inTable, named⟩ := Document.mem_chain.mp isHead.mem
      obtain ⟨k, hk, named'⟩ := h.taken _ inTable
      refine ⟨k, Nat.lt_of_lt_of_le hk reached.taken, ?_⟩
      rw [List.mem_singleton.mp new, reached.uuid, ← named', named]
      exact get?_nextRow (by simp [Calculations.rowFields])
  · rw [rows, List.length_append, Office.retired, List.length_map]
    exact Nat.succ_le_succ h.few

theorem core (h : Chained n o) (short : n < Double.exactLimit) (core : Core offerPrefix o o') :
    Chained (n + 1) o' := by
  have sound := h.sound.core core
  obtain ⟨done, reached⟩ := core.reaches
  cases core.growth with
  | same rows => exact h.of_same sound reached rows.calculations
  | counted rows => exact h.of_same sound reached rows.calculations
  | first fresh taken rows => exact h.first sound reached fresh taken rows.calculations
  | retired _ rows => exact h.retired sound reached rows.calculations
  | next isHead rows => exact h.next short sound reached isHead rows.calculations
  | offered rows => exact h.of_same sound reached rows.calculations

/-! ## Annotations -/

theorem aside (h : Chained n o) (aside : Aside o o') : Chained n o' := by
  obtain ⟨f, keeps, rows⟩ := aside.annotated (.inl rfl)
  obtain ⟨changes, -, reached⟩ := id aside
  refine ⟨h.sound.aside aside, reached.uuid ▸ h.distinct, fun uuid => ?_, ?_, ?_⟩
  · unfold Document.chain
    rw [rows, Calculations.filter_isOf_map fun row => keeps row _ (by decide)]
    exact (h.linear uuid).annotated keeps
  · intro row' mem
    unfold calculations at mem
    rw [rows] at mem
    obtain ⟨row, inTable, rfl⟩ := List.mem_map.mp mem
    obtain ⟨k, hk, named⟩ := h.taken row inTable
    refine ⟨k, Nat.lt_of_lt_of_le hk reached.taken, ?_⟩
    rw [keeps row _ (by decide), named, reached.uuid]
  · unfold calculations
    rw [rows, List.length_map]
    exact h.few

theorem setNow (h : Chained n o) (now : Instant) : Chained n (o.setNow now) :=
  ⟨⟨h.sound.calculations, h.sound.offers⟩, h.distinct, h.linear, h.taken, h.few⟩

variable [Medium m]

/-- A request keeps chains linear, even if it is cut short. -/
theorem serve (h : Chained n o) (short : n < Double.exactLimit) (r : Request) :
    Chained (n + 1) (serve offerPrefix o r) := by
  have effect : Effect offerPrefix _ _ := serve_effect h.sound r
  obtain ⟨between, core, aside⟩ := effect
  exact ((h.setNow r.now).core short core).aside aside

theorem serveAll (h : o.IsNew) (rs : List Request) (short : rs.length ≤ Double.exactLimit) :
    Chained rs.length (serveAll offerPrefix o rs) := by
  have step (n : Nat) (o : Office m) (r : Request) (ih : n ≤ Double.exactLimit → Chained n o)
      (short : n + 1 ≤ Double.exactLimit) : Chained (n + 1) (Office.serve offerPrefix o r) :=
    (ih (Nat.le_of_succ_le short)).serve short r
  have := serveAll_induction (n := 0) (P := fun n o => n ≤ Double.exactLimit → Chained n o)
    (fun _ => h.chained) step rs
  rw [Nat.zero_add] at this
  exact this short

end Chained

end Office

/-! ## Saved versions -/

namespace Calculations

/-- The row of a saved version is the last one of its chain, and the only one that is current. -/
def IsLatest (doc : Document) (saved : SavedVersion) : Prop :=
  ∃ row, (doc.chain saved.uuid).getLast? = some row ∧
    (doc.chain saved.uuid).filter isCurrent = [row] ∧
    row.get? "id" = some (.int saved.id) ∧ row.get? "version" = some (.int saved.version)

open Office

variable {m : Type} {offerPrefix : String} {o o' : Office m} {n : Nat}

theorem IsLatest.aside {saved : SavedVersion} (h : IsLatest o.store.document saved)
    (aside : Aside o o') : IsLatest o'.store.document saved := by
  obtain ⟨row, last, alone, id, version⟩ := h
  obtain ⟨f, keeps, rows⟩ := aside.annotated (.inl rfl)
  have chain : o'.store.document.chain saved.uuid =
      (o.store.document.chain saved.uuid).map f := by
    unfold Document.chain
    rw [rows, filter_isOf_map fun row => keeps row _ (by decide)]
  have current : isCurrent ∘ f = isCurrent := by
    funext row
    simp [isCurrent, keeps row "is_current" (by decide)]
  refine ⟨f row, ?_, ?_, ?_, ?_⟩
  · rw [chain, List.getLast?_map, last]
    rfl
  · rw [chain, List.filter_map, current, alone]
    rfl
  · rw [keeps row _ (by decide), id]
  · rw [keeps row _ (by decide), version]

theorem isLatest_of_concat (h : Chained n o') {rows : List Record} {row : Record}
    {saved : SavedVersion} (stored : o'.calculations = rows ++ [row])
    (uuid : isOf saved.uuid row = true) (current : isCurrent row = true)
    (id : row.get? "id" = some (.int saved.id))
    (version : row.get? "version" = some (.int saved.version)) :
    IsLatest o'.store.document saved := by
  have last : (o'.store.document.chain saved.uuid).getLast? = some row := by
    rw [chain_concat stored, if_pos uuid, List.getLast?_concat]
  exact ⟨row, last, (h.linear _).filter_isCurrent last current, id, version⟩

variable [Medium m]

theorem create_latest (h : Chained n o) {input : CalculationInput} {caller : Caller} :
    Ends (create offerPrefix input caller) o
      (fun saved o' => IsLatest o'.store.document saved) fun _ _ => True := by
  rw [create_ends]
  split
  · next kunde valid =>
    refine Ends.mono (createAs_writes ..) ?_ fun _ _ _ => trivial
    rintro saved o' ⟨⟨id, uuid, version, -⟩, written, reached, aside⟩
    have rows := Holds.of_first (List.prefix_refl _) reached.of_takeUuid
    have sound : written.Sound := h.sound.core (.first (Nat.le_refl _) reached.taken
      (List.prefix_refl _) reached.of_takeUuid (validate_ok valid).2)
    refine (isLatest_of_concat (h.first sound reached.of_takeUuid (Nat.le_refl _) reached.taken
      rows.calculations) rows.calculations ?_ ?_ ?_ ?_).aside aside
    · rw [isOf_firstRow, uuid, decide_eq_true rfl]
    · exact isCurrent_iff.mpr (get?_firstRow (by simp [rowFields]))
    · rw [id]
      exact get?_row_id _
    · rw [version]
      exact get?_firstRow (by simp [rowFields])
  · trivial

theorem update_latest (h : Chained n o) (short : n < Double.exactLimit) {id : Int}
    {input : CalculationInput} {caller : Caller} :
    Ends (update offerPrefix id input caller) o
      (fun saved o' => IsLatest o'.store.document saved ∧
        ∃ edited ∈ o.store.document.chain saved.uuid, isNamed id edited = true)
      fun _ _ => True := by
  refine update_ends h.sound.calculations (fun _ => trivial) ?_
  intro kunde head row valid isHead edited
  refine Ends.mono (extend_writes ..) ?_ fun _ _ _ => trivial
  rintro saved o' ⟨⟨id, uuid, version, -⟩, written, reached, aside⟩
  have rows := Holds.of_next (List.prefix_refl _) reached
  have core : Core offerPrefix o written :=
    .next isHead (List.prefix_refl _) reached (validate_ok valid).2
  have sound : written.Sound := h.sound.core core
  refine ⟨(isLatest_of_concat (h.next short sound reached isHead rows.calculations)
    rows.calculations ?_ ?_ ?_ ?_).aside aside, uuid ▸ edited⟩
  · rw [isOf_nextRow, uuid, decide_eq_true rfl]
  · exact isCurrent_iff.mpr (get?_nextRow (by simp [rowFields]))
  · rw [id]
    exact get?_row_id _
  · rw [version]
    exact get?_nextRow (by simp [rowFields])

end Calculations

/-! ## Runs -/

namespace Office

variable {m : Type} [Medium m] {offerPrefix : String} {o : Office m}

/-- Whatever is asked of a new office, and whichever saves fail, all its chains are linear. What
    is created or edited next becomes the only current version of its chain, no matter which
    version of it was edited. -/
theorem chains_stay_linear (h : o.IsNew) (rs : List Request)
    (short : rs.length < Double.exactLimit) :
    (∀ uuid, Linear ((serveAll offerPrefix o rs).store.document.chain uuid)) ∧
    ∀ (now : Instant) (input : CalculationInput) (caller : Caller) (saved : SavedVersion)
      (o' : Office m),
      ((Calculations.create offerPrefix input caller).run.run
          ((serveAll offerPrefix o rs).setNow now) = (.ok saved, o') →
        Calculations.IsLatest o'.store.document saved) ∧
      ∀ id, (Calculations.update offerPrefix id input caller).run.run
          ((serveAll offerPrefix o rs).setNow now) = (.ok saved, o') →
        Calculations.IsLatest o'.store.document saved ∧
          ∃ edited ∈ (serveAll offerPrefix o rs).store.document.chain saved.uuid,
            Calculations.isNamed id edited = true := by
  have chained : Chained rs.length (serveAll offerPrefix o rs) :=
    Chained.serveAll h rs (Nat.le_of_lt short)
  refine ⟨chained.linear, fun now input caller saved o' => ⟨fun run => ?_, fun id run => ?_⟩⟩
  · exact (Calculations.create_latest (chained.setNow now)).of_ok run
  · exact (Calculations.update_latest (chained.setNow now) short).of_ok run

theorem edit_succeeds :
    ∃ saved o', (Calculations.update "FHD" 1 emptyCalculation somebody).run.run
        ((serveAll "FHD" inMemory dayBefore).setNow 86400000) = (.ok saved, o') ∧
      (saved.version == 2) = true := exists_of_ok (by decide +kernel)

theorem chains_linear_at_first_edit :
    ∃ saved o', (Calculations.update "FHD" 1 emptyCalculation somebody).run.run
        ((serveAll "FHD" inMemory dayBefore).setNow 86400000) = (.ok saved, o') ∧
      saved.version = 2 ∧ Calculations.IsLatest o'.store.document saved ∧
      Linear ((serveAll "FHD" inMemory dayBefore).store.document.chain saved.uuid) := by
  obtain ⟨saved, o', run, version⟩ := edit_succeeds
  have runs := @chains_stay_linear Memory _ "FHD" inMemory (isNew_opened _ 0) dayBefore (by decide)
  exact ⟨saved, o', run, eq_of_beq version,
    ((runs.2 86400000 emptyCalculation somebody saved o').2 1 run).1, runs.1 saved.uuid⟩

end Office

end OfferBook
