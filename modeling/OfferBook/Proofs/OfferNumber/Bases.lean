import OfferBook.Proofs.Calculations.Legacy
import OfferBook.Proofs.OfferNumber.Rebasing

/-! # Bases of offer numbers within a chain

A row of an earlier version may have no offer number. It gets one when it is told, whichever row of
its chain is told first, and a version that is stored takes the base of the one before it.

* `Calculations.SharesBases` — the numbers in each chain have one base.
* `Calculations.MayBeNumbered` — a row that has a number, or is of a chain without any.
* `Office.serve_shares`, `Office.bases_are_shared` — where only such rows are taken up, bases stay
  shared.
* `Office.bases_differ_after_two_lookups` — elsewhere two lookups suffice to tell them apart.
-/

namespace OfferBook

open Office

/-! ## Chains -/

namespace Calculations

/-- Rows with offer numbers have one base if they are of one chain. -/
def SharesBases (rows : List Record) : Prop :=
  ∀ row ∈ rows, ∀ other ∈ rows, ∀ uuid ∈ uuidOf? row, uuidOf? other = some uuid →
    ∀ n ∈ numberOf? row, ∀ n' ∈ numberOf? other, OfferNumber.baseOf n = OfferNumber.baseOf n'

/-- No row of a chain has a number. -/
def Bare (rows : List Record) (uuid : String) : Prop :=
  ∀ row ∈ rows, uuidOf? row = some uuid → numberOf? row = none

/-- A row has a number, or no row has one in the chains of the rows with its id. -/
def MayBeNumbered (rows : List Record) (row : Record) : Prop :=
  numberOf? row = none → ∀ id ∈ (row.get? "id").bind Json.signed?, ∀ other ∈ rows,
    isNamed id other = true → ∀ uuid ∈ uuidOf? other, Bare rows uuid

instance (rows : List Record) : Decidable (SharesBases rows) :=
  inferInstanceAs (Decidable (∀ row ∈ rows, ∀ other ∈ rows, ∀ uuid ∈ uuidOf? row,
    uuidOf? other = some uuid → ∀ n ∈ numberOf? row, ∀ n' ∈ numberOf? other,
      OfferNumber.baseOf n = OfferNumber.baseOf n'))

instance (rows : List Record) (uuid : String) : Decidable (Bare rows uuid) :=
  inferInstanceAs (Decidable (∀ row ∈ rows, uuidOf? row = some uuid → numberOf? row = none))

instance (rows : List Record) (row : Record) : Decidable (MayBeNumbered rows row) :=
  inferInstanceAs (Decidable (numberOf? row = none → ∀ id ∈ (row.get? "id").bind Json.signed?,
    ∀ other ∈ rows, isNamed id other = true → ∀ uuid ∈ uuidOf? other, Bare rows uuid))

/-- A row that gets a number stays in its chain. -/
theorem uuidOf?_numbered (now : Instant) (id : Int) (n : OfferNumber) (row : Record) :
    uuidOf? (Change.updateRow now (numbering table id n) row) = uuidOf? row :=
  uuidOf?_congr (Change.get?_updateRow_of_notMem (by simp [numbering]) row)

theorem numberOf?_numbered (now : Instant) (id : Int) (n : OfferNumber) (row : Record) :
    numberOf? (Change.updateRow now (numbering table id n) row) =
      if isNamed id row then (some n.text).filter (!·.isEmpty) else numberOf? row := by
  rw [updateRow_numbering]
  split
  · rw [numberOf?, textOf, Record.numbered, Dict.get?_insert_self]
    rfl
  · rfl

namespace SharesBases

variable {rows : List Record}

theorem map (h : SharesBases rows) {f : Record → Record}
    (chain : ∀ row, uuidOf? (f row) = uuidOf? row)
    (number : ∀ row, numberOf? (f row) = numberOf? row) : SharesBases (rows.map f) := by
  intro row' mem other' mem'
  obtain ⟨row, there, rfl⟩ := List.mem_map.mp mem
  obtain ⟨other, there', rfl⟩ := List.mem_map.mp mem'
  rw [chain, chain, number, number]
  exact h row there other there'

theorem retired {m : Type} {o : Office m} (h : SharesBases o.calculations) (uuid : String) :
    SharesBases (o.retired uuid) :=
  h.map (fun row => uuidOf?_congr (get?_retired (by decide) row))
    fun row => numberOf?_congr (get?_retired (by decide) row)

theorem concat (h : SharesBases rows) {row : Record}
    (agrees : ∀ other ∈ rows, ∀ uuid ∈ uuidOf? row, uuidOf? other = some uuid →
      ∀ n ∈ numberOf? row, ∀ n' ∈ numberOf? other,
        OfferNumber.baseOf n = OfferNumber.baseOf n') : SharesBases (rows ++ [row]) := by
  intro r mem r' mem' uuid among among' n hn n' hn'
  rcases List.mem_append.mp mem with old | new <;> rcases List.mem_append.mp mem' with old' | new'
  · exact h r old r' old' uuid among among' n hn n' hn'
  · obtain rfl := List.mem_singleton.mp new'
    exact (agrees r old uuid among' among n' hn' n hn).symm
  · obtain rfl := List.mem_singleton.mp new
    exact agrees r' old' uuid among among' n hn n' hn'
  · obtain rfl := List.mem_singleton.mp new
    obtain rfl := List.mem_singleton.mp new'
    rw [Option.mem_unique hn hn']

/-- Rows with an id that get a number share it. -/
theorem numbered (h : SharesBases rows) {id : Int}
    (bare : ∀ row ∈ rows, isNamed id row = true → ∀ uuid ∈ uuidOf? row, Bare rows uuid)
    (now : Instant) (n : OfferNumber) :
    SharesBases (rows.map (Change.updateRow now (numbering table id n))) := by
  intro row' mem other' mem' uuid among among' text htext text' htext'
  obtain ⟨row, there, rfl⟩ := List.mem_map.mp mem
  obtain ⟨other, there', rfl⟩ := List.mem_map.mp mem'
  rw [uuidOf?_numbered] at among among'
  rw [numberOf?_numbered] at htext htext'
  -- A row that keeps its number is of no chain of a row that gets one.
  cases named : isNamed id row with
  | true =>
    have none := bare row there named uuid among
    cases named' : isNamed id other with
    | true =>
      rw [named, if_pos rfl] at htext
      rw [named', if_pos rfl] at htext'
      rw [Option.mem_unique htext htext']
    | false => simp [named', none other there' among'] at htext'
  | false =>
    cases named' : isNamed id other with
    | true => simp [named, bare other there' named' uuid among' row there among] at htext
    | false =>
      simp only [named, named', Bool.false_eq_true, if_false] at htext htext'
      exact h row there other there' uuid among among' text htext text' htext'

end SharesBases

/-! ## Services -/

variable {m : Type} {o o' : Office m} {offerPrefix : String} {row : Record} {c : Calculation}

theorem numberOf?_eq (read : Calculation.Reads row c) :
    numberOf? row = c.offerNumber.filter (!·.isEmpty) :=
  congrArg (Option.filter fun text : String => !text.isEmpty) read.offerNumber

/-- A row has the id that is read from it. -/
theorem isNamed_id (read : Calculation.Reads row c) : isNamed c.id row = true := by
  have fits := read.fits
  obtain ⟨v, stored, id⟩ := Option.bind_eq_some_iff.mp (Fields.required_entries.symm.trans read.id)
  obtain ⟨rfl, -⟩ := Json.eq_int_of_signed? id
  rw [isNamed, stored, Json.matchesValue_int fits fits, decide_eq_true rfl]

theorem MayBeNumbered.bare {rows : List Record} (h : MayBeNumbered rows row)
    (read : Calculation.Reads row c) (missing : numberOf? row = none) {other : Record}
    (mem : other ∈ rows) (named : isNamed c.id other = true) {uuid : String}
    (among : uuidOf? other = some uuid) : Bare rows uuid :=
  h missing c.id (Fields.required_entries.symm.trans read.id) other mem named uuid among

/-- A calculation that is told may get a number, also where the work is cut short. -/
theorem SharesBases.filled (h : SharesBases o.calculations) (read : Calculation.Reads row c)
    (may : MayBeNumbered o.calculations row) {done : List Change}
    (part : done <+: fillChanges offerPrefix o c) (reached : Reaches o done o') :
    SharesBases o'.calculations := by
  unfold Office.calculations
  rw [reached.document]
  unfold fillChanges numberingChanges at part
  split at part
  · next missing =>
    have none : numberOf? row = none := (numberOf?_eq read).trans (filter_of_missing missing)
    -- The counter is another table's.
    rcases cut_cases part with rfl | rfl | ⟨more, cut, rfl⟩
    · exact h
    · rw [Change.applyAll_cons, Change.applyAll_nil,
        Change.table_advance _ Office.calculations_apart]
      exact h
    · rw [List.prefix_nil.mp cut, List.append_nil, Change.applyAll_cons, Change.applyAll_cons,
        Change.applyAll_nil, Change.table_update, Change.table_advance _ Office.calculations_apart]
      exact h.numbered (fun other mem named uuid among => may.bare read none mem named among) _ _
  · rw [List.prefix_nil.mp part]
    exact h

/-- A version that is added takes the base of the one that it follows. -/
theorem SharesBases.extended (h : SharesBases o.calculations) (mem : row ∈ o.calculations)
    (read : Calculation.Reads row c) (may : MayBeNumbered o.calculations row)
    {number : OfferNumber} (rebased : ∀ stored,
      c.offerNumber.filter (!·.isEmpty) = some stored →
        number = OfferNumber.rebase stored (c.version + 1))
    (kunde : String) (input : CalculationInput) :
    SharesBases (o.retired c.uuid ++ [rowAfter o c number kunde input]) := by
  have stored : (rowAfter o c number kunde input).get? "offer_number" = some (.text number.text) :=
    get?_versionRow (by simp [rowFields])
  have text : textOf (rowAfter o c number kunde input) "offer_number" = some number.text := by
    rw [textOf, stored]
    rfl
  have chain : uuidOf? (rowAfter o c number kunde input) = some c.uuid :=
    Fields.orDefault_text (get?_versionRow (by simp [rowFields]))
  refine (h.retired c.uuid).concat ?_
  intro other' among' uuid hn hother n hnew n' hn'
  obtain ⟨other, there, rfl⟩ := List.mem_map.mp among'
  obtain rfl := Option.mem_unique hn chain
  rw [uuidOf?_congr (get?_retired (by decide) other)] at hother
  rw [numberOf?_congr (get?_retired (by decide) other)] at hn'
  obtain rfl : number.text = n := by
    rw [numberOf?, text] at hnew
    exact Option.some.inj (Option.filter_eq_some_iff.mp hnew).1
  cases stored : numberOf? row with
  | some base =>
    have filled : base ≠ "" := by
      have := (Option.filter_eq_some_iff.mp stored).2
      simpa using this
    rw [rebased base ((numberOf?_eq read).symm.trans stored), OfferNumber.baseOf_rebase filled]
    exact h row mem other there c.uuid read.uuid hother base stored n' hn'
  | none =>
    have bare := may.bare read stored mem (isNamed_id read) read.uuid
    rw [bare other there hother] at hn'
    exact absurd hn' (Option.not_mem_none n')

variable [Medium m]

/-- Whatever becomes of its number and its sheets, the rows share their bases when one is told. -/
theorem detail_shares (h : SharesBases o.calculations) (read : Calculation.ofRecord? row = some c)
    (may : MayBeNumbered o.calculations row) :
    Ends (storage (detail offerPrefix c)) o (fun _ o' => SharesBases o'.calculations)
      fun _ o' => SharesBases o'.calculations := by
  have reads := Calculation.reads_of_ofRecord? read
  refine ends_storage.mpr ((detail_ends c).mono ?_ ?_)
  · rintro told o' ⟨-, reached⟩
    exact h.filled reads may (List.prefix_refl _) reached
  · rintro e o' ⟨done, part, reached⟩
    exact h.filled reads may part reached

theorem extendWith_shares (h : SharesBases o.calculations) (mem : row ∈ o.calculations)
    (read : Calculation.ofRecord? row = some c) (may : MayBeNumbered o.calculations row)
    {number : OfferNumber} (rebased : ∀ stored,
      c.offerNumber.filter (!·.isEmpty) = some stored →
        number = OfferNumber.rebase stored (c.version + 1))
    (kunde : String) (input : CalculationInput) (caller : Caller) :
    Ends (extendWith c number kunde input caller) o (fun _ o' => SharesBases o'.calculations)
      fun _ o' => SharesBases o'.calculations := by
  have after := h.extended mem (Calculation.reads_of_ofRecord? read) may rebased kunde input
  refine (extendWith_ends c number kunde input caller).mono ?_ ?_
  · rintro saved o' ⟨-, rows⟩
    rwa [rows]
  · rintro e o' (rows | rows | rows) <;> rw [rows]
    · exact h
    · exact h.retired c.uuid
    · exact after

end Calculations

/-! ## Requests -/

/-- Whether a call looks a calculation up or edits it. -/
def Call.takesUp : Call → Bool
  | getCalculation _ | latestCalculation _ | updateCalculation .. => true
  | _ => false

/-- The row that such a call tells, or extends the chain of. -/
def Document.takenUp? (doc : Document) : Call → Option Record
  | .getCalculation id => doc.named? Calculations.table id
  | .latestCalculation uuid => doc.lookup? uuid
  | .updateCalculation id _ _ => do
    let edited ← doc.named? Calculations.table id
    let uuid ← Calculations.uuidOf? edited
    return (doc.topmost? uuid).getD edited
  | _ => none

namespace Office

open Calculations

variable {m : Type} {o : Office m} {offerPrefix : String} [Medium m]

/-- A call that takes up a row which may be numbered. -/
def MayServe (o : Office m) (call : Call) : Prop :=
  call.takesUp = true ∧ ∀ row ∈ o.store.document.takenUp? call, MayBeNumbered o.calculations row

/-- Requests each of which takes up such a row. -/
def MayServeAll (offerPrefix : String) : Office m → List Request → Prop
  | _, [] => True
  | o, r :: rest => o.MayServe r.call ∧ MayServeAll offerPrefix (serve offerPrefix o r) rest

instance (o : Office m) (call : Call) : Decidable (o.MayServe call) :=
  inferInstanceAs (Decidable (call.takesUp = true ∧ ∀ row ∈ o.store.document.takenUp? call,
    MayBeNumbered o.calculations row))

instance decidableMayServeAll : (o : Office m) → (rs : List Request) →
    Decidable (MayServeAll offerPrefix o rs)
  | _, [] => inferInstanceAs (Decidable True)
  | o, r :: rest =>
    have := decidableMayServeAll (serve offerPrefix o r) rest
    inferInstanceAs (Decidable (o.MayServe r.call ∧
      MayServeAll offerPrefix (serve offerPrefix o r) rest))

theorem work_shares (h : SharesBases o.calculations) {call : Call} (may : o.MayServe call) :
    Ends (call.work offerPrefix) o (fun _ o' => SharesBases o'.calculations)
      fun _ o' => SharesBases o'.calculations := by
  obtain ⟨takes, row⟩ := may
  cases call with
  | getCalculation id =>
    simp only [Call.work, ends_bind, ends_pure]
    exact get_ends_of (fun _ => h) fun told c named read => detail_shares h read (row told named)
  | latestCalculation uuid =>
    simp only [Call.work, ends_bind, ends_pure]
    refine latest_ends_of (fun _ => h) fun told looked => ?_
    split
    · next c read => exact detail_shares h read (row told looked)
    · exact h
  | updateCalculation id input caller =>
    simp only [Call.work, ends_bind, ends_pure]
    refine update_ends_of ?_ ?_
    · intro e o' made
      rwa [Office.calculations, made.spares.1]
    · intro edited top head kunde number o' named uuid isTop read rebased made
      have same : o'.calculations = o.calculations := made.spares.1
      have taken : o.store.document.takenUp? (.updateCalculation id input caller) = some top := by
        simp [Document.takenUp?, named, uuid, isTop]
      have mem : top ∈ o.calculations := by
        cases first : o.store.document.topmost? head.uuid with
        | none =>
          rw [first] at isTop
          exact isTop ▸ List.mem_of_find?_eq_some named
        | some other =>
          rw [first] at isTop
          exact isTop ▸ (Document.mem_of_topmost? first).1
      exact extendWith_shares (same ▸ h) (same ▸ mem) read (same ▸ row top taken) rebased
        kunde input caller
  | _ => cases takes

theorem serve_shares (h : SharesBases o.calculations) (r : Request) (may : o.MayServe r.call) :
    SharesBases (serve offerPrefix o r).calculations :=
  (work_shares (o := o.setNow r.now) h may).snd

/-- Where each row that is taken up may be numbered, the rows of each chain share a base. -/
theorem bases_are_shared (h : SharesBases o.calculations) (rs : List Request)
    (may : MayServeAll offerPrefix o rs) :
    SharesBases (serveAll offerPrefix o rs).calculations := by
  induction rs generalizing o with
  | nil => exact h
  | cons r rest ih => exact ih (serve_shares h r may.1) may.2

/-- A version without a number, and another chain whose earlier version has none. -/
def unnumberedVersion : Document :=
  ⟨.ofList [("calculations", 3)], .ofList [("calculations",
    [.ofList [("id", .int 1), ("calculation_uuid", .text "a"), ("is_current", .int 1)],
     .ofList [("id", .int 2), ("calculation_uuid", .text "b")],
     .ofList [("id", .int 3), ("calculation_uuid", .text "b"), ("version", .int 2),
      ("is_current", .int 1), ("offer_number", .text "B.2")]])]⟩

/-- Look the versions up, and edit the one without a number in between. -/
def lookingAndEditing : List Request :=
  [⟨0, .getCalculation 1⟩, ⟨0, .updateCalculation 1 emptyCalculation somebody⟩,
   ⟨0, .latestCalculation "a"⟩, ⟨0, .latestCalculation "b"⟩, ⟨0, .getCalculation 1⟩]

theorem bases_are_shared_by_later_version :
    SharesBases (unnumberedVersion.table table) ∧
    (serveAll "FHD" (inMemory.withStore unnumberedVersion inMemory.store.medium)
        lookingAndEditing).calculations.map (fun row => (uuidOf? row, numberOf? row)) =
      [(some "a", some "FHD1970-0001.1"), (some "b", none), (some "b", some "B.2"),
       (some "a", some "FHD1970-0001.2")] ∧
    SharesBases (serveAll "FHD" (inMemory.withStore unnumberedVersion inMemory.store.medium)
      lookingAndEditing).calculations := by
  have shared : SharesBases (unnumberedVersion.table table) := by decide +kernel
  have may : MayServeAll "FHD" (inMemory.withStore unnumberedVersion inMemory.store.medium)
      lookingAndEditing := by decide +kernel
  exact ⟨shared, by decide +kernel, bases_are_shared
    (o := inMemory.withStore unnumberedVersion inMemory.store.medium) shared lookingAndEditing may⟩

/-- Two versions of one chain that have no numbers. -/
def unnumberedVersions : Document :=
  ⟨.ofList [("calculations", 2)], .ofList [("calculations",
    [.ofList [("id", .int 1), ("calculation_uuid", .text "a"), ("version", .int 1)],
     .ofList [("id", .int 2), ("calculation_uuid", .text "a"), ("version", .int 2),
      ("is_current", .int 1)]])]⟩

/-- Each of two versions gets a number of its own when it is looked up. -/
theorem bases_differ_after_two_lookups :
    SharesBases (unnumberedVersions.table table) ∧
    ((Calculations.get "FHD" 1).run.run
      (inMemory.withStore unnumberedVersions inMemory.store.medium)).1.isOk = true ∧
    ((Calculations.get "FHD" 2).run.run (serveAll "FHD"
      (inMemory.withStore unnumberedVersions inMemory.store.medium)
        [⟨0, .getCalculation 1⟩])).1.isOk = true ∧
    ¬ SharesBases (serveAll "FHD" (inMemory.withStore unnumberedVersions inMemory.store.medium)
      [⟨0, .getCalculation 1⟩, ⟨0, .getCalculation 2⟩]).calculations := by
  decide +kernel

end Office

end OfferBook
