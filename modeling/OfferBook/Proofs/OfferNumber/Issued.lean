import OfferBook.Proofs.OfferNumber.Ledger

/-! # The numbers that are issued

* `Call.allocating` — a call up to the number that it takes from the counter of a year.
* `Office.issued`, `Office.issuedAll` — the numbers that requests take, even if they fail later.
* `Office.serve_takes` — a request counts up the counter of the number that it takes, and no
  other counter.
* `Office.issuedIn_counters` — the numbers of a year carry its counter's values, one after the
  other.
-/

namespace OfferBook

open Office

/-- A call up to the number that it takes, and what it does then. All rows have numbers, so that
    calls that are not listed take none. -/
def Call.allocating {m : Type} [Medium m] (offerPrefix : String) :
    Call → Service m (Option (Int × OfferNumber) × Service m Unit)
  | createCalculation input caller => do
    let kunde ← Calculations.validate input
    let uuid ← storage freshUuid
    let year := (← get).now.year
    let number ← storage (allocateForYear offerPrefix year 1)
    return (some (year, number), do
      let _ ← Calculations.createWith uuid kunde input caller number)
  | createOffer input caller => do
    LineItems.validate input.items
    let uuid ← storage freshUuid
    let year := (← get).now.year
    let number ← storage (allocateForYear offerPrefix year 1)
    return (some (year, number), do let _ ← Offers.createWith uuid input caller number)
  | allocate year version => do
    let number ← storage (allocateForYear offerPrefix year version)
    return (some (year, number), pure ())
  | call => return (none, call.work offerPrefix)

namespace Office

variable {m : Type} {offerPrefix : String} {o o' : Office m}

/-! ## Counters that are left alone -/

theorem Writes.counters {α : Type} {act : Service m α} {changes : List Change} {R : α → Prop}
    (h : Writes act o changes R) (spare : ∀ c ∈ changes, c.Spares Document.countersTable) :
    Ends act o (fun _ o' => o'.counters = o.counters) fun _ o' => o'.counters = o.counters := by
  have kept {done : List Change} {o' : Office m} (part : done <+: changes)
      (reached : Reaches o done o') : o'.counters = o.counters := by
    unfold Office.counters
    rw [reached.document]
    exact (Change.applyAll_of_spares fun c hc => spare c (part.subset hc)).1
  refine Ends.mono h ?_ ?_
  · rintro a o' ⟨-, written, reached, aside⟩
    exact aside.counters.trans (kept (List.prefix_refl _) reached)
  · rintro e o' ⟨done, part, reached⟩
    exact kept part reached

theorem sheets_spare_counters {owner : Owner} {kind : SheetKind} {items : List GarmentItemInput}
    {warehousing : Option WarehousingInput} :
    ∀ c ∈ LineItems.changes owner kind items warehousing, c.Spares Document.countersTable := by
  intro c hc
  refine LineItems.spares_of_mem ?_ ?_ hc <;> cases owner <;>
    simp [Owner.garmentTable, Owner.warehousingTable, Document.countersTable]

/-! ## Single requests -/

/-- What taking a number, or none, means for the counters. -/
def Takes (offerPrefix : String) (o o' : Office m) : Option (Int × OfferNumber) → Prop
  | none => o'.counters = o.counters
  | some (year, number) => o'.counters = o.countersAfter year ∧
      ∃ version, number = .ofCounter offerPrefix year (o.nextCounter year) version

theorem Takes.of_same {o'' : Office m} {issue : Option (Int × OfferNumber)}
    (h : Takes offerPrefix o o' issue) (same : o''.counters = o'.counters) :
    Takes offerPrefix o o'' issue := by
  cases issue with
  | none => exact same.trans h
  | some issue => exact ⟨same.trans h.1, h.2⟩

/-- A call whose first step takes a number, or none, and that changes no counter afterwards. -/
def Steps (offerPrefix : String) (act : Service m (Option (Int × OfferNumber) × Service m Unit))
    (o : Office m) : Prop :=
  Ends act o
    (fun step o' => Takes offerPrefix o o' step.1 ∧
      Ends step.2 o' (fun _ o'' => o''.counters = o'.counters)
        fun _ o'' => o''.counters = o'.counters)
    fun _ o' => o'.counters = o.counters

theorem Steps.of_kept {work : Service m Unit} (kept : Ends work o
    (fun _ o' => o'.counters = o.counters) fun _ o' => o'.counters = o.counters) :
    Steps offerPrefix (pure (none, work)) o := ends_pure.mpr ⟨rfl, kept⟩

variable [Medium m]

theorem createWith_counters (uuid kunde : String) (input : CalculationInput) (caller : Caller)
    (number : OfferNumber) :
    Ends (Calculations.createWith uuid kunde input caller number) o
      (fun _ o' => o'.counters = o.counters) fun _ o' => o'.counters = o.counters :=
  (Calculations.createWith_writes ..).counters
    (List.forall_mem_cons.mpr ⟨calculations_apart, sheets_spare_counters⟩)

theorem offer_createWith_counters (uuid : String) (input : OfferInput) (caller : Caller)
    (number : OfferNumber) :
    Ends (Offers.createWith uuid input caller number) o
      (fun _ o' => o'.counters = o.counters) fun _ o' => o'.counters = o.counters :=
  (Offers.createWith_writes ..).counters
    (List.forall_mem_cons.mpr ⟨offers_apart, sheets_spare_counters⟩)

theorem update_counters (h : o.Sound) (id : Int) (input : CalculationInput) (caller : Caller) :
    Ends (Calculations.update offerPrefix id input caller) o
      (fun _ o' => o'.counters = o.counters) fun _ o' => o'.counters = o.counters := by
  refine Calculations.update_ends h.calculations (fun _ => rfl) fun kunde head row _ _ _ => ?_
  exact (Calculations.extend_writes ..).counters (List.forall_mem_cons.mpr
    ⟨calculations_apart, List.forall_mem_cons.mpr ⟨calculations_apart, sheets_spare_counters⟩⟩)

theorem allocateForYear_takes (year version : Int) :
    Ends (storage (allocateForYear offerPrefix year version)) o
      (fun number o' => Takes offerPrefix o o' (some (year, number)))
      fun _ o' => o'.counters = o.counters := by
  refine ends_storage.mpr (ends_bind.mpr (Ends.commit (fun medium => ?_) fun _ _ => rfl))
  exact ends_pure.mpr ⟨rfl, version, rfl⟩

theorem Steps.of_allocate {year version : Int} {rest : OfferNumber → Service m Unit}
    (kept : ∀ number (o' : Office m), Ends (rest number) o'
      (fun _ o'' => o''.counters = o'.counters) fun _ o'' => o''.counters = o'.counters) :
    Steps offerPrefix (do
      let number ← storage (allocateForYear offerPrefix year version)
      return (some (year, number), rest number)) o :=
  ends_bind.mpr (Ends.mono (allocateForYear_takes year version)
    (fun number o' taken => ends_pure.mpr ⟨taken, kept number o'⟩) fun _ _ => id)

theorem allocating_steps (h : o.Sound) (call : Call) :
    Steps offerPrefix (call.allocating offerPrefix) o := by
  -- Calls that store nothing take no number either.
  have side (call : Call) (idle : call.isStoring = false) :
      Steps offerPrefix (pure (none, call.work offerPrefix)) o :=
    .of_kept (Ends.mono (work_aside h idle) (fun _ _ aside => aside.counters)
      fun _ _ aside => aside.counters)
  cases call with
  | createCalculation input caller =>
    refine ends_bind.mpr (ends_lift.mpr ?_)
    cases Calculations.validate input with
    | error e => rfl
    | ok kunde =>
      refine ends_bind.mpr (ends_storage.mpr (ends_freshUuid.mpr (ends_bind.mpr
        (ends_get.mpr (Steps.of_allocate (o := o.takeUuid) fun number o' => ?_)))))
      exact ends_discard (createWith_counters ..)
  | createOffer input caller =>
    refine ends_bind.mpr (ends_lift.mpr ?_)
    cases LineItems.validate input.items with
    | error e => rfl
    | ok _ =>
      refine ends_bind.mpr (ends_storage.mpr (ends_freshUuid.mpr (ends_bind.mpr
        (ends_get.mpr (Steps.of_allocate (o := o.takeUuid) fun number o' => ?_)))))
      exact ends_discard (offer_createWith_counters ..)
  | allocate year version => exact Steps.of_allocate fun number o' => ends_pure.mpr rfl
  | updateCalculation id input caller =>
    exact .of_kept (ends_discard (update_counters h id input caller))
  | _ => exact side _ rfl

/-- A call is what it does up to its number, and what it does then. -/
theorem work_eq_allocating (call : Call) :
    (call.work offerPrefix : Service m Unit) = call.allocating offerPrefix >>= Prod.snd := by
  have allocate_eq : storage (allocate offerPrefix 1 : Work m OfferNumber) =
      (get >>= fun office => storage (allocateForYear offerPrefix office.now.year 1)) := rfl
  cases call with
  | createCalculation input caller =>
    change (liftM (Calculations.validate input) >>= fun kunde => storage freshUuid >>= fun uuid =>
      Calculations.createAs offerPrefix uuid kunde input caller) >>= _ = _
    simp only [Call.allocating, Calculations.createAs, allocate_eq, bind_assoc, pure_bind]
  | createOffer input caller =>
    change (liftM (LineItems.validate input.items) >>= fun _ => storage freshUuid >>= fun uuid =>
      Offers.createAs offerPrefix uuid input caller) >>= _ = _
    simp only [Call.allocating, Offers.createAs, allocate_eq, bind_assoc, pure_bind]
  | allocate year version => simp only [Call.allocating, Call.work, bind_assoc, pure_bind]
  | _ => simp only [Call.allocating, pure_bind]

/-- The number that a request takes, with its year, even if the request fails afterwards. -/
def issued (offerPrefix : String) (o : Office m) (r : Request) : Option (Int × OfferNumber) :=
  ((r.call.allocating offerPrefix).run.run (o.setNow r.now)).1.toOption.bind Prod.fst

/-- A request counts up the counter of the number that it takes, and no other. -/
theorem serve_takes (h : o.Sound) (r : Request) :
    Takes offerPrefix (o.setNow r.now) (serve offerPrefix o r) (issued offerPrefix o r) := by
  have steps : Steps offerPrefix (r.call.allocating offerPrefix) (o.setNow r.now) :=
    allocating_steps (o := o.setNow r.now) ⟨h.calculations, h.offers⟩ r.call
  unfold issued serve
  rw [work_eq_allocating]
  -- Either the call fails before it takes a number, or the rest of it leaves the counters alone.
  rcases run : (r.call.allocating offerPrefix).run.run (o.setNow r.now) with
    ⟨e | ⟨issue, rest⟩, between⟩
  · exact Ends.snd (P := fun o' => Takes offerPrefix (o.setNow r.now) o' none)
      (ends_bind.mpr (.of_failed run (steps.of_error run)))
  · obtain ⟨taken, kept⟩ := steps.of_ok run
    refine Ends.snd (P := fun o' => Takes offerPrefix (o.setNow r.now) o' issue)
      (ends_bind.mpr (.of_run run (Ends.mono kept ?_ ?_)))
    · exact fun _ o' same => taken.of_same same
    · exact fun _ o' same => taken.of_same same

/-! ## Runs -/

/-- The numbers that requests take which are made one after the other. -/
def issuedAll (offerPrefix : String) (o : Office m) : List Request → List (Int × OfferNumber)
  | [] => []
  | r :: rest =>
    (issued offerPrefix o r).toList ++ issuedAll offerPrefix (serve offerPrefix o r) rest

/-- Those of a year. -/
def issuedIn (offerPrefix : String) (o : Office m) (rs : List Request) (year : Int) :
    List OfferNumber :=
  ((issuedAll offerPrefix o rs).filter (·.1 = year)).map Prod.snd

theorem issuedIn_cons_of_ne {r : Request} {rest : List Request} {year : Int}
    (other : ∀ issue, issued offerPrefix o r = some issue → issue.1 ≠ year) :
    issuedIn offerPrefix o (r :: rest) year =
      issuedIn offerPrefix (serve offerPrefix o r) rest year := by
  rw [issuedIn, issuedAll, List.filter_append, List.map_append]
  cases issue : issued offerPrefix o r with
  | none => rfl
  | some issue' =>
    have := other issue' issue
    simp [this, issuedIn]

theorem issuedIn_cons_of_eq {r : Request} {rest : List Request} {year : Int}
    {number : OfferNumber} (taken : issued offerPrefix o r = some (year, number)) :
    issuedIn offerPrefix o (r :: rest) year =
      number :: issuedIn offerPrefix (serve offerPrefix o r) rest year := by
  rw [issuedIn, issuedAll, List.filter_append, List.map_append, taken]
  simp [issuedIn]

/-- Numbers carry the values of their counter one after the other, and nothing else counts it
    up. -/
theorem issuedIn_counters {n : Nat} (h : Numbered offerPrefix n o) (rs : List Request)
    (short : n + rs.length ≤ Double.exactLimit) (year : Int) :
    (serveAll offerPrefix o rs).counter year =
        o.counter year + (issuedIn offerPrefix o rs year).length ∧
      ∀ (k : Nat) (number : OfferNumber), (issuedIn offerPrefix o rs year)[k]? = some number →
        ∃ version, number = .ofCounter offerPrefix year (o.counter year + k + 1) version := by
  induction rs generalizing n o with
  | nil => simp [issuedIn, issuedAll, serveAll]
  | cons r rest ih =>
    rw [List.length_cons] at short
    obtain ⟨counted, numbers⟩ := ih (h.serve (by omega) r) (by omega)
    change (serveAll offerPrefix (serve offerPrefix o r) rest).counter year = _ ∧ _
    rw [counted]
    have taken : Takes offerPrefix _ _ _ := serve_takes h.chained.sound r
    cases issue : issued offerPrefix o r with
    | none =>
      rw [issue] at taken
      have same : (serve offerPrefix o r).counter year = o.counter year :=
        counter_of_same taken year
      rw [issuedIn_cons_of_ne (by simp [issue]), same]
      exact ⟨rfl, same ▸ numbers⟩
    | some issue' =>
      obtain ⟨year', number⟩ := issue'
      rw [issue] at taken
      obtain ⟨rows, version, value⟩ := taken
      have shown := counter_of_advance (o := o.setNow r.now) h.counted (by omega) rows year
      by_cases same : year' = year
      · -- The number is the first one; all others come after it.
        subst same
        have counter_succ : (serve offerPrefix o r).counter year' = o.counter year' + 1 :=
          shown.trans (if_pos rfl)
        rw [counter_succ] at numbers ⊢
        rw [issuedIn_cons_of_eq issue, List.length_cons]
        refine ⟨by omega, fun k later hk => ?_⟩
        cases k with
        | zero =>
          obtain rfl : number = later := Option.some.inj hk
          exact ⟨version, by rw [value, nextCounter_eq, Int.natCast_zero, Int.add_zero]; rfl⟩
        | succ k =>
          obtain ⟨version', value'⟩ := numbers k later hk
          refine ⟨version', value'.trans ?_⟩
          rw [Int.add_right_comm _ 1, Int.natCast_succ, Int.add_assoc (o.counter year')]
      · -- A number of another year.
        rw [if_neg (Ne.symm same)] at shown
        rw [issuedIn_cons_of_ne (by simp [issue, same]), shown]
        exact ⟨rfl, shown ▸ numbers⟩

end Office

end OfferBook
