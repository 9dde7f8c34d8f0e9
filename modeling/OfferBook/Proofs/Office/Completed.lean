import OfferBook.Proofs.Office.Deletions

/-! # Services on a medium that takes every document

A medium may tell by what it is like that no save on it has failed. What a service has done is then
known to the last change: all of it, with its entry in the log, or nothing where it refuses.

* `Medium.Vouches` — a property of media that shows that no save has failed; `Watched.vouches` —
  any medium has one while it is watched.
* `Office.Sure` — work that fails only where a save does.
* `Office.Completes` — work that makes all of its changes.
* `Office.Settles` — services that make all of their changes, or refuse and make none.
* `Calculations.create_settles`, `Offers.send_settles`, … — what the services change.
-/

namespace OfferBook

/-- A property of media that shows that no save has failed: after a save it holds only where this
    one succeeded, and only where it held before. -/
def Medium.Vouches {m : Type} [Medium m] (P : m → Prop) : Prop :=
  ∀ doc s, P (Medium.save doc s).2 → (Medium.save doc s).1 = .ok () ∧ P s

/-- A medium together with whether all saves on it have succeeded. -/
structure Watched (m : Type) where
  medium : m
  fine : Bool

namespace Watched

variable {m : Type} [Medium m]

instance : Medium (Watched m) where
  load w := Medium.load w.medium
  save doc w :=
    let (result, medium) := Medium.save doc w.medium
    (result, ⟨medium, w.fine && result.isOk⟩)

/-- Any medium can be watched. -/
theorem vouches : Medium.Vouches fun w : Watched m => w.fine = true := by
  intro doc w fine
  obtain ⟨before, saved⟩ := Bool.and_eq_true_iff.mp fine
  refine ⟨?_, before⟩
  change (Medium.save doc w.medium).1 = .ok ()
  cases result : (Medium.save doc w.medium).1 with
  | ok _ => rfl
  | error e =>
    rw [result] at saved
    cases saved

end Watched

namespace Office

variable {ε m α β : Type} {P : m → Prop} {o : Office m}

/-! ## Sure work -/

/-- Work that fails only where a save does. -/
def Sure (P : m → Prop) (act : OfficeM ε m α) (o : Office m) : Prop :=
  Ends act o (fun _ o' => P o'.store.medium → P o.store.medium) fun _ o' => ¬ P o'.store.medium

namespace Sure

theorem pure (a : α) : Sure P (pure a : OfficeM ε m α) o := ends_pure.mpr id

theorem storage {work : Work m α} (h : Sure P work o) : Sure P (storage work) o :=
  ends_storage.mpr h

theorem bind {act : OfficeM ε m β} {f : β → OfficeM ε m α} (h : Sure P act o)
    (next : ∀ b o', Sure P (f b) o') : Sure P (act >>= f) o :=
  ends_bind.mpr (Ends.mono h (fun b o' before => Ends.mono (next b o')
    (fun _ _ earlier fine => before (earlier fine)) fun _ _ => id) fun _ _ => id)

variable [Medium m] (vouches : Medium.Vouches P)
include vouches

theorem commit (change : Instant → Document → α × Document) :
    Sure P (onStore fun now => Store.commit (change now)) o := by
  refine Ends.commit_of_save (fun medium saved fine => ?_) fun e medium failed fine => ?_
  · exact (vouches _ _ (by rwa [saved])).2
  · have := (vouches _ _ (by rwa [failed])).1
    rw [failed] at this
    cases this

theorem insert (s : Insert) : Sure P (insert s) o := commit vouches _

theorem update (s : Update) : Sure P (update s) o := (commit vouches _).bind fun _ _ => pure _

theorem allocateForYear (offerPrefix : String) (year version : Int) :
    Sure P (allocateForYear offerPrefix year version) o :=
  (commit vouches _).bind fun _ _ => pure _

theorem allocate (offerPrefix : String) (version : Int) :
    Sure P (allocate offerPrefix version) o :=
  ends_bind.mpr (ends_get.mpr (allocateForYear vouches _ _ _))

/-- Where there are ids left. -/
theorem insertNumbered {s : Insert}
    (distinct : ((s.assignments o.now []).map Prod.fst).Nodup)
    (unnamed : "id" ∉ (s.assignments o.now []).map Prod.fst)
    (fits : fitsSigned (o.store.document.lastId s.table + 1) = true) :
    Sure P (insertNumbered s) o := by
  refine ends_bind.mpr (((insert vouches s).and (Performs.insert s)).mono ?_ fun _ _ => And.left)
  rintro e o' ⟨before, rfl, -⟩
  have given : (s.apply o.now [] o.store.document).1.rowId? =
      some (o.store.document.lastId s.table + 1) :=
    (rowId?_apply distinct unnamed).trans (if_pos fits)
  rw [given]
  exact ends_pure.mpr before

end Sure

/-! ## Complete work -/

/-- Work that makes all of its changes, unless a save fails. -/
def Completes (P : m → Prop) (act : OfficeM ε m α) (o : Office m) (changes : List Change)
    (R : α → Prop) : Prop :=
  Ends act o (fun a o' => P o'.store.medium →
      P o.store.medium ∧ R a ∧ Reaches o changes o')
    fun _ o' => ¬ P o'.store.medium

variable {changes rest : List Change} {R : α → Prop} {S : β → Prop}

/-- What follows sure work is known to begin after its changes. -/
theorem Sure.bind_completes {act : OfficeM ε m β} {f : β → OfficeM ε m α} (h : Sure P act o)
    (performs : Performs act o changes S)
    (next : ∀ b o', S b → Reaches o changes o' → Completes P (f b) o' rest R) :
    Completes P (act >>= f) o (changes ++ rest) R := by
  refine ends_bind.mpr (Ends.mono (Ends.and h performs) ?_ fun _ _ => And.left)
  rintro b o' ⟨before, given, reached⟩
  refine Ends.mono (next b o' given reached) (fun a o'' after fine => ?_) fun _ _ => id
  obtain ⟨earlier, result, reached'⟩ := after fine
  exact ⟨before earlier, result, reached.trans reached'⟩

theorem Completes.bind_pure {act : OfficeM ε m β} {f : β → α} (h : Completes P act o changes S)
    (next : ∀ b, S b → R (f b)) : Completes P (act >>= fun b => pure (f b)) o changes R := by
  refine ends_bind.mpr (Ends.mono h (fun b o' after => ends_pure.mpr fun fine => ?_) fun _ _ => id)
  obtain ⟨before, given, reached⟩ := after fine
  exact ⟨before, next b given, reached⟩

/-- An entry is dropped only where a save fails. -/
theorem Completes.record [Medium m] (vouches : Medium.Vouches P) {action : Action}
    {entityType : String} {entityId : Option Int} {entityUuid : Option String} {caller : Caller}
    {details : Option Json} :
    Completes P (Log.record action entityType entityId entityUuid caller details :
      OfficeM ε m Unit) o
      [.insert (Log.entry action entityType entityId entityUuid caller details)]
      fun _ => True := by
  unfold Log.record
  refine ends_bind.mpr (ends_attempt.mpr (Ends.commit_of_save ?_ ?_))
  · intro medium saved
    refine ends_pure.mpr fun fine => ⟨?_, trivial, Reaches.withStore o [.insert _] medium⟩
    exact (vouches _ _ (by rwa [saved])).2
  · intro e medium failed
    refine ends_pure.mpr fun fine => ?_
    have := (vouches _ _ (by rwa [failed])).1
    rw [failed] at this
    cases this

/-- A service that has made changes that belong to its result, or has refused and made none,
    unless a save has failed. -/
def Settles (P : m → Prop) (act : Service m α) (o : Office m)
    (did : α → List Change → Prop) : Prop :=
  Ends act o (fun a o' => P o'.store.medium →
      P o.store.medium ∧ ∃ changes, did a changes ∧ Reaches o changes o')
    fun _ o' => P o'.store.medium →
      P o.store.medium ∧ o'.store.document = o.store.document

variable {did : α → List Change → Prop}

theorem Completes.settles {act : Service m α} (h : Completes P act o changes R)
    (done : ∀ a, R a → did a changes) : Settles P act o did := by
  refine Ends.mono h (fun a o' after fine => ?_) fun e o' failed fine => absurd fine failed
  obtain ⟨before, given, reached⟩ := after fine
  exact ⟨before, changes, done a given, reached⟩

theorem Settles.refuse (e : ServiceError) : Settles P (throw e : Service m α) o did :=
  ends_throw.mpr fun fine => ⟨fine, rfl⟩

/-- A look either lets the rest begin in the same office, or refuses. -/
theorem Settles.of_look {act : Service m β} {f : β → Service m α} {Q : β → Prop}
    (h : Ends act o (fun b o' => Q b ∧ o' = o) fun _ o' => o' = o)
    (next : ∀ b, Q b → Settles P (f b) o did) : Settles P (act >>= f) o did := by
  refine ends_bind.mpr (Ends.mono h ?_ ?_)
  · rintro b _ ⟨given, rfl⟩
    exact next b given
  · rintro e _ rfl fine
    exact ⟨fine, rfl⟩

end Office

/-! ## Sheets -/

open Office

variable {m : Type} [Medium m] {P : m → Prop} {o : Office m} {offerPrefix : String}

namespace Office.Sure

variable (vouches : Medium.Vouches P)
include vouches

theorem insertItemsFrom (owner : Owner) (place : Nat) (items : List GarmentItemInput) :
    Sure P (LineItems.insertItemsFrom owner place items) o := by
  induction items generalizing place o with
  | nil => exact pure ()
  | cons item rest ih => exact (insert vouches _).bind fun _ _ => ih (place + 1)

theorem insertSheets (owner : Owner) (kind : SheetKind) (items : List GarmentItemInput)
    (warehousing : Option WarehousingInput) :
    Sure P (LineItems.insertSheets owner kind items warehousing) o := by
  match kind, warehousing with
  | .garment, _ => exact insertItemsFrom vouches owner 0 items
  | .warehousing, some w => exact (insert vouches _).bind fun _ _ => pure _
  | .warehousing, none => exact pure _

theorem storeCalculation
    (fits : fitsSigned (o.store.document.lastId Calculations.table + 1) = true) (uuid : String)
    (version : Int) (kunde : String) (createdBy : Option String) (input : CalculationInput)
    (number : OfferNumber) (parent : Option Int) :
    Sure P (Calculations.store uuid version kunde createdBy input number parent) o :=
  (insertNumbered vouches Calculations.row_distinct Calculations.row_unnamed fits).bind
    fun _ _ => (insertSheets vouches _ _ _ _).bind fun _ _ => pure _

theorem storeOffer (fits : fitsSigned (o.store.document.lastId Offers.table + 1) = true)
    (uuid : String) (input : OfferInput) (caller : Caller) (number : OfferNumber) :
    Sure P (Offers.store uuid input caller number) o :=
  (insertNumbered vouches Offers.row_distinct Offers.row_unnamed fits).bind
    fun _ _ => (insertSheets vouches _ _ _ _).bind fun _ _ => pure _

end Office.Sure

/-! ## Services -/

namespace Calculations

/-- The entry for a new calculation. -/
def createdEntry (id : Int) (uuid kunde : String) (input : CalculationInput) (caller : Caller)
    (number : OfferNumber) : Insert :=
  Log.entry .create entityType (some id) (some uuid) caller (some (.ofFields
    [("kunde", .text kunde), ("calculation_type", .text input.kind.name),
     ("offer_number", .text number.text)]))

/-- The entry for the version after a head. -/
def editedEntry (id : Int) (head : Calculation) (kunde : String) (input : CalculationInput)
    (caller : Caller) : Insert :=
  Log.entry .update entityType (some id) (some head.uuid) caller (some (.ofFields
    [("kunde", .text kunde), ("calculation_type", .text input.kind.name),
     ("offer_number", .text (numberAfter head).text), ("version", .int (head.version + 1)),
     ("previous_id", .int head.id)]))

variable (vouches : Medium.Vouches P)
include vouches

theorem createWith_completes
    (fits : fitsSigned (o.store.document.lastId table + 1) = true) (uuid kunde : String)
    (input : CalculationInput) (caller : Caller) (number : OfferNumber) :
    Completes P (createWith uuid kunde input caller number) o
      (changes (o.store.document.lastId table + 1) uuid 1 kunde (some caller.id) input number
        none ++
        [.insert (createdEntry (o.store.document.lastId table + 1) uuid kunde input caller number)])
      fun saved => saved.id = o.store.document.lastId table + 1 ∧ saved.uuid = uuid := by
  refine (Sure.storeCalculation vouches fits ..).storage.bind_completes
    (Performs.storage (store_performs ..)) ?_
  rintro saved o' ⟨rfl, -⟩ -
  exact (Completes.record vouches).bind_pure fun _ _ => ⟨rfl, rfl⟩

theorem createAs_completes
    (fits : fitsSigned (o.store.document.lastId table + 1) = true) (uuid kunde : String)
    (input : CalculationInput) (caller : Caller) :
    Completes P (createAs offerPrefix uuid kunde input caller) o
      (firstChanges o offerPrefix uuid kunde input caller ++
        [.insert (createdEntry (o.store.document.lastId table + 1) uuid kunde input caller
          (Office.nextNumber offerPrefix o))])
      fun saved => saved.id = o.store.document.lastId table + 1 ∧ saved.uuid = uuid := by
  change Completes P _ o ([_] ++ (changes .. ++ _)) _
  refine (Sure.allocate vouches ..).storage.bind_completes
    (Performs.storage (allocate_performs 1)) ?_
  rintro number o' rfl reached
  have lastId := reached.lastId_of_advance (t := table) (by decide)
  rw [← lastId] at fits ⊢
  exact createWith_completes vouches fits ..

theorem extend_completes (fits : fitsSigned (o.store.document.lastId table + 1) = true)
    (head : Calculation) (kunde : String) (input : CalculationInput) (caller : Caller) :
    Completes P (extend head kunde input caller) o
      (nextChanges o.store.document head kunde input ++
        [.insert (editedEntry (o.store.document.lastId table + 1) head kunde input caller)])
      fun saved => saved.id = o.store.document.lastId table + 1 ∧ saved.uuid = head.uuid := by
  change Completes P _ o ([_] ++ (changes .. ++ _)) _
  refine (Sure.update vouches _).storage.bind_completes
    (Performs.storage (Performs.update (retire head.uuid))) ?_
  rintro n o' - reached
  have lastId := reached.lastId_of_update table
  rw [← lastId] at fits ⊢
  refine (Sure.storeCalculation vouches fits ..).storage.bind_completes
    (Performs.storage (store_performs ..)) ?_
  rintro saved o'' ⟨rfl, -⟩ -
  exact (Completes.record vouches).bind_pure fun _ _ => ⟨rfl, rfl⟩

theorem create_settles (fits : fitsSigned (o.store.document.lastId table + 1) = true)
    (input : CalculationInput) (caller : Caller) :
    Settles P (create offerPrefix input caller) o fun saved cs =>
      saved.id = o.store.document.lastId table + 1 ∧
      saved.uuid = o.supply.uuid o.supply.uuidsTaken ∧ ∃ kunde,
        cs = firstChanges o offerPrefix saved.uuid kunde input caller ++
          [.insert (createdEntry saved.id saved.uuid kunde input caller
            (Office.nextNumber offerPrefix o))] := by
  unfold Settles
  rw [create_ends]
  split
  · next kunde valid =>
    have completes := @createAs_completes m _ P o.takeUuid offerPrefix vouches fits
      (o.supply.uuid o.supply.uuidsTaken) kunde input caller
    refine Ends.mono completes ?_ fun e o' failed fine => ?_
    · intro saved o' after fine
      obtain ⟨before, ⟨id, uuid⟩, reached⟩ := after fine
      exact ⟨before, _, ⟨id, uuid, kunde, by rw [id, uuid]; rfl⟩, reached.of_takeUuid⟩
    · exact absurd fine failed
  · exact fun fine => ⟨fine, rfl⟩

theorem update_settles (h : o.Sound)
    (fits : fitsSigned (o.store.document.lastId table + 1) = true) (id : Int)
    (input : CalculationInput) (caller : Caller) :
    Settles P (update offerPrefix id input caller) o fun saved cs =>
      saved.id = o.store.document.lastId table + 1 ∧ ∃ row head kunde,
        IsHead o.store.document row head ∧ saved.uuid = head.uuid ∧
        cs = nextChanges o.store.document head kunde input ++
          [.insert (editedEntry saved.id head kunde input caller)] := by
  refine update_ends h.calculations (fun e fine => ⟨fine, rfl⟩) ?_
  intro kunde head row valid isHead _
  refine (extend_completes vouches fits head kunde input caller).settles ?_
  rintro saved ⟨id, uuid⟩
  exact ⟨id, row, head, kunde, isHead, uuid, by rw [id]⟩

end Calculations

/-! ## Deletions -/

section Deletion

variable {β : Type} (vouches : Medium.Vouches P)
include vouches

theorem deletion_settles {require : Service m β} {t : String} {id : Int}
    {record : β → Service m Unit} {entry : β → Insert} {Q : β → Prop}
    (required : Ends require o (fun b o' => Q b ∧ o' = o) fun _ o' => o' = o)
    (records : ∀ b o, Completes P (record b) o [.insert (entry b)] fun _ => True) :
    Settles P (deletion require t id record) o fun _ cs => ∃ b, Q b ∧
      cs = .update (Calculations.markDeleted t id) ::
        if 0 < ((Calculations.markDeleted t id).apply o.now [] o.store.document).1.changes
        then [.insert (entry b)] else [] := by
  refine Settles.of_look required fun b given => ?_
  have completes : Completes P (do
      if 0 < (← storage (Office.update (Calculations.markDeleted t id))) then record b) o
      ([.update (Calculations.markDeleted t id)] ++
        if 0 < ((Calculations.markDeleted t id).apply o.now [] o.store.document).1.changes
        then [.insert (entry b)] else []) fun _ => True := by
    refine (Sure.update vouches _).storage.bind_completes
      (Performs.storage (Performs.update _)) ?_
    rintro n o' rfl -
    by_cases marked :
        0 < ((Calculations.markDeleted t id).apply o.now [] o.store.document).1.changes
    · rw [if_pos marked, if_pos marked]
      exact records b o'
    · rw [if_neg marked, if_neg marked]
      exact ends_pure.mpr fun fine => ⟨fine, trivial, Reaches.refl o'⟩
  exact completes.settles fun _ _ => ⟨b, given, rfl⟩

end Deletion

namespace Calculations

/-- The entry for a deletion. -/
def deletedEntry (id : Int) (caller : Caller) (c : Calculation) : Insert :=
  Log.entry .delete entityType (some id) (some c.uuid) caller (some (.ofFields
    [("kunde", Json.ofOption .text c.kunde), ("calculation_type", .text c.kind.name)]))

variable (vouches : Medium.Vouches P)
include vouches

theorem delete_settles (h : o.Sound) (id : Int) (caller : Caller) :
    Settles P (delete id caller) o fun _ cs => ∃ c,
      (∃ row ∈ o.calculations, isNamed id row = true ∧ Calculation.Shown row c) ∧
      cs = .update (markDeleted table id) ::
        if 0 < ((markDeleted table id).apply o.now [] o.store.document).1.changes
        then [.insert (deletedEntry id caller c)] else [] := by
  rw [delete_eq]
  exact deletion_settles vouches (require_ends h.calculations id) fun c o =>
    Completes.record vouches

/-- Where no row is left to be renamed, the update has changed nothing. -/
theorem rename_settles (uuid title : String) :
    Settles P (rename uuid title) o fun _ cs =>
      cs = [.update (retitle uuid (Text.trim title))] := by
  unfold rename
  dsimp only
  split
  · exact ends_bind.mpr (ends_throw.mpr fun fine => ⟨fine, rfl⟩)
  · refine ends_bind.mpr (ends_storage.mpr (Ends.mono ((Sure.update vouches _).and
      (Performs.update (retitle uuid (Text.trim title)))) ?_ fun _ _ h fine => absurd fine h.1))
    rintro n o' ⟨before, rfl, reached⟩
    split
    · next none =>
      refine ends_bind.mpr (ends_throw.mpr fun fine => ⟨before fine, ?_⟩)
      exact reached.document.trans (Update.apply_of_none none)
    · exact ends_pure.mpr fun fine => ⟨before fine, _, rfl, reached⟩

end Calculations

namespace Offers

/-- The entry for a new offer. -/
def createdEntry (id : Int) (uuid : String) (input : OfferInput) (caller : Caller) : Insert :=
  Log.entry .create entityType (some id) (some uuid) caller
    (some (details input.kunde input.kind))

/-- The entry for a deletion. -/
def deletedEntry (id : Int) (caller : Caller) (offer : Offer) : Insert :=
  Log.entry .delete entityType (some id) (some offer.uuid) caller
    (some (details offer.kunde offer.kind))

/-- The entry for an offer that is sent. -/
def sentEntry (id : Int) (caller : Caller) (offer : Offer) (mail : Mail) : Insert :=
  Log.entry .sendEmail entityType (some id) (some offer.uuid) caller (some (.ofFields
    [("kunde", Json.ofOption .text offer.kunde), ("recipient", .text mail.recipient)]))

/-- The row of an offer that is read. -/
def Finds (o : Office m) (id : Int) (offer : Offer) : Prop :=
  ∃ row ∈ o.offers, Calculations.isNamed id row = true ∧ Offer.ofRecord? row = some offer

omit [Medium m] in
theorem require_finds (id : Int) :
    Ends (require id) o (fun offer o' => Finds o id offer ∧ o' = o) fun _ o' => o' = o := by
  refine ((require_reads id).and (Looks.offers_require id o)).mono ?_ fun _ _ => And.right
  rintro offer o' ⟨⟨found, rfl⟩, -⟩
  exact ⟨found, rfl⟩

variable (vouches : Medium.Vouches P)
include vouches

theorem createWith_completes
    (fits : fitsSigned (o.store.document.lastId table + 1) = true) (uuid : String)
    (input : OfferInput) (caller : Caller) (number : OfferNumber) :
    Completes P (createWith uuid input caller number) o
      (changes (o.store.document.lastId table + 1) uuid input caller number ++
        [.insert (createdEntry (o.store.document.lastId table + 1) uuid input caller)])
      fun saved => saved.id = o.store.document.lastId table + 1 ∧ saved.uuid = uuid := by
  refine (Sure.storeOffer vouches fits ..).storage.bind_completes
    (Performs.storage (store_performs ..)) ?_
  rintro id o' ⟨rfl, -⟩ -
  exact (Completes.record vouches).bind_pure fun _ _ => ⟨rfl, rfl⟩

theorem createAs_completes
    (fits : fitsSigned (o.store.document.lastId table + 1) = true) (uuid : String)
    (input : OfferInput) (caller : Caller) :
    Completes P (createAs offerPrefix uuid input caller) o
      (newChanges o offerPrefix uuid input caller ++
        [.insert (createdEntry (o.store.document.lastId table + 1) uuid input caller)])
      fun saved => saved.id = o.store.document.lastId table + 1 ∧ saved.uuid = uuid := by
  change Completes P _ o ([_] ++ (changes .. ++ _)) _
  refine (Sure.allocate vouches ..).storage.bind_completes
    (Performs.storage (allocate_performs 1)) ?_
  rintro number o' rfl reached
  have lastId := reached.lastId_of_advance (t := table) (by decide)
  rw [← lastId] at fits ⊢
  exact createWith_completes vouches fits ..

theorem create_settles (fits : fitsSigned (o.store.document.lastId table + 1) = true)
    (input : OfferInput) (caller : Caller) :
    Settles P (create offerPrefix input caller) o fun saved cs =>
      saved.id = o.store.document.lastId table + 1 ∧
      cs = newChanges o offerPrefix saved.uuid input caller ++
        [.insert (createdEntry saved.id saved.uuid input caller)] := by
  unfold Settles
  rw [create_ends]
  split
  · have completes := @createAs_completes m _ P o.takeUuid offerPrefix vouches fits
      (o.supply.uuid o.supply.uuidsTaken) input caller
    refine Ends.mono completes ?_ fun e o' failed fine => absurd fine failed
    intro saved o' after fine
    obtain ⟨before, ⟨id, uuid⟩, reached⟩ := after fine
    exact ⟨before, _, ⟨id, by rw [id, uuid]; rfl⟩, reached.of_takeUuid⟩
  · exact fun fine => ⟨fine, rfl⟩

theorem delete_settles (id : Int) (caller : Caller) :
    Settles P (delete id caller) o fun _ cs => ∃ offer, Finds o id offer ∧
      cs = .update (Calculations.markDeleted table id) ::
        if 0 < ((Calculations.markDeleted table id).apply o.now [] o.store.document).1.changes
        then [.insert (deletedEntry id caller offer)] else [] := by
  rw [delete_eq]
  exact deletion_settles vouches (require_finds id) fun offer o => Completes.record vouches

theorem send_settles (letterhead : Letterhead) (mailer : Mailer) (id : Int)
    (request : SendRequest) (caller : Caller) :
    Settles P (send letterhead mailer id request caller) o fun _ cs => ∃ offer mail,
      Finds o id offer ∧
      cs = [.update (markSent id), .insert (sentEntry id caller offer mail)] := by
  refine Settles.of_look (require_finds id) fun offer found => ?_
  cases mailed : mail letterhead mailer request offer with
  | error e => exact Settles.refuse e
  | ok letter =>
    have completes : Completes P (do
        let _ ← storage (Office.update (markSent id))
        Log.record .sendEmail entityType (some id) (some offer.uuid) caller (some (.ofFields
          [("kunde", Json.ofOption .text offer.kunde), ("recipient", .text letter.recipient)]))
        return letter.recipient) o
        ([.update (markSent id)] ++ [.insert (sentEntry id caller offer letter)])
        fun _ => True := by
      refine (Sure.update vouches _).storage.bind_completes
        (Performs.storage (Performs.update _)) fun n o' _ _ => ?_
      exact (Completes.record vouches).bind_pure fun _ _ => trivial
    refine ends_bind.mpr (ends_lift.mpr ?_)
    exact completes.settles fun _ _ => ⟨offer, letter, found, rfl⟩

end Offers

end OfferBook
