import OfferBook.Proofs.Document.Change
import OfferBook.Proofs.Office.Outcome

/-! # Work as a list of changes

Whatever the medium does, work makes its changes in a fixed order and stops at the first that
cannot be saved.

* `Reaches` — an office after some changes, whatever became of its medium.
* `Performs act o changes R` — `act` makes the changes, and what it returns has the property `R`;
  if it fails, it has made the first few of them.
* `Performs.bind`, `Performs.commit`, … — one rule for each way in which work is composed.
-/

namespace OfferBook.Office

variable {ε m α β : Type}

/-- One more identifier is taken from the supply. -/
def takeUuid (o : Office m) : Office m :=
  { o with supply := { o.supply with uuidsTaken := o.supply.uuidsTaken + 1 } }

/-- `o'` is `o` after some changes; fresh values may have been taken, too. -/
structure Reaches (o : Office m) (changes : List Change) (o' : Office m) : Prop where
  document : o'.store.document = Change.applyAll o.now changes o.store.document
  now : o'.now = o.now
  uuid : o'.supply.uuid = o.supply.uuid
  taken : o.supply.uuidsTaken ≤ o'.supply.uuidsTaken

theorem Reaches.refl (o : Office m) : Reaches o [] o := ⟨rfl, rfl, rfl, Nat.le_refl _⟩

theorem Reaches.trans {o o' o'' : Office m} {changes rest : List Change}
    (h : Reaches o changes o') (h' : Reaches o' rest o'') : Reaches o (changes ++ rest) o'' where
  document := by rw [h'.document, h.document, h.now, Change.applyAll_append]
  now := h'.now.trans h.now
  uuid := h'.uuid.trans h.uuid
  taken := Nat.le_trans h.taken h'.taken

theorem Reaches.withStore (o : Office m) (changes : List Change) (medium : m) :
    Reaches o changes (o.withStore (Change.applyAll o.now changes o.store.document) medium) :=
  ⟨rfl, rfl, rfl, Nat.le_refl _⟩

theorem Reaches.of_takeUuid {o o' : Office m} {changes : List Change}
    (h : Reaches o.takeUuid changes o') : Reaches o changes o' :=
  ⟨h.document, h.now, h.uuid, Nat.le_of_succ_le h.taken⟩

/-- Counting gives out no ids of other tables. -/
theorem Reaches.lastId_of_advance {o o' : Office m} {key t : String}
    (reached : Reaches o [.advance key] o') (apart : t ≠ Document.countersTable) :
    o'.store.document.lastId t = o.store.document.lastId t := by
  rw [reached.document]
  exact Change.lastId_advance key apart

theorem Reaches.lastId_of_update {o o' : Office m} {s : Update}
    (reached : Reaches o [.update s] o') (t : String) :
    o'.store.document.lastId t = o.store.document.lastId t := by
  rw [reached.document]
  exact Change.lastId_update s t

/-- How `act` makes changes in the office `o`. -/
def Performs (act : OfficeM ε m α) (o : Office m) (changes : List Change) (R : α → Prop) : Prop :=
  Ends act o (fun a o' => R a ∧ Reaches o changes o')
    (fun _ o' => ∃ done, done <+: changes ∧ Reaches o done o')

variable {o : Office m} {changes rest : List Change} {R : α → Prop} {S : β → Prop}

theorem Performs.pure {a : α} (h : R a) : Performs (pure a : OfficeM ε m α) o [] R :=
  ends_pure.mpr ⟨h, Reaches.refl o⟩

theorem Performs.throw {e : ε} : Performs (throw e : OfficeM ε m α) o changes R :=
  ends_throw.mpr ⟨[], List.nil_prefix, Reaches.refl o⟩

theorem Performs.storage {work : Work m α} (h : Performs work o changes R) :
    Performs (storage work) o changes R := ends_storage.mpr h

theorem Performs.bind {act : OfficeM ε m β} {f : β → OfficeM ε m α} (h : Performs act o changes S)
    (next : ∀ b o', S b → Reaches o changes o' → Performs (f b) o' rest R) :
    Performs (act >>= f) o (changes ++ rest) R := by
  refine ends_bind.mpr (Ends.mono h ?_ ?_)
  · rintro b o' ⟨hb, reached⟩
    refine Ends.mono (next b o' hb reached) ?_ ?_
    · rintro a o'' ⟨ha, reached'⟩
      exact ⟨ha, reached.trans reached'⟩
    · rintro e o'' ⟨done, hdone, reached'⟩
      exact ⟨_, (List.prefix_append_right_inj changes).mpr hdone, reached.trans reached'⟩
  · rintro e o' ⟨done, hdone, reached⟩
    exact ⟨done, hdone.trans (List.prefix_append changes rest), reached⟩

theorem Performs.bind_pure {act : OfficeM ε m β} {f : β → α} (h : Performs act o changes S)
    (next : ∀ b, S b → R (f b)) :
    Performs (act >>= fun b => Pure.pure (f b)) o changes R :=
  ends_bind.mpr (Ends.mono h (fun _ _ ⟨hb, reached⟩ => ends_pure.mpr ⟨next _ hb, reached⟩)
    fun _ _ => id)

/-! ## Single changes -/

variable [Medium m]

/-- Only what the document shows of a change matters. -/
theorem Performs.commit {change : Instant → Document → α × Document} {c : Change}
    (shown : (change o.now o.store.document).2 = c.apply o.now o.store.document)
    (h : R (change o.now o.store.document).1) :
    Performs (onStore fun now => Store.commit (change now)) o [c] R := by
  refine Ends.commit (fun medium => ⟨h, ?_⟩) fun e medium => ⟨[], List.nil_prefix, ?_⟩
  · rw [shown]
    exact Reaches.withStore o [c] medium
  · exact Reaches.withStore o [] medium

theorem Performs.insert (s : Insert) : Performs (insert s) o [.insert s]
    fun e => e = (s.apply o.now [] o.store.document).1 := Performs.commit rfl rfl

theorem Performs.update (s : Update) : Performs (update s) o [.update s]
    fun n => n = (s.apply o.now [] o.store.document).1.changes := by
  refine Performs.bind_pure (S := fun e => e = (s.apply o.now [] o.store.document).1)
    (Performs.commit rfl rfl) ?_
  rintro e rfl
  rfl

theorem Performs.bumpCounter (key : String) :
    Performs (onStore fun now => Store.bumpCounter now key) o [.advance key]
      fun n => n = (o.store.document.advanceCounter o.now key).1 := Performs.commit rfl rfl

end OfferBook.Office
