import OfferBook.Proofs.Model.Reading
import OfferBook.Proofs.Office.Looking
import OfferBook.Proofs.Office.Progress

/-! # Changes of a kind

* `Office.Made` — an office after some changes of a kind, whatever became of its medium.
* `Gives` — work whose results have a property.
* `Makes` — work that makes no others, with one rule for each way in which work is composed.
* `SideChange` — a change that leaves the content of calculations and offers alone: most calls look
  things up, keep the log and the accounts, or annotate rows.
* `Office.Aside` — an office after some such changes.
-/

namespace OfferBook

namespace Office

variable {ε m α β : Type} {P : Change → Prop} {o o' o'' : Office m}

/-- `o'` is `o` after some changes of a kind. -/
def Made (P : Change → Prop) (o o' : Office m) : Prop :=
  ∃ changes, (∀ c ∈ changes, P c) ∧ Reaches o changes o'

theorem Made.refl (P : Change → Prop) (o : Office m) : Made P o o := ⟨[], by simp, Reaches.refl o⟩

theorem Made.trans (h : Made P o o') (h' : Made P o' o'') : Made P o o'' := by
  obtain ⟨changes, allowed, reached⟩ := h
  obtain ⟨rest, allowed', reached'⟩ := h'
  refine ⟨changes ++ rest, fun c hc => ?_, reached.trans reached'⟩
  exact (List.mem_append.mp hc).elim (allowed c) (allowed' c)

theorem Made.mono {Q : Change → Prop} (h : Made P o o') (le : ∀ c, P c → Q c) : Made Q o o' := by
  obtain ⟨changes, allowed, reached⟩ := h
  exact ⟨changes, fun c mem => le c (allowed c mem), reached⟩

/-- Changes that spare a table leave its rows alone. -/
theorem Made.table {t : String} (h : Made (Change.Spares t) o o') :
    o'.store.document.table t = o.store.document.table t := by
  obtain ⟨changes, spares, reached⟩ := h
  rw [reached.document]
  exact (Change.applyAll_of_spares spares).1

/-- Work whose results have a property. -/
def Gives (act : OfficeM ε m α) (R : α → Prop) : Prop :=
  ∀ o, Ends act o (fun a _ => R a) fun _ _ => True

namespace Gives

variable {R : α → Prop} {S : β → Prop}

theorem pure {a : α} (h : R a) : Gives (pure a : OfficeM ε m α) R := fun _ => ends_pure.mpr h

theorem throw (e : ε) : Gives (throw e : OfficeM ε m α) R := fun _ => ends_throw.mpr trivial

theorem lift (x : Except ε α) : Gives (liftM x : OfficeM ε m α) (x = .ok ·) := by
  intro o
  rw [ends_lift]
  cases x <;> trivial

theorem any (act : OfficeM ε m α) : Gives act fun _ => True := ends_trivial act

theorem bind {act : OfficeM ε m β} {f : β → OfficeM ε m α} (h : Gives act S)
    (next : ∀ b, S b → Gives (f b) R) : Gives (act >>= f) R :=
  fun o => ends_bind.mpr ((h o).mono (fun b o' given => next b given o') fun _ _ => id)

theorem storage {work : Work m α} (h : Gives work R) : Gives (storage work) R :=
  fun o => ends_storage.mpr (h o)

theorem insertNumbered [Medium m] (s : Insert) :
    Gives (insertNumbered s : Work m Int) (fitsSigned · = true) := by
  refine (any _).bind fun e _ => ?_
  -- An id that is too long is not returned.
  cases read : e.rowId? with
  | none => exact throw _
  | some id => exact pure (Json.fitsSigned_of_signed? read)

end Gives

/-- Work that makes changes of a kind only. -/
def Makes (P : Change → Prop) (act : OfficeM ε m α) : Prop :=
  ∀ o, Ends act o (fun _ => Made P o) fun _ => Made P o

theorem Looks.makes {act : OfficeM ε m α} (h : Looks act) (P : Change → Prop) : Makes P act :=
  fun o => (h o).mono (fun _ _ same => same ▸ Made.refl P o) fun _ _ same => same ▸ Made.refl P o

namespace Makes

theorem pure (a : α) : Makes P (pure a : OfficeM ε m α) := (Looks.pure a).makes P

theorem bind {act : OfficeM ε m β} {f : β → OfficeM ε m α} (h : Makes P act)
    (next : ∀ b, Makes P (f b)) : Makes P (act >>= f) := by
  refine fun o => ends_bind.mpr ((h o).mono ?_ fun _ _ => id)
  intro b o' made
  exact (next b o').mono (fun _ _ => made.trans) fun _ _ => made.trans

/-- What follows may depend on a property of the result. -/
theorem bind_of {R : β → Prop} {act : OfficeM ε m β} {f : β → OfficeM ε m α} (h : Makes P act)
    (gives : Gives act R) (next : ∀ b, R b → Makes P (f b)) : Makes P (act >>= f) := by
  refine fun o => ends_bind.mpr (((h o).and (gives o)).mono ?_ fun _ _ => And.left)
  rintro b o' ⟨made, given⟩
  exact (next b given o').mono (fun _ _ => made.trans) fun _ _ => made.trans

theorem mono {Q : Change → Prop} {act : OfficeM ε m α} (h : Makes P act) (le : ∀ c, P c → Q c) :
    Makes Q act :=
  fun o => (h o).mono (fun _ _ made => made.mono le) fun _ _ made => made.mono le

theorem storage {work : Work m α} (h : Makes P work) : Makes P (storage work) :=
  fun o => ends_storage.mpr (h o)

theorem discard {act : Service m α} (h : Makes P act) :
    Makes P (do let _ ← act : Service m Unit) := h.bind fun _ => pure ()

theorem freshUuid : Makes P (freshUuid : Work m String) :=
  fun _ => ends_freshUuid.mpr ⟨[], by simp, (Reaches.refl _).of_takeUuid⟩

theorem freshSalt : Makes P (freshSalt : Work m Password.Salt) :=
  fun _ => ends_freshSalt.mpr ⟨[], by simp, rfl, rfl, rfl, Nat.le_refl _⟩

theorem hash (cost : Nat) (password : String) :
    Makes P (Accounts.hash cost password : Work m String) := by
  refine freshSalt.bind fun salt => ?_
  split
  · exact pure _
  · exact (Looks.throw _).makes P

theorem of_performs {act : OfficeM ε m α} {c : Change} {R : Office m → α → Prop}
    (h : ∀ o, Performs act o [c] (R o)) (allowed : P c) : Makes P act := by
  refine fun o => (h o).mono ?_ ?_
  · rintro a o' ⟨-, reached⟩
    exact ⟨_, by simpa using allowed, reached⟩
  · rintro e o' ⟨done, hdone, reached⟩
    refine ⟨done, fun d hd => ?_, reached⟩
    obtain rfl := List.mem_singleton.mp (hdone.subset hd)
    exact allowed

variable [Medium m]

theorem insert {s : Insert} (allowed : P (.insert s)) :
    Makes P (Office.insert s : Work m Execution) :=
  of_performs (fun _ => Performs.insert s) allowed

theorem update {s : Update} (allowed : P (.update s)) : Makes P (Office.update s : Work m Nat) :=
  of_performs (fun _ => Performs.update s) allowed

theorem record {action : Action} {entityType : String} {entityId : Option Int}
    {entityUuid : Option String} {caller : Caller} {details : Option Json}
    (allowed : P (.insert (Log.entry action entityType entityId entityUuid caller details))) :
    Makes P (Log.record action entityType entityId entityUuid caller details : OfficeM ε m Unit) :=
  fun o => Ends.record
    (fun medium => ⟨[.insert _], by simpa using allowed,
      Reaches.withStore o [.insert _] medium⟩)
    fun medium => ⟨[], by simp, Reaches.withStore o [] medium⟩

end Makes

end Office

/-! ## Changes on the side -/

/-- The fields by which rows are annotated. -/
def annotations : List String := ["kunde", "status", "modified_at", "deleted_at", "sent_at"]

/-- A text for an annotation. The only status that is given is that of a sent offer. -/
def Annotates (now : Instant) (a : String × Operand) : Prop :=
  a.1 ∈ annotations ∧ ∃ t, a.2.value now = .text t ∧ (a.1 = "status" → t = OfferStatus.sent.name)

/-- A change that leaves the content of calculations and offers alone. -/
inductive SideChange (now : Instant) : Change → Prop
  | entry {s : Insert} (table : s.table = Log.table) : SideChange now (.insert s)
  | newAccount {s : Insert} (table : s.table = Accounts.table) : SideChange now (.insert s)
  | account {s : Update} (table : s.table = Accounts.table) : SideChange now (.update s)
  | annotate {s : Update} (table : s.table = Calculations.table ∨ s.table = Offers.table)
      (values : ∀ a ∈ s.assignments, Annotates now a) : SideChange now (.update s)

namespace Office

variable {m : Type}

/-- `o'` is `o` after some changes on the side. -/
def Aside (o o' : Office m) : Prop :=
  ∃ changes, (∀ c ∈ changes, SideChange o.now c) ∧ Reaches o changes o'

theorem Aside.refl (o : Office m) : Aside o o := Made.refl _ o

end Office

end OfferBook
