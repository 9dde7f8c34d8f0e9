import OfferBook.Proofs.Office.Outcome
import OfferBook.Proofs.Query.Labels

/-! # Telling

* `Tells` — work that leaves the office as it is, with what holds of its results and its errors, and
  one rule for each way in which work is composed.
* `Succeeds`, `Searches` — such work that cannot fail, or only for what is not there.
* `Tells.selectAll`, `Tells.matching` — selections whose rows can all be read.
-/

namespace OfferBook

theorem Select.read_rows {α : Type} {ofRecord? : Record → Option α} {s : Select} {now : Instant}
    {doc : Document}
    (read : ∀ row ∈ doc.table s.table, ∃ a, ofRecord? (s.shown doc row) = some a) :
    ∀ row ∈ s.rows now [] doc, ∃ a, ofRecord? row = some a := by
  intro r mem
  obtain ⟨row, there, rfl⟩ := exists_of_mem_rows mem
  exact read row there

namespace Office

variable {ε m α β : Type}

/-! ## Work that only tells -/

/-- Work that leaves the office as it is, and ends with a result of which `P` holds, or with an
    error of which `E` holds. -/
def Tells (act : OfficeM ε m α) (o : Office m) (P : α → Prop) (E : ε → Prop) : Prop :=
  Ends act o (fun a o' => P a ∧ o' = o) fun e o' => E e ∧ o' = o

/-- Work that leaves the office as it is and ends with a result. -/
def Succeeds (act : OfficeM ε m α) (o : Office m) : Prop := ∃ a, act.run.run o = (.ok a, o)

/-- Work that leaves the office as it is and ends with a result, or finds nothing. -/
def Searches (act : Service m α) (o : Office m) : Prop :=
  Succeeds act o ∨ ∃ what, act.run.run o = (.error (.notFound what), o)

namespace Tells

variable {o : Office m} {P P' : α → Prop} {E E' : ε → Prop}

theorem mono {act : OfficeM ε m α} (h : Tells act o P E) (hP : ∀ a, P a → P' a)
    (hE : ∀ e, E e → E' e) : Tells act o P' E' :=
  Ends.mono h (fun a _ => And.imp_left (hP a)) fun e _ => And.imp_left (hE e)

theorem pure {a : α} (h : P a) : Tells (pure a : OfficeM ε m α) o P E := ends_pure.mpr ⟨h, rfl⟩

theorem any {a : α} : Tells (Pure.pure a : OfficeM ε m α) o (fun _ => True) E := pure trivial

theorem throw {e : ε} (h : E e) : Tells (throw e : OfficeM ε m α) o P E := ends_throw.mpr ⟨h, rfl⟩

theorem bind {act : OfficeM ε m β} {f : β → OfficeM ε m α} {Q : β → Prop} (h : Tells act o Q E)
    (next : ∀ b, Q b → Tells (f b) o P E) : Tells (act >>= f) o P E := by
  refine ends_bind.mpr (Ends.mono h ?_ fun _ _ => id)
  rintro b o' ⟨told, rfl⟩
  exact next b told

/-- What tells something comes before work that may change the office. -/
theorem ends_bind {act : OfficeM ε m β} {f : β → OfficeM ε m α} {Q : β → Prop}
    {R : α → Office m → Prop} (h : Tells act o Q fun _ => False)
    (next : ∀ b, Q b → Ends (f b) o R fun _ _ => False) :
    Ends (act >>= f) o R fun _ _ => False := by
  refine Office.ends_bind.mpr (Ends.mono h ?_ fun _ _ => And.left)
  rintro b o' ⟨told, rfl⟩
  exact next b told

/-- Errors of the storage are not among those that are told of. -/
theorem storage {work : Work m α} {E : ServiceError → Prop} (h : Tells work o P fun _ => False) :
    Tells (storage work) o P E :=
  ends_storage.mpr (Ends.mono h (fun _ _ => id) fun _ _ h => h.1.elim)

theorem selectFirst {ofRecord? : Record → Option α} {s : Select} {P : Option α → Prop}
    {E : StorageError → Prop}
    (some : ∀ row ∈ s.rows o.now [] o.store.document, ∃ a, ofRecord? row = some a ∧ P (some a))
    (none : s.rows o.now [] o.store.document = [] → P none) :
    Tells (selectFirst ofRecord? s) o P E := by
  refine ends_selectFirst.mpr ?_
  cases found : s.rows o.now [] o.store.document with
  | nil => exact ⟨none found, rfl⟩
  | cons row rest =>
    obtain ⟨a, read, told⟩ := some row (found ▸ List.mem_cons_self)
    simpa only [List.head?_cons, read, and_true] using told

theorem select {s : Select} {P : List Record → Prop} {E : StorageError → Prop}
    (h : P (s.rows o.now [] o.store.document)) : Tells (select s) o P E := ends_select.mpr ⟨h, rfl⟩

theorem mapM {f : β → OfficeM ε m α} {bs : List β}
    (h : ∀ b ∈ bs, Tells (f b) o (fun _ => True) E) :
    Tells (bs.mapM f) o (fun as => as.length = bs.length) E := by
  induction bs with
  | nil => exact pure rfl
  | cons b rest ih =>
    rw [List.mapM_cons]
    refine (h b List.mem_cons_self).bind fun a _ => ?_
    refine (ih fun b mem => h b (List.mem_cons_of_mem _ mem)).bind fun as same => pure ?_
    rw [List.length_cons, List.length_cons, same]

theorem read {ofRecord? : Record → Option α} {row : Record} {E : StorageError → Prop} {a : α}
    (h : ofRecord? row = some a) : Tells (read ofRecord? row) o (fun _ => True) E := by
  refine ends_read.mpr ?_
  rw [h]
  exact ⟨trivial, rfl⟩

theorem selectAll {ofRecord? : Record → Option α} {s : Select} {E : StorageError → Prop}
    (h : ∀ row ∈ s.rows o.now [] o.store.document, ∃ a, ofRecord? row = some a) :
    Tells (selectAll ofRecord? s) o
      (fun as => as.length = (s.rows o.now [] o.store.document).length) E :=
  bind (select rfl) fun _ same =>
    same ▸ mapM fun row mem => (h row mem).elim fun _ => read

/-- The first row that meets some conditions, where all rows of the table can be read. -/
theorem matching {t : String} {conditions : List Condition} {ofRecord? : Record → Option α}
    {E : StorageError → Prop}
    (read : ∀ row ∈ o.store.document.table t, ∃ a, ofRecord? row = some a) :
    Tells (Office.selectFirst ofRecord? (.matching t conditions)) o
      (fun found => (∀ a ∈ found, ∃ row ∈ o.store.document.table t, ofRecord? row = some a) ∧
        (found = none →
          (Select.matching t conditions).rows o.now [] o.store.document = [])) E := by
  refine .selectFirst (fun r mem => ?_) fun none => ⟨nofun, fun _ => none⟩
  -- Without labels and joins, what is shown of a row is the row.
  obtain ⟨row, there, same⟩ := Select.exists_of_mem_rows mem
  obtain rfl : r = row := same
  obtain ⟨a, hread⟩ := read r there
  exact ⟨a, hread, fun b hb => ⟨r, there, hread.trans hb⟩, nofun⟩

theorem succeeds {act : OfficeM ε m α} (h : Tells act o P fun _ => False) : Succeeds act o := by
  obtain ⟨a, o', run, -, rfl⟩ := (Ends.mono h (fun _ _ => id) fun _ _ h => h.1).exists_ok
  exact ⟨a, run⟩

/-- Where the only error says that something is missing which is there, there is none. -/
theorem succeeds_of {act : OfficeM ε m α} {A : Prop} (h : Tells act o P fun e => E e ∧ ¬ A)
    (there : A) : Succeeds act o :=
  (h.mono (fun _ => id) fun _ missing => missing.2 there).succeeds

theorem searches {act : Service m α} (h : Tells act o P fun e => ∃ what, e = .notFound what) :
    Searches act o := by
  rcases run : act.run.run o with ⟨e | a, o'⟩
  · obtain ⟨⟨what, rfl⟩, rfl⟩ := Ends.of_error h run
    exact .inr ⟨what, run⟩
  · obtain ⟨-, rfl⟩ := Ends.of_ok h run
    exact .inl ⟨a, run⟩

end Tells

end Office

end OfferBook
