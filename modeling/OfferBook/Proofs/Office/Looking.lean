import OfferBook.Office.Accounts
import OfferBook.Office.Admin
import OfferBook.Proofs.Office.Outcome
import OfferBook.Proofs.Query.Sorting

/-! # Looking

* `Accounts.findActive_eq`, `Accounts.firstActiveAdmin_eq` — accounts are found by conditions alone.
* `Looks` — work that leaves the office as it is, with one rule for each way in which work is
  composed.
* `Looks.calculations_require`, `Looks.versions`, … — the services, and the parts of others, that
  do so.
-/

namespace OfferBook

/-! ## Accounts that are found -/

namespace Accounts

variable {m : Type}

theorem findActive_eq (id : String) : (findActive id : Work m (Option Caller)) = do
    return (← find (.matching table [.is "id" (.text id), .is "active" (.int 1)])).map
      Account.caller := by
  have found : (find (active id) : Work m (Option Account)) = find _ :=
    Office.selectFirst_congr _ fun now doc => congrArg List.head? (Select.rows_only ..)
  rw [findActive, found]

theorem firstActiveAdmin_eq : (firstActiveAdmin : Work m (Option Caller)) = do
    return (← find (.matching table [.is "role" (.text adminRole), .is "active" (.int 1)])).map
      Account.caller := by
  have found : (find activeAdmin : Work m (Option Account)) = find _ :=
    Office.selectFirst_congr _ fun now doc =>
      (congrArg List.head? (Select.rows_first ..)).trans List.head?_take
  rw [firstActiveAdmin, found]

end Accounts

namespace Office

variable {ε m α β : Type}

/-- Work that leaves the office as it is. -/
def Looks (act : OfficeM ε m α) : Prop := ∀ o, Ends act o (fun _ o' => o' = o) fun _ o' => o' = o

namespace Looks

theorem pure (a : α) : Looks (pure a : OfficeM ε m α) := fun _ => ends_pure.mpr rfl

theorem throw (e : ε) : Looks (throw e : OfficeM ε m α) := fun _ => ends_throw.mpr rfl

theorem bind {act : OfficeM ε m β} {f : β → OfficeM ε m α} (h : Looks act)
    (next : ∀ b, Looks (f b)) : Looks (act >>= f) := by
  intro o
  refine ends_bind.mpr ((h o).mono ?_ fun _ _ => id)
  rintro b o' rfl
  exact next b o'

/-- An error ends all that would follow it. -/
theorem throw_bind (e : ε) (f : β → OfficeM ε m α) : Looks (MonadExcept.throw e >>= f) :=
  fun _ => ends_bind.mpr (ends_throw.mpr rfl)

theorem lift (x : Except ε α) : Looks (liftM x : OfficeM ε m α) := by
  cases x with
  | ok a => exact pure a
  | error e => exact throw e

theorem storage {work : Work m α} (h : Looks work) : Looks (storage work) :=
  fun o => ends_storage.mpr (h o)

theorem get : Looks (get : OfficeM ε m (Office m)) := fun _ => ends_get.mpr rfl

theorem document : Looks (document : Work m Document) := fun _ => ends_document.mpr rfl

theorem read (ofRecord? : Record → Option α) (row : Record) :
    Looks (read ofRecord? row : Work m α) := by
  unfold Office.read
  cases ofRecord? row with
  | none => exact throw _
  | some a => exact pure a

theorem mapM {f : β → OfficeM ε m α} (h : ∀ b, Looks (f b)) (bs : List β) : Looks (bs.mapM f) := by
  induction bs with
  | nil => exact pure []
  | cons b rest ih =>
    rw [List.mapM_cons]
    exact (h b).bind fun _ => ih.bind fun _ => pure _

theorem select (s : Select) : Looks (select s : Work m (List Record)) :=
  fun _ => ends_select.mpr rfl

theorem selectAll (ofRecord? : Record → Option α) (s : Select) :
    Looks (selectAll ofRecord? s : Work m (List α)) :=
  (select s).bind fun rows => mapM (read ofRecord?) rows

theorem selectFirst (ofRecord? : Record → Option α) (s : Select) :
    Looks (selectFirst ofRecord? s : Work m (Option α)) := by
  refine (select s).bind fun rows => ?_
  cases rows.head? with
  | none => exact pure none
  | some row => exact (read ofRecord? row).bind fun a => pure (some a)

/-! ## Reading -/

theorem calculations_require (id : Int) :
    Looks (Calculations.require id : Service m Calculation) := by
  refine (storage (selectFirst _ _)).bind fun found => ?_
  cases found with
  | none => exact throw _
  | some c => exact pure c

theorem calculations_list : Looks (Calculations.list : Service m (List Calculation)) :=
  storage (selectAll _ _)

theorem versions (idOrUuid : String) :
    Looks (Calculations.versions idOrUuid : Service m (List VersionInfo)) := by
  have chain : Looks (Calculations.chainOf idOrUuid : Service m String) := by
    unfold Calculations.chainOf
    split
    · exact (calculations_require _).bind fun c => pure _
    · exact pure _
  refine chain.bind fun uuid => (storage (selectAll _ _)).bind fun rows => ?_
  dsimp only
  split
  · exact throw_bind _ _
  · exact pure _

theorem offers_require (id : Int) : Looks (Offers.require id : Service m Offer) := by
  refine (storage (selectFirst _ _)).bind fun found => ?_
  cases found with
  | none => exact throw _
  | some o => exact pure o

theorem offers_list : Looks (Offers.list : Service m (List Offer)) := storage (selectAll _ _)

theorem sheets (owner : Owner) (kind : SheetKind) :
    Looks (LineItems.sheets owner kind : Work m Sheets) := by
  cases kind with
  | garment => exact (selectAll _ _).bind fun _ => pure _
  | warehousing => exact (selectFirst _ _).bind fun _ => pure _

theorem logPage (limit offset : Nat) : Looks (Log.page limit offset : Work m ActivityPage) :=
  (selectAll _ _).bind fun _ => document.bind fun _ => pure _

theorem adminLogs (caller : Caller) (limit offset : Option Nat) :
    Looks (Admin.logs caller limit offset : Service m ActivityPage) :=
  (lift _).bind fun _ => storage (logPage _ _)

theorem find (s : Select) : Looks (Accounts.find s : Work m (Option Account)) := selectFirst _ _

theorem passwordMatches (a : Account) (password : String) :
    Looks (Accounts.passwordMatches a password : Work m Bool) := by
  unfold Accounts.passwordMatches
  repeat' split
  · exact pure _
  · exact pure _
  · exact throw _

theorem exportTable (ofRecord? : Record → Option α) (idOf : α → Int) (t shortName : String)
    (owner : Owner) :
    Looks (Admin.exportTable ofRecord? idOf t shortName owner :
      Work m (List (Exported α))) := by
  have children {γ : Type} (ofRecord? : Record → Option γ) (t column : String) :
      Looks (Admin.children ofRecord? t column : Work m (Admin.Owned γ)) :=
    (select _).bind fun rows => mapM (fun _ => (read ofRecord? _).bind fun _ => pure _) _
  refine (children _ _ _).bind fun _ => (children _ _ _).bind fun _ => (select _).bind fun _ => ?_
  split
  · exact pure _
  · exact throw _

end Looks

end Office

end OfferBook
