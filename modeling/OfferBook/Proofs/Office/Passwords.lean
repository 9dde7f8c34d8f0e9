import Mathlib.Data.Option.Basic
import OfferBook.Office.Admin
import OfferBook.Proofs.Model.Reading
import OfferBook.Proofs.Office.Concealing
import OfferBook.Proofs.Office.Looking
import OfferBook.Proofs.Office.Requests
import OfferBook.Proofs.Query.Creators
import OfferBook.Proofs.Query.Sorting

/-! # What is shown of passwords

Rows of calculations and offers are joined with all that is stored of the users who made them, and
accounts are read with their passwords. Nothing of the passwords is shown.

* `ReadsOnly` — a typed record that depends on its own fields alone, as calculations and offers do.
* `Account.caller_ofRecord?` — what is told of an account does not depend on its password.
* `Creators.overlooks` — joined users are not looked up, tested or sorted by their passwords.
* `Agree.calculations_get`, `Agree.exportAll`, … — the services in offices with other passwords.
* `Office.passwords_are_not_shown` — whatever is asked, the answers are the same.
-/

namespace OfferBook

/-! ## Typed records -/

/-- A typed record is read from the named fields of a row. -/
def ReadsOnly {α : Type} (names : List String) (ofRecord? : Record → Option α) : Prop :=
  ∀ row row' : Record, (∀ name ∈ names, row.get? name = row'.get? name) →
    ofRecord? row = ofRecord? row'

theorem Calculation.readsOnly : ReadsOnly Calculation.fieldNames Calculation.ofRecord? := by
  intro row row' same
  unfold ofRecord? ofJson?
  rw [Fields.bind_ofRecord, Fields.bind_ofRecord]
  -- The fields are read one after the other, and the same is found in each.
  repeat' refine Option.bind_congr' ?_ fun _ _ => ?_
  all_goals first
    | exact Fields.orDefault_congr (same _ (by decide))
    | exact same _ (by decide)
    | rfl

theorem Offer.readsOnly : ReadsOnly Offer.fieldNames Offer.ofRecord? := by
  intro row row' same
  unfold ofRecord? ofJson?
  rw [Fields.bind_ofRecord, Fields.bind_ofRecord]
  -- The fields are read one after the other, and the same is found in each.
  repeat' refine Option.bind_congr' ?_ fun _ _ => ?_
  all_goals first
    | exact Fields.orDefault_congr (same _ (by decide))
    | exact same _ (by decide)
    | rfl

/-- The password of an account is a text or null, and nothing else that is told depends on it. -/
theorem Account.caller_ofRecord? (row : Record) :
    (Account.ofRecord? row.concealed).map Account.caller =
      (Account.ofRecord? row).map Account.caller := by
  have others (name : String) (other : name ≠ "password") :
      Entries.lookup name row.concealed.entries = Entries.lookup name row.entries :=
    Record.get?_concealed_of_ne other row
  have fields : ∀ name ∈ ["id", "email", "name", "role", "active", "created_at"],
      Entries.lookup name row.concealed.entries = Entries.lookup name row.entries :=
    fun name among => others name fun same => absurd (same ▸ among) (by decide)
  simp only [List.forall_mem_cons] at fields
  have password : (Fields.optional "password" Strict.text? row.concealed.entries).isSome =
      (Fields.optional "password" Strict.text? row.entries).isSome := by
    unfold Record.concealed
    split
    · next s found =>
      have blotted := Dict.get?_insert_self row "password" (.text "")
      unfold Dict.get? at found blotted
      simp only [Fields.optional, Fields.orDefault, found, blotted]
      rfl
    · rfl
  have created : Fields.optional "created_at" Strict.text? row.concealed.entries =
      Fields.optional "created_at" Strict.text? row.entries := by
    simp only [Fields.optional, Fields.orDefault, fields]
  simp only [Account.ofRecord?, Account.ofJson?, Fields.ofJson?_ofRecord, Option.bind_eq_bind,
    Option.bind_some, Option.map_bind, Function.comp_def, Fields.required, Fields.orDefault,
    fields, created]
  -- The rest is read alike with any password.
  generalize Fields.optional "password" Strict.text? row.concealed.entries = p at password ⊢
  generalize Fields.optional "password" Strict.text? row.entries = p' at password ⊢
  cases p <;> cases p'
  · rfl
  · cases password
  · cases password
  · rfl

/-! ## Selections -/

/-- Neither calculations nor offers are looked up, tested or sorted by the passwords of users. -/
theorem Creators.overlooks {t shortName orderBy : String} {labels : List Projection}
    {conditions : List Condition} (asked : Asked shortName labels)
    (unread : "u_password" ∉
      (Creators.joined t shortName labels conditions orderBy).readFields) :
    (Creators.joined t shortName labels conditions orderBy).Overlooks (Creators.join shortName)
      "password" := by
  have name (l : String × String)
      (hl : l ∈ [("name", "created_by_name"), ("email", "created_by_email")]) :
      l.1 ≠ "password" := by revert l; decide
  rcases asked.known with rfl | rfl <;> rcases asked.labelled with rfl | rfl <;>
    refine ⟨rfl, by decide, fun l hl => name l ?_, fun l hl => ?_, unread⟩
  all_goals first
    | exact List.mem_of_mem_head? (congrArg some (List.mem_singleton.mp hl).symm)
    | exact hl
    | exact absurd hl List.not_mem_nil

section Joined

variable {s : Select} {shortName : String} {doc doc' : Document}

/-- What is selected together with the users differs in their passwords alone. -/
theorem Document.Alike.erase_rows (h : doc.Alike doc') (other : s.table ≠ Accounts.table)
    (overlooks : s.Overlooks (Creators.join shortName) "password") (now : Instant) :
    (s.rows now [] doc).map (·.erase "u_password") =
      (s.rows now [] doc').map (·.erase "u_password") :=
  overlooks.erase_rows (fun row _ other => Record.get?_concealed_of_ne other row)
    (h.table_eq other) h.users

theorem ReadsOnly.comp_erase {α : Type} {names : List String} {ofRecord? : Record → Option α}
    {hidden : String} (h : ReadsOnly names ofRecord?) (unread : hidden ∉ names) :
    ofRecord? ∘ (·.erase hidden) = ofRecord? :=
  funext fun row => h _ _ fun name among =>
    Record.sameBut_erase hidden row name fun same => unread (same ▸ among)

end Joined

theorem Owner.garmentTable_elsewhere (owner : Owner) : owner.garmentTable ≠ Accounts.table := by
  cases owner <;> exact of_decide_eq_true rfl

theorem Owner.warehousingTable_elsewhere (owner : Owner) :
    owner.warehousingTable ≠ Accounts.table := by
  cases owner <;> exact of_decide_eq_true rfl

namespace Office.Agree

variable {m α : Type} [Medium m]

theorem selectAll_joined {names : List String} {ofRecord? : Record → Option α} {s : Select}
    {shortName : String} (reads : ReadsOnly names ofRecord?) (unread : "u_password" ∉ names)
    (other : s.table ≠ Accounts.table)
    (overlooks : s.Overlooks (Creators.join shortName) "password") :
    Agree Eq (Office.selectAll ofRecord? s : Work m (List α)) (Office.selectAll ofRecord? s) := by
  refine (select (R := fun rows rows' => rows.mapM ofRecord? = rows'.mapM ofRecord?)
    fun now doc doc' alike => ?_).bind fun rows rows' same => mapM_read same
  have rows := congrArg (List.mapM ofRecord?) (alike.erase_rows other overlooks now)
  rwa [List.mapM_map, List.mapM_map, reads.comp_erase unread] at rows

/-! ## Calculations and offers -/

theorem calculations_elsewhere : Calculations.table ≠ Accounts.table := by decide

theorem offers_elsewhere : Offers.table ≠ Accounts.table := by decide

theorem log_elsewhere : Log.table ≠ Accounts.table := by decide

theorem sheets (owner : Owner) (kind : SheetKind) :
    Agree Eq (LineItems.sheets owner kind : Work m Sheets) (LineItems.sheets owner kind) := by
  cases kind with
  | garment =>
    refine (selectAll_elsewhere rfl owner.garmentTable_elsewhere _).bind ?_
    rintro items _ rfl
    exact pure rfl
  | warehousing =>
    refine (selectFirst_elsewhere rfl owner.warehousingTable_elsewhere _).bind ?_
    rintro sheet _ rfl
    exact pure rfl

theorem calculations_require (id : Int) :
    Agree Eq (Calculations.require id : Service m Calculation) (Calculations.require id) := by
  refine (storage (selectFirst_elsewhere rfl calculations_elsewhere _)).bind ?_
  rintro found _ rfl
  cases found with
  | none => exact throw _
  | some c => exact pure rfl

theorem calculations_detail (offerPrefix : String) (c : Calculation) :
    Agree Eq (Calculations.detail offerPrefix c : Work m CalculationDetail)
      (Calculations.detail offerPrefix c) := by
  have backfilled : Agree Eq (Calculations.backfill offerPrefix c : Work m Calculation)
      (Calculations.backfill offerPrefix c) := by
    unfold Calculations.backfill
    split
    · refine (allocate _ _).bind ?_
      rintro number _ rfl
      refine (update calculations_elsewhere).bind ?_
      rintro changes _ rfl
      exact pure rfl
    · exact pure rfl
  refine backfilled.bind ?_
  rintro c _ rfl
  refine (sheets _ _).bind ?_
  rintro found _ rfl
  exact pure rfl

theorem calculations_get (offerPrefix : String) (id : Int) :
    Agree Eq (Calculations.get offerPrefix id : Service m CalculationDetail)
      (Calculations.get offerPrefix id) := by
  refine (calculations_require id).bind ?_
  rintro c _ rfl
  exact storage (calculations_detail offerPrefix c)

theorem latest (offerPrefix uuid : String) :
    Agree Eq (Calculations.latest offerPrefix uuid : Service m CalculationDetail)
      (Calculations.latest offerPrefix uuid) := by
  refine (storage (selectFirst_elsewhere rfl calculations_elsewhere _)).bind ?_
  rintro found _ rfl
  cases found with
  | none => exact throw _
  | some c => exact storage (calculations_detail offerPrefix c)

theorem calculations_list :
    Agree Eq (Calculations.list : Service m (List Calculation)) Calculations.list :=
  storage (selectAll_joined Calculation.readsOnly (by decide) calculations_elsewhere
    (Creators.overlooks ⟨.inl rfl, .inl rfl⟩ (by decide)))

theorem versions (idOrUuid : String) :
    Agree Eq (Calculations.versions idOrUuid : Service m (List VersionInfo))
      (Calculations.versions idOrUuid) := by
  have chain : Agree Eq (Calculations.chainOf idOrUuid : Service m String)
      (Calculations.chainOf idOrUuid) := by
    unfold Calculations.chainOf
    split
    · refine (calculations_require _).bind ?_
      rintro c _ rfl
      exact pure rfl
    · exact pure rfl
  refine chain.bind ?_
  rintro uuid _ rfl
  have overlooks : (Creators.joined Calculations.table "c" [Creators.name]
      [.equals ⟨some "c", "calculation_uuid"⟩ (.literal (.text uuid))] "version").Overlooks
      (Creators.join "c") "password" :=
    Creators.overlooks ⟨.inl rfl, .inl rfl⟩
      (show "u_password" ∉ ["calculation_uuid", "version"] by decide)
  refine (storage (selectAll_joined Calculation.readsOnly (by decide) calculations_elsewhere
    overlooks)).bind ?_
  rintro rows _ rfl
  dsimp only
  split
  · exact (throw (R := Eq) _).bind fun _ _ _ => pure rfl
  · exact pure rfl

theorem offers_get (offerPrefix : String) (id : Int) :
    Agree Eq (Offers.get offerPrefix id : Service m OfferDetail) (Offers.get offerPrefix id) := by
  have required : Agree Eq (Offers.require id : Service m Offer) (Offers.require id) := by
    refine (storage (selectFirst_elsewhere rfl offers_elsewhere _)).bind ?_
    rintro found _ rfl
    cases found with
    | none => exact throw _
    | some offer => exact pure rfl
  have backfilled (offer : Offer) :
      Agree Eq (Offers.backfill offerPrefix id offer : Work m Offer)
        (Offers.backfill offerPrefix id offer) := by
    unfold Offers.backfill
    split
    · refine (allocate _ _).bind ?_
      rintro number _ rfl
      refine (update offers_elsewhere).bind ?_
      rintro changes _ rfl
      exact pure rfl
    · exact pure rfl
  refine required.bind ?_
  rintro offer _ rfl
  refine storage ((backfilled offer).bind ?_)
  rintro offer _ rfl
  refine (sheets _ _).bind ?_
  rintro found _ rfl
  exact pure rfl

theorem offers_list : Agree Eq (Offers.list : Service m (List Offer)) Offers.list :=
  storage (selectAll_joined Offer.readsOnly (by decide) offers_elsewhere
    (Creators.overlooks ⟨.inr rfl, .inl rfl⟩ (by decide)))

/-! ## Accounts -/

/-- Accounts that are found differ in their passwords at most. -/
theorem find {conditions : List Condition}
    (unread : "password" ∉ (Select.matching Accounts.table conditions).readFields) :
    Agree (fun found found' => found.map Account.caller = found'.map Account.caller)
      (Accounts.find (.matching Accounts.table conditions) : Work m (Option Account))
      (Accounts.find (.matching Accounts.table conditions)) := by
  refine (select (R := fun rows rows' =>
    rows.map Record.concealed = rows'.map Record.concealed) fun now doc doc' alike => ?_).bind ?_
  · refine Select.map_rows (fun field read row => ?_) ?_
    · exact Record.get?_concealed_of_ne (fun same => unread (same ▸ read)) row
    · rw [Select.candidates_matching, Select.candidates_matching]
      exact alike.users
  intro rows rows' same
  have heads : rows.head?.map Record.concealed = rows'.head?.map Record.concealed := by
    rw [← List.head?_map, same, List.head?_map]
  generalize rows.head? = row at heads
  generalize rows'.head? = row' at heads
  cases row with
  | none =>
    obtain rfl := Option.map_eq_none_iff.mp heads.symm
    exact pure rfl
  | some a =>
    obtain ⟨b, rfl, concealed⟩ := Option.map_eq_some_iff.mp heads.symm
    have callers : (Account.ofRecord? a).map Account.caller =
        (Account.ofRecord? b).map Account.caller := by
      rw [← Account.caller_ofRecord? a, ← concealed, Account.caller_ofRecord? b]
    exact (read callers).bind fun _ _ same => pure (congrArg some same)

theorem findActive (id : String) :
    Agree Eq (Accounts.findActive id : Work m (Option Caller)) (Accounts.findActive id) := by
  have unread : "password" ∉ ["id", "active"] := by decide
  rw [Accounts.findActive_eq]
  refine (find ?_).bind fun _ _ same => pure same
  exact unread

theorem firstActiveAdmin :
    Agree Eq (Accounts.firstActiveAdmin : Work m (Option Caller)) Accounts.firstActiveAdmin := by
  rw [Accounts.firstActiveAdmin_eq]
  refine (find ?_).bind fun _ _ same => pure same
  decide

/-! ## Administrators -/

theorem adminLogs (caller : Caller) (limit offset : Option Nat) :
    Agree Eq (Admin.logs caller limit offset : Service m ActivityPage)
      (Admin.logs caller limit offset) := by
  refine (lift _).bind fun _ _ _ => storage ?_
  refine (selectAll_elsewhere rfl log_elsewhere _).bind ?_
  rintro entries _ rfl
  refine document.bind fun doc doc' alike => pure ?_
  rw [alike.table_eq log_elsewhere]

theorem children {ofRecord? : Record → Option α} {t : String} (other : t ≠ Accounts.table)
    (column : String) :
    Agree Eq (Admin.children ofRecord? t column : Work m (Admin.Owned α))
      (Admin.children ofRecord? t column) := by
  refine (select_elsewhere rfl other).bind ?_
  rintro rows _ rfl
  refine mapM (fun owned => ?_) _
  refine (read_self ofRecord? owned.2).bind ?_
  rintro a _ rfl
  exact pure rfl

theorem exportRows_map_erase {names : List String} {ofRecord? : Record → Option α}
    {hidden : String} (reads : ReadsOnly names ofRecord?) (unread : hidden ∉ names)
    (shown : "created_by_email" ≠ hidden) (idOf : α → Int) (garments : Admin.Owned GarmentItem)
    (services : Admin.Owned Warehousing) (rows : List Record) :
    Admin.exportRows ofRecord? idOf garments services (rows.map (·.erase hidden)) =
      Admin.exportRows ofRecord? idOf garments services rows := by
  induction rows generalizing garments services with
  | nil => rfl
  | cons row rest ih =>
    have same : ofRecord? (row.erase hidden) = ofRecord? row :=
      congrFun (reads.comp_erase unread) row
    have email : Admin.textField (row.erase hidden) "created_by_email" =
        Admin.textField row "created_by_email" :=
      congrArg (·.bind Json.text?) (Record.sameBut_erase hidden row _ shown)
    simp only [List.map_cons, Admin.exportRows, same, email, ih]

theorem exportTable {names : List String} {ofRecord? : Record → Option α}
    (reads : ReadsOnly names ofRecord?) (unread : "u_password" ∉ names) (idOf : α → Int)
    {t shortName : String} (other : t ≠ Accounts.table) (known : shortName = "c" ∨ shortName = "o")
    (owner : Owner) :
    Agree Eq (Admin.exportTable ofRecord? idOf t shortName owner : Work m (List (Exported α)))
      (Admin.exportTable ofRecord? idOf t shortName owner) := by
  have overlooks : (Creators.joined t shortName [Creators.name, Creators.email] [] "id").Overlooks
      (Creators.join shortName) "password" := by
    refine Creators.overlooks ⟨known, .inr rfl⟩ ?_
    rcases known with rfl | rfl
    · exact (show "u_password" ∉ ["id"] by decide)
    · exact (show "u_password" ∉ ["id"] by decide)
  refine (children owner.garmentTable_elsewhere _).bind ?_
  rintro garments _ rfl
  refine (children owner.warehousingTable_elsewhere _).bind ?_
  rintro services _ rfl
  refine (select (R := fun rows rows' =>
    Admin.exportRows ofRecord? idOf garments services rows =
      Admin.exportRows ofRecord? idOf garments services rows') fun now doc doc' alike => ?_).bind
    fun rows rows' same => ?_
  · have rows := congrArg (Admin.exportRows ofRecord? idOf garments services)
      (alike.erase_rows other overlooks now)
    rwa [exportRows_map_erase reads unread (by decide),
      exportRows_map_erase reads unread (by decide)] at rows
  · rw [same]
    cases Admin.exportRows ofRecord? idOf garments services rows' with
    | none => exact throw _
    | some exported => exact pure rfl

theorem exportAll (caller : Caller) :
    Agree Eq (Admin.exportAll caller : Service m Export) (Admin.exportAll caller) := by
  refine (lift _).bind fun _ _ _ => ?_
  refine (storage (exportTable Calculation.readsOnly (by decide) _ calculations_elsewhere
    (.inl rfl) _)).bind ?_
  rintro calculations _ rfl
  refine (storage (exportTable Offer.readsOnly (by decide) _ offers_elsewhere
    (.inr rfl) _)).bind ?_
  rintro offers _ rfl
  refine (storage (selectAll_elsewhere rfl log_elsewhere _)).bind ?_
  rintro logs _ rfl
  refine (record _ _ _ _ _ _).bind fun _ _ _ => ?_
  refine get.bind fun o o' alike => pure ?_
  rw [alike.now]

end Office.Agree

/-! ## The result -/

namespace Office

variable {m : Type} [Medium m]

/-- Two offices differ in the texts of the users' passwords and in nothing else that is stored, and
    documents can be saved in the one exactly where they can be saved in the other. Whatever
    calculations, offers, users, pages of the log and exports are asked for at the same time, the
    answers are the same. -/
theorem passwords_are_not_shown {o o' : Office m} (alike : o.Alike o')
    (offerPrefix uuid idOrUuid userId : String) (id : Int) (caller : Caller)
    (limit offset : Option Nat) :
    ((Calculations.list.run.run o).1 = (Calculations.list.run.run o').1 ∧
      ((Calculations.get offerPrefix id).run.run o).1 =
        ((Calculations.get offerPrefix id).run.run o').1 ∧
      ((Calculations.latest offerPrefix uuid).run.run o).1 =
        ((Calculations.latest offerPrefix uuid).run.run o').1 ∧
      ((Calculations.versions idOrUuid).run.run o).1 =
        ((Calculations.versions idOrUuid).run.run o').1) ∧
    ((Offers.list.run.run o).1 = (Offers.list.run.run o').1 ∧
      ((Offers.get offerPrefix id).run.run o).1 = ((Offers.get offerPrefix id).run.run o').1) ∧
    (((Accounts.findActive userId).run.run o).1 = ((Accounts.findActive userId).run.run o').1 ∧
      (Accounts.firstActiveAdmin.run.run o).1 = (Accounts.firstActiveAdmin.run.run o').1) ∧
    ((Admin.logs caller limit offset).run.run o).1 =
      ((Admin.logs caller limit offset).run.run o').1 ∧
    ((Admin.exportAll caller).run.run o).1 = ((Admin.exportAll caller).run.run o').1 :=
  ⟨⟨Agree.calculations_list.answer_eq alike, (Agree.calculations_get _ _).answer_eq alike,
      (Agree.latest _ _).answer_eq alike, (Agree.versions _).answer_eq alike⟩,
    ⟨Agree.offers_list.answer_eq alike, (Agree.offers_get _ _).answer_eq alike⟩,
    ⟨(Agree.findActive _).answer_eq alike, Agree.firstActiveAdmin.answer_eq alike⟩,
    (Agree.adminLogs _ _ _).answer_eq alike, (Agree.exportAll _).answer_eq alike⟩

/-! ## Two offices in memory -/

/-- Memories with room for as many documents take the same ones. -/
theorem savesAlike_memory {s s' : Memory} (room : s.allowance = s'.allowance) :
    Medium.SavesAlike s s' := by
  intro docs docs' alike
  induction alike generalizing s s' with
  | nil => rfl
  | cons _ _ ih =>
    have saved : ∀ doc doc', (Memory.save doc s).1 = (Memory.save doc' s').1 ∧
        (Memory.save doc s).2.allowance = (Memory.save doc' s').2.allowance := by
      intro doc doc'
      unfold Memory.save
      rw [room]
      split
      · exact ⟨rfl, room⟩
      · exact ⟨rfl, rfl⟩
      · exact ⟨rfl, rfl⟩
    exact congrArg₂ List.cons (saved _ _).1 (ih (saved _ _).2)

/-- The users of an office with one administrator. -/
def adminWith (password : String) : Document :=
  ⟨.empty, .ofList [("users", [.ofList [("id", .text "1"), ("email", .text "ada@example.org"),
    ("password", .text password), ("name", .text "Ada"), ("role", .text "admin"),
    ("active", .bool true)]])]⟩

theorem alike_adminWith : (adminWith "secret").Alike (adminWith "hidden") where
  counters := rfl
  tables t other := by
    have : t ≠ "users" := other
    simp [adminWith, Dict.ofList_eq_foldl, Dict.get?_insert, this]
  users := by decide +kernel

/-- The administrator is found, whatever the password. -/
theorem password_of_admin_is_not_shown :
    adminWith "secret" ≠ adminWith "hidden" ∧
      (inMemory.withStore (adminWith "secret") inMemory.store.medium).Alike
        (inMemory.withStore (adminWith "hidden") inMemory.store.medium) ∧
      (Accounts.firstActiveAdmin.run.run
          (inMemory.withStore (adminWith "secret") inMemory.store.medium)).1 =
        (Accounts.firstActiveAdmin.run.run
          (inMemory.withStore (adminWith "hidden") inMemory.store.medium)).1 := by
  have alike : (inMemory.withStore (adminWith "secret") inMemory.store.medium).Alike
      (inMemory.withStore (adminWith "hidden") inMemory.store.medium) :=
    ⟨rfl, alike_adminWith, savesAlike_memory rfl⟩
  exact ⟨by decide +kernel, alike,
    (passwords_are_not_shown alike "FHD" "" "" "1" 1 somebody none none).2.2.1.2⟩

end Office

end OfferBook
