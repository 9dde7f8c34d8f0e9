import Mathlib.Data.List.Nodup
import OfferBook.Proofs.Office.Permits
import OfferBook.Proofs.Password.Hashes
import OfferBook.Proofs.Query.Sorting

/-! # Whose account an id is

Accounts are looked up by their ids with the equality of conditions. It holds between a number and
every text that reads as the number, while the id that is told of an account is one text.

* `Account.idOf?` — the id that is told of the account in a row.
* `Account.Respells` — another spelling of an id that is stored as a number.
* `Accounts.findActive_ends`, `Accounts.changePassword_ends` — what the lookups lead to.
* `Office.an_id_is_one_account` — an id that respells no other one finds its own account alone.
-/

namespace OfferBook

namespace Account

/-- The id that is told of the account in a row. -/
def idOf? (row : Record) : Option String := (row.get? "id").bind Lenient.text

/-- Whether a lookup by an id finds a row. -/
def isNamed (id : String) (row : Record) : Bool := Json.matchesValue (row.get? "id") (.text id)

/-- Another spelling of an id that is stored as a number: a text that reads as the number and is
    not the text by which the number is told. -/
def Respells (id : String) (row : Record) : Prop :=
  (∃ n, row.get? "id" = some (.number n) ∧ Json.textIsNumber id n = true) ∧ idOf? row ≠ some id

/-- A row that is found is told to have the id, or the id is another spelling of it. -/
theorem idOf?_of_isNamed {id : String} {row : Record} (h : isNamed id row = true) :
    idOf? row = some id ∨ Respells id row := by
  unfold isNamed at h
  rcases found : row.get? "id" with - | v
  · rw [found] at h
    cases h
  · rw [found] at h
    cases v with
    | text s =>
      have same : s = id := by simpa [Json.matchesValue, Json.same] using h
      exact .inl (by rw [idOf?, found, ← same]; rfl)
    | number n =>
      by_cases told : idOf? row = some id
      · exact .inl told
      · exact .inr ⟨⟨n, found, h⟩, told⟩
    | null | bool | array | object => cases h

/-- What is told of the id and the password of an account is what its row holds. -/
theorem reads_of_ofRecord? {row : Record} {a : Account} (h : ofRecord? row = some a) :
    idOf? row = some a.id ∧
      ∀ stored, a.password = some stored → row.get? "password" = some (.text stored) := by
  obtain ⟨fields, hfields, h⟩ := Option.bind_eq_some_iff.mp h
  obtain rfl := Option.some.inj ((Fields.ofJson?_ofRecord fieldNames row).symm.trans hfields)
  obtain ⟨id, hid, h⟩ := Option.bind_eq_some_iff.mp h
  obtain ⟨email, -, h⟩ := Option.bind_eq_some_iff.mp h
  obtain ⟨password, hpassword, h⟩ := Option.bind_eq_some_iff.mp h
  obtain ⟨name, -, h⟩ := Option.bind_eq_some_iff.mp h
  obtain ⟨role, -, h⟩ := Option.bind_eq_some_iff.mp h
  obtain ⟨active, -, h⟩ := Option.bind_eq_some_iff.mp h
  obtain ⟨createdAt, -, h⟩ := Option.bind_eq_some_iff.mp h
  obtain rfl := Option.some.inj h
  refine ⟨hid, ?_⟩
  rintro stored rfl
  rw [Fields.optional, Fields.orDefault_entries] at hpassword
  rcases found : row.get? "password" with - | v
  · rw [found] at hpassword
    cases hpassword
  · rw [found] at hpassword
    cases v with
    | text s =>
      cases hpassword
      rfl
    | null | bool | number | array | object => cases hpassword

end Account

namespace Office

variable {m : Type}

/-- The rows of the accounts. -/
def accounts (o : Office m) : List Record := o.store.document.table Accounts.table

/-! ## Looking accounts up -/

theorem findActive_ends (o : Office m) [Medium m] (id : String) :
    Ends (Accounts.findActive id) o
      (fun found _ => ∀ u ∈ found, ∃ row ∈ o.accounts,
        Account.isNamed id row = true ∧ Account.idOf? row = some u.id)
      fun _ _ => True := by
  simp only [Accounts.findActive_eq, Accounts.find, ends_bind, ends_selectFirst, ends_pure,
    Select.rows_matching]
  split
  · next row first =>
    have passed := List.mem_filter.mp (List.mem_of_mem_head? (Option.mem_def.mpr first))
    have named : Account.isNamed id row = true := (Bool.and_eq_true_iff.mp passed.2).1
    split
    · next a read =>
      rintro u ⟨⟩
      exact ⟨row, passed.1, named, (Account.reads_of_ofRecord? read).1⟩
    · trivial
  · rintro u ⟨⟩

/-- The accounts that are found by an id get the password, and no other rows are changed. -/
theorem updateRow_setPassword (now : Instant) (id hashed : String) (row : Record) :
    Change.updateRow now (Accounts.setPassword id hashed) row =
      if Account.isNamed id row then row.insert "password" (.text hashed) else row := by
  change (if (Account.isNamed id row && true) = true then _ else _) = _
  rw [Bool.and_true]
  rfl

theorem hash_ends (o : Office m) (cost : Nat) (password : String) :
    Ends (Accounts.hash cost password) o
      (fun text o' => o'.store = o.store ∧ o'.now = o.now ∧
        ∃ h, Password.Hash.make? cost (o.supply.salt o.supply.saltsTaken) password = some h ∧
          text = h.text)
      fun _ _ => True := by
  simp only [Accounts.hash, ends_bind, ends_freshSalt]
  split
  · next h made => exact ends_pure.mpr ⟨rfl, rfl, h, made, rfl⟩
  · exact ends_throw.mpr trivial

theorem passwordMatches_ends (o : Office m) (a : Account) (password : String) :
    Ends (Accounts.passwordMatches a password) o
      (fun right o' => o' = o ∧ (right = true →
        ∃ stored, a.password = some stored ∧ Password.Hash.verify? stored password = some true))
      fun _ _ => True := by
  unfold Accounts.passwordMatches
  split
  · exact ends_pure.mpr ⟨rfl, fun right => nomatch right⟩
  · next stored given =>
    split
    · next right verified => exact ends_pure.mpr ⟨rfl, fun yes => ⟨stored, given, yes ▸ verified⟩⟩
    · exact ends_throw.mpr trivial

variable [Medium m]

/-- The password is held against the first account that is found, and all that are found get the
    new one. -/
theorem changePassword_ends (o : Office m) (cost : Nat) (caller : Caller)
    (current new : String) :
    Ends (Accounts.changePassword cost caller current new) o
      (fun _ o' => ∃ row stored hashed,
        o.accounts.find? (Account.isNamed caller.id) = some row ∧
        row.get? "password" = some (.text stored) ∧
        Password.Hash.verify? stored current = some true ∧
        Password.Hash.make? cost (o.supply.salt o.supply.saltsTaken) new = some hashed ∧
        o'.store.document = (Change.update (Accounts.setPassword caller.id hashed.text)).apply o.now
          o.store.document)
      fun _ _ => True := by
  have lookup : (o.accounts.filter (Test.allHold (Condition.bindAll o.now none []
      [.is "id" (.text caller.id)]).1)) = o.accounts.filter (Account.isNamed caller.id) :=
    List.filter_congr fun row _ => Bool.and_true _
  unfold Accounts.changePassword
  dsimp only
  split
  · exact ends_bind.mpr (ends_throw.mpr trivial)
  · simp only [Accounts.find, ends_bind, ends_storage, ends_selectFirst, Select.rows_matching]
    split
    · next row first =>
      have found : o.accounts.find? (Account.isNamed caller.id) = some row := by
        rw [← List.head?_filter, ← lookup]
        exact first
      split
      · next a read =>
        refine (passwordMatches_ends o a current).mono ?_ fun _ _ => id
        rintro right _ ⟨rfl, checked⟩
        split
        · next yes =>
          obtain ⟨stored, given, verified⟩ := checked yes
          refine ends_bind.mpr (ends_storage.mpr ?_)
          refine (hash_ends _ cost new).mono ?_ fun _ _ => id
          rintro _ o' ⟨store, now, hashed, made, rfl⟩
          refine ends_bind.mpr (ends_storage.mpr (Ends.mono (Performs.update
            (Accounts.setPassword caller.id hashed.text)) ?_ fun _ _ _ => trivial))
          rintro changes o'' ⟨-, reached⟩
          refine ends_pure.mpr ⟨row, stored, hashed, found,
            (Account.reads_of_ofRecord? read).2 stored given, verified, made, ?_⟩
          rw [reached.document, store, now]
          rfl
        · exact ends_throw.mpr trivial
      · trivial
    · exact ends_throw.mpr trivial

/-! ## One account -/

/-- Where the ids that are told are distinct and an id is no other spelling of one, its own account
    is the only one that is found by it. -/
theorem exists_of_find? {rows : List Record} {id : String} {row : Record}
    (own : ∀ row ∈ rows, ¬ Account.Respells id row)
    (distinct : (rows.filterMap Account.idOf?).Nodup)
    (found : rows.find? (Account.isNamed id) = some row) :
    ∃ before after, rows = before ++ row :: after ∧ Account.idOf? row = some id ∧
      ∀ other ∈ before ++ after,
        Account.idOf? other ≠ some id ∧ Account.isNamed id other = false := by
  obtain ⟨named, before, after, rfl, -⟩ := List.find?_eq_some_iff_append.mp found
  have told : Account.idOf? row = some id :=
    (Account.idOf?_of_isNamed named).resolve_right (own row (by simp))
  refine ⟨before, after, rfl, told, fun other mem => ?_⟩
  rw [List.filterMap_append, List.filterMap_cons_some told, List.nodup_middle,
    ← List.filterMap_append] at distinct
  have apart : Account.idOf? other ≠ some id := fun same =>
    (List.nodup_cons.mp distinct).1 (List.mem_filterMap.mpr ⟨other, mem, same⟩)
  refine ⟨apart, Bool.eq_false_iff.mpr fun named => ?_⟩
  refine (Account.idOf?_of_isNamed named).elim apart (own other ?_)
  exact List.mem_append.mpr ((List.mem_append.mp mem).imp_right (List.mem_cons_of_mem row))

theorem map_setPassword {before after : List Record} {id : String} {row : Record}
    (named : Account.isNamed id row = true)
    (others : ∀ other ∈ before ++ after, Account.isNamed id other = false) (now : Instant)
    (hashed : String) :
    (before ++ row :: after).map (Change.updateRow now (Accounts.setPassword id hashed)) =
      before ++ row.insert "password" (.text hashed) :: after := by
  have kept {rows : List Record} (within : rows ⊆ before ++ after) :
      rows.map (Change.updateRow now (Accounts.setPassword id hashed)) = rows := by
    refine (List.map_congr_left fun other mem => ?_).trans (List.map_id rows)
    rw [updateRow_setPassword, others other (within mem)]
    rfl
  rw [List.map_append, List.map_cons, kept (List.subset_append_left before after),
    kept (List.subset_append_right before after), updateRow_setPassword, if_pos named]

/-- An account that is found by an id is told to have the id, unless the id is another spelling of
    the number that it is stored under. Where the ids that are told are distinct and an id is no
    such spelling, its password is held against that of its own account, which gets the new one
    while all other rows stay as they are. -/
theorem an_id_is_one_account (o : Office m) (id : String) :
    (∀ u o', (Accounts.findActive id).run.run o = (.ok (some u), o') →
      ∃ row ∈ o.accounts, Account.idOf? row = some u.id ∧
        (u.id = id ∨ Account.Respells id row)) ∧
    ((∀ row ∈ o.accounts, ¬ Account.Respells id row) →
      (o.accounts.filterMap Account.idOf?).Nodup →
      ∀ cost caller current new o', caller.id = id →
        (Accounts.changePassword cost caller current new).run.run o = (.ok (), o') →
        ∃ before row after stored hashed, o.accounts = before ++ row :: after ∧
          Account.idOf? row = some id ∧
          (∀ other ∈ before ++ after, Account.idOf? other ≠ some id) ∧
          row.get? "password" = some (.text stored) ∧
          Password.Hash.verify? stored current = some true ∧
          Password.Hash.make? cost (o.supply.salt o.supply.saltsTaken) new = some hashed ∧
          o'.accounts = before ++ row.insert "password" (.text hashed.text) :: after ∧
          ∀ t ≠ Accounts.table, o'.store.document.table t = o.store.document.table t) := by
  constructor
  · intro u o' run
    obtain ⟨row, mem, named, told⟩ := (findActive_ends o id).of_ok run u rfl
    refine ⟨row, mem, told, (Account.idOf?_of_isNamed named).imp_left fun same => ?_⟩
    exact Option.some.inj (told.symm.trans same)
  · rintro own distinct cost caller current new o' rfl run
    obtain ⟨row, stored, hashed, found, password, verified, made, document⟩ :=
      (changePassword_ends o cost caller current new).of_ok run
    obtain ⟨before, after, split, told, others⟩ := exists_of_find? own distinct found
    refine ⟨before, row, after, stored, hashed, split, told, fun other mem => (others other mem).1,
      password, verified, made, ?_, ?_⟩
    · have accounts : o'.accounts =
          o.accounts.map (Change.updateRow o.now (Accounts.setPassword caller.id hashed.text)) := by
        rw [Office.accounts, document, Change.table_update]
        exact if_pos rfl
      rw [accounts, split]
      exact map_setPassword (List.find?_some found) (fun other mem => (others other mem).2) _ _
    · intro t other
      rw [document, Change.table_update]
      exact if_neg other

/-! ## Two accounts -/

/-- An account whose id is stored as an integer. -/
def numberedAccount : Record :=
  ⟨[("active", .int 1), ("email", .text "bob@example.org"), ("id", .int 1)], by
    simp only [Entries.Ordered, List.map_cons, List.map_nil]
    decide⟩

/-- An account whose id is stored as a text. -/
def letteredAccount (password : String) : Record :=
  ⟨[("active", .bool true), ("email", .text "ada@example.org"), ("id", .text "u2"),
    ("password", .text password)], by
    simp only [Entries.Ordered, List.map_cons, List.map_nil]
    decide⟩

def twoAccounts (password : String) : Document :=
  ⟨.empty, ⟨[("users", [numberedAccount, letteredAccount password])], by simp [Entries.Ordered]⟩⟩

theorem idOf?_numberedAccount : Account.idOf? numberedAccount = some "1" := by decide +kernel

theorem idOf?_twoAccounts (stored : String) :
    ((twoAccounts stored).table Accounts.table).filterMap Account.idOf? = ["1", "u2"] := by
  change [numberedAccount, letteredAccount stored].filterMap Account.idOf? = _
  rw [List.filterMap_cons_some idOf?_numberedAccount]
  rfl

theorem changePassword_twoAccounts {stored : String}
    (verified : Password.Hash.verify? stored "old" = some true) :
    Ends (Accounts.changePassword 4 ⟨"u2", "Ada", "ada@example.org", "user"⟩ "old" "new")
      (inMemory.withStore (twoAccounts stored) inMemory.store.medium)
      (fun _ _ => True) fun _ _ => False := by
  have account : Account.ofRecord? (letteredAccount stored) =
      some ⟨"u2", "ada@example.org", some stored, "", "", true, none⟩ := rfl
  have right : Ends (Accounts.passwordMatches
      ⟨"u2", "ada@example.org", some stored, "", "", true, none⟩ "old")
      (inMemory.withStore (twoAccounts stored) inMemory.store.medium)
      (fun right o' => right = true ∧
        o' = inMemory.withStore (twoAccounts stored) inMemory.store.medium)
      fun _ _ => False := by
    simp only [Accounts.passwordMatches, verified]
    exact ends_pure.mpr ⟨rfl, rfl⟩
  unfold Accounts.changePassword
  dsimp only
  split
  · next empty => simp at empty
  · simp only [Accounts.find, ends_bind, ends_storage, ends_selectFirst, Select.rows_matching]
    split
    · next row first =>
      obtain rfl : letteredAccount stored = row := Option.some.inj first
      rw [account]
      refine right.mono ?_ fun _ _ => id
      rintro _ _ ⟨rfl, rfl⟩
      simp only [if_true, Accounts.hash, ends_bind, ends_storage, ends_freshSalt]
      split
      · simp only [ends_pure, Office.update, ends_bind]
        exact Ends.commit_of_save (fun _ _ => trivial) fun e medium failed => by cases failed
      · next none => cases none
    · next none => cases none

/-- The second account gets a new password, and the first one still has none. -/
theorem password_of_one_of_two_accounts : ∃ stored hashed o',
    (∀ row ∈ (inMemory.withStore (twoAccounts stored) inMemory.store.medium).accounts,
      ¬ Account.Respells "u2" row) ∧
    ((inMemory.withStore (twoAccounts stored) inMemory.store.medium).accounts.filterMap
      Account.idOf?).Nodup ∧
    (Accounts.changePassword 4 ⟨"u2", "Ada", "ada@example.org", "user"⟩ "old" "new").run.run
      (inMemory.withStore (twoAccounts stored) inMemory.store.medium) = (.ok (), o') ∧
    o'.accounts =
      [numberedAccount, (letteredAccount stored).insert "password" (.text hashed)] := by
  obtain ⟨stored, verified⟩ : ∃ stored, Password.Hash.verify? stored "old" = some true :=
    ⟨_, Password.Hash.verify?_make?
      (if_pos rfl : Password.Hash.make? 4 (Vector.replicate 16 0) "old" = some _)⟩
  have own : ∀ row ∈ (inMemory.withStore (twoAccounts stored) inMemory.store.medium).accounts,
      ¬ Account.Respells "u2" row := by
    have numbered : ¬ Account.Respells "u2" numberedAccount := by
      rintro ⟨⟨n, found, reads⟩, -⟩
      cases found
      revert reads
      decide +kernel
    have lettered : ¬ Account.Respells "u2" (letteredAccount stored) := fun h => h.2 rfl
    exact List.forall_mem_cons.mpr ⟨numbered, List.forall_mem_singleton.mpr lettered⟩
  have distinct : ((inMemory.withStore (twoAccounts stored)
      inMemory.store.medium).accounts.filterMap Account.idOf?).Nodup := by
    have told : (inMemory.withStore (twoAccounts stored)
        inMemory.store.medium).accounts.filterMap Account.idOf? = ["1", "u2"] :=
      idOf?_twoAccounts stored
    rw [told]
    decide
  obtain ⟨⟨⟩, o', run, -⟩ := (changePassword_twoAccounts verified).exists_ok
  obtain ⟨before, row, after, _, hashed, split, told, -, -, -, -, changed, -⟩ :=
    (an_id_is_one_account _ "u2").2 own distinct 4 ⟨"u2", "Ada", "ada@example.org", "user"⟩
      "old" "new" o' rfl run
  refine ⟨stored, hashed.text, o', own, distinct, run, ?_⟩
  have split : [numberedAccount, letteredAccount stored] = before ++ row :: after := split
  -- The first account has another id.
  cases before with
  | nil =>
    obtain ⟨rfl, -⟩ := List.cons.inj split
    exact absurd (idOf?_numberedAccount.symm.trans told) (by decide)
  | cons first before =>
    obtain ⟨rfl, rest⟩ := List.cons.inj split
    obtain ⟨rfl, rfl, rfl⟩ : before = [] ∧ row = letteredAccount stored ∧ after = [] := by
      simpa [List.cons_eq_append_iff] using rest
    exact changed

/-- An account is found by another spelling of the number that it is stored under. -/
theorem account_found_by_respelled_id :
    ((inMemory.withStore (twoAccounts "") inMemory.store.medium).accounts.filterMap
      Account.idOf?).Nodup ∧
    ∃ u o', (Accounts.findActive "1.0").run.run
      (inMemory.withStore (twoAccounts "") inMemory.store.medium) = (.ok (some u), o') ∧
      u.id ≠ "1.0" := by
  constructor
  · have told : (inMemory.withStore (twoAccounts "")
        inMemory.store.medium).accounts.filterMap Account.idOf? = ["1", "u2"] :=
      idOf?_twoAccounts ""
    rw [told]
    decide
  · have other : ((Accounts.findActive "1.0").run.run
        (inMemory.withStore (twoAccounts "") inMemory.store.medium)).1.toOption.any
        (·.any (·.id ≠ "1.0")) = true := by decide +kernel
    obtain ⟨found, o', run, other⟩ := exists_of_ok other
    cases found with
    | none => cases other
    | some u => exact ⟨u, o', run, of_decide_eq_true other⟩

end Office

end OfferBook
