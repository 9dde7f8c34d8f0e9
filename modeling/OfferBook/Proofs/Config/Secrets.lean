import OfferBook.Config.Settings
import OfferBook.Proofs.Config.Spelling
import OfferBook.Proofs.Gate.Waiting

/-! # The admin password of the environment

* `Settings.ofFields?_insert` — the password is a setting of its own.
* `Settings.load?_given` — what a variable does to the settings of a file.
* `Secret.ofSetting_eq_plain_iff`, `Gate.verify_eq_ok_iff` — which text becomes the password, and
  which password lets in.
* `Settings.password_is_taken_literally` — a password in the environment is taken as it is
  spelled, unless something of its spelling is lost.
-/

namespace OfferBook

/-! ## Secrets -/

theorem Secret.ofSetting_eq_plain_iff {value : Option String} {t : String} (filled : t ≠ "")
    (noHash : t.startsWith "$2" = false) :
    Secret.ofSetting value = .plain t ↔ value.map Text.trim = some t := by
  unfold Secret.ofSetting
  constructor
  · intro plain
    split at plain
    · next v found =>
      split at plain
      · cases plain
      · rw [(Option.filter_eq_some_iff.mp found).1, Secret.plain.inj plain]
    · cases plain
  · intro same
    rw [same, Option.filter_some, if_pos (by simpa using filled)]
    dsimp only
    rw [noHash]
    rfl

theorem Gate.verify_eq_ok_iff {g : Gate} {user password : String} {now : Moment} {t : String}
    (secret : g.secret = .plain t) (filled : t ≠ "")
    (free : (g.current user now).failed < maxAttempts) :
    (g.verify user password now).1 = .ok () ↔ password = t := by
  constructor
  · intro entered
    unfold verify at entered
    simp only [Nat.not_le.mpr free, if_false, setAttempts, secret, Secret.check] at entered
    by_contra wrong
    have checked : decide (t = password) = false := decide_eq_false (Ne.symm wrong)
    rw [checked] at entered
    split at entered <;> cases entered
  · rintro rfl
    exact verify_of_right free filled (by simp [secret, Secret.check])

/-! ## Settings -/

namespace Settings

variable {fields : List (String × ConfigValue)} {environment : List (String × String)}
  {w : String}

theorem setting_congr {α : Type} {default : α} {name : String} {read : ConfigValue → Option α}
    {fields fields' : List (String × ConfigValue)}
    (same : Entries.lookup name fields = Entries.lookup name fields') :
    setting default name read fields = setting default name read fields' := by
  unfold setting
  rw [same]

/-- The password does not decide whether settings are read, nor about any other of them. -/
theorem ofFields?_insert (v : ConfigValue) (fields : List (String × ConfigValue)) :
    ofFields? (Entries.insert passwordKey v fields) =
      (ofFields? fields).map ({ · with adminPassword := Lenient.text v.toJson }) := by
  have others {α : Type} {default : α} {name : String} {read : ConfigValue → Option α}
      (other : name ≠ passwordKey) :
      setting default name read (Entries.insert passwordKey v fields) =
        setting default name read fields :=
    setting_congr (Entries.lookup_insert_of_ne other v fields)
  have own : setting standard.adminPassword passwordKey password?
      (Entries.insert passwordKey v fields) = some (Lenient.text v.toJson) := by
    rw [setting, Entries.lookup_insert_self]
    rfl
  obtain ⟨before, read⟩ : ∃ p, setting standard.adminPassword passwordKey password? fields =
      some p := by
    unfold setting
    split
    · exact ⟨_, rfl⟩
    · exact ⟨_, rfl⟩
  unfold ofFields?
  rw [own, read]
  simp only [others (show "data_dir" ≠ passwordKey by decide),
    others (show "backend" ≠ passwordKey by decide),
    others (show "file_name" ≠ passwordKey by decide),
    others (show "offer_prefix" ≠ passwordKey by decide),
    others (show "seed_admin" ≠ passwordKey by decide),
    others (show "letterhead" ≠ passwordKey by decide),
    others (show "bcrypt_cost" ≠ passwordKey by decide), Option.map_bind, Option.map_some,
    Option.bind_eq_bind, Option.bind_some, Function.comp_def]

theorem exists_table_of_read? {text : String} {v : ConfigValue} (h : Toml.read? text = some v) :
    ∃ fields, v = .table fields := by
  unfold Toml.read? at h
  simp only [Option.bind_eq_bind, Option.bind_eq_some_iff, Option.some.injEq] at h
  obtain ⟨-, -, -, -, fields, -, rfl⟩ := h
  exact ⟨_, rfl⟩

/-- The only variable of a password is laid over the password of the file. -/
theorem overlayEnvironment_given (given : readVariable? environment "CALC_ADMIN_PASSWORD" = some w)
    (alone : readVariable? environment "CALC_ADMIN_PASSWORD_HASH" = none) (below : ConfigValue) :
    overlayEnvironment environment below =
      below.overlay (.table [(passwordKey, Variable.value w)]) := by
  simp only [overlayEnvironment, passwordVariables, List.foldl_cons, List.foldl_nil,
    overlayPassword, given, alone]

/-- A variable with a password changes nothing but the password. What it says hides what a file
    says, unless both say a table. -/
theorem load?_given (given : readVariable? environment "CALC_ADMIN_PASSWORD" = some w)
    (alone : readVariable? environment "CALC_ADMIN_PASSWORD_HASH" = none) (file : Option String) :
    ∃ password, load? file environment =
        (load? file []).map ({ · with adminPassword := password }) ∧
      ((∀ fields, Variable.value w ≠ .table fields) →
        password = Lenient.text (Variable.value w).toJson) := by
  have laid (fields : List (String × ConfigValue)) :
      ∃ password, ofValue? (overlayEnvironment environment (.table fields)) =
          (ofValue? (.table fields)).map ({ · with adminPassword := password }) ∧
        ((∀ fields, Variable.value w ≠ .table fields) →
          password = Lenient.text (Variable.value w).toJson) := by
    rw [overlayEnvironment_given given alone, ConfigValue.overlay_table,
      ConfigValue.overlayFields, ConfigValue.overlayFields]
    refine ⟨_, ofFields?_insert _ _, fun noTable => ?_⟩
    cases Entries.lookup passwordKey fields with
    | none => rfl
    | some below =>
      dsimp only
      rw [ConfigValue.overlay]
      exact noTable
  cases file with
  | none => exact laid []
  | some text =>
    cases read : Toml.read? text with
    | none => exact ⟨_, by simp [load?, read], fun _ => rfl⟩
    | some below =>
      obtain ⟨fields, rfl⟩ := exists_table_of_read? read
      obtain ⟨password, same, own⟩ := laid fields
      refine ⟨password, ?_, own⟩
      simp only [load?, read, Option.bind_eq_bind, Option.bind_some]
      exact same

/-- The only variable with a password is set, to a text that is not blank and does not begin as a
    hash does. Of any settings file the other settings stay as they are, and where it can be read
    the settings are. Unless something of its spelling is lost, the text without blanks around it
    is the password, and the only one that lets a user in who is not locked out. In a spelling of
    which something is lost, other than that of a table, it is not the password. -/
theorem password_is_taken_literally
    (given : readVariable? environment "CALC_ADMIN_PASSWORD" = some w)
    (alone : readVariable? environment "CALC_ADMIN_PASSWORD_HASH" = none)
    (filled : Text.trim w ≠ "") (noHash : (Text.trim w).startsWith "$2" = false)
    (file : Option String) :
    (∃ password, load? file environment =
      (load? file []).map ({ · with adminPassword := password })) ∧
    ∀ s, load? file environment = some s →
      (Variable.IsVerbatim w → s.adminSecret = .plain (Text.trim w) ∧
        ∀ (g : Gate) (user password : String) (now : Moment), g.secret = s.adminSecret →
          (g.current user now).failed < Gate.maxAttempts →
          ((g.verify user password now).1 = .ok () ↔ password = Text.trim w)) ∧
      ((∀ fields, Variable.read? w ≠ some (.table fields)) →
        s.adminSecret = .plain (Text.trim w) → Variable.IsVerbatim w) := by
  obtain ⟨password, same, own⟩ := load?_given given alone file
  refine ⟨⟨password, same⟩, fun s loaded => ?_⟩
  obtain ⟨below, -, rfl⟩ := Option.map_eq_some_iff.mp (same.symm.trans loaded)
  -- Tables apart, the secret is what the variable's value is printed as.
  have secret (noTable : ∀ fields, Variable.read? w ≠ some (.table fields)) :
      Secret.ofSetting password = .plain (Text.trim w) ↔ Variable.IsVerbatim w := by
    rw [Secret.ofSetting_eq_plain_iff filled noHash, Variable.isVerbatim_iff noTable,
      own (Variable.value_ne_table noTable)]
    exact Iff.rfl
  refine ⟨fun verbatim => ?_, fun noTable plain => (secret noTable).mp plain⟩
  have plain := (secret (Variable.read?_ne_table verbatim)).mpr verbatim
  exact ⟨plain, fun g user password now guards free =>
    Gate.verify_eq_ok_iff (guards.trans plain) filled free⟩

/-- A word between blanks hides the password of a file, and is the one that lets in. -/
theorem password_is_taken_literally_above_file :
    ∃ s, load? (some "admin_password = 1") [("CALC_ADMIN_PASSWORD", " Geheim! ")] = some s ∧
      s.adminSecret = .plain "Geheim!" ∧
      ((Gate.closed s.adminSecret).verify "1" "Geheim!" 0).1 = .ok () := by
  have facts :
      readVariable? [("CALC_ADMIN_PASSWORD", " Geheim! ")] "CALC_ADMIN_PASSWORD" =
        some " Geheim! " ∧
      readVariable? [("CALC_ADMIN_PASSWORD", " Geheim! ")] "CALC_ADMIN_PASSWORD_HASH" = none ∧
      Text.trim " Geheim! " = "Geheim!" ∧ "Geheim!".startsWith "$2" = false ∧
      (load? (some "admin_password = 1") [("CALC_ADMIN_PASSWORD", " Geheim! ")]).isSome = true ∧
      (Variable.skipSpace " Geheim! ".toList).head? = some 'G' ∧ 'G' ∉ Variable.openers ∧
      (Variable.plain (Text.trimChars " Geheim! ".toList)).isNumber = false := by
    decide +kernel
  obtain ⟨given, alone, trimmed, noHash, readable, head, bare, word⟩ := facts
  have verbatim : Variable.IsVerbatim " Geheim! " := by
    refine Variable.isVerbatim_of_bare (fun c mem => ?_) fun number =>
      absurd (word.symm.trans number) (by decide)
    rwa [← Option.some.inj (head.symm.trans mem)]
  obtain ⟨s, loaded⟩ := Option.isSome_iff_exists.mp readable
  have literal := password_is_taken_literally given alone (by rw [trimmed]; decide)
    (by rw [trimmed]; exact noHash) (some "admin_password = 1")
  rw [trimmed] at literal
  obtain ⟨plain, entering⟩ := (literal.2 s loaded).1 verbatim
  refine ⟨s, loaded, plain, (entering (.closed s.adminSecret) "1" "Geheim!" 0 rfl ?_).mpr rfl⟩
  rw [plain]
  decide +kernel

/-- The zeros of an agent's number are lost, as it is read as an integer. -/
theorem zeros_of_password_are_lost :
    Text.trim "007" = "007" ∧ (Text.trim "007").startsWith "$2" = false ∧
    readVariable? [("CALC_ADMIN_PASSWORD", "007")] "CALC_ADMIN_PASSWORD" = some "007" ∧
    readVariable? [("CALC_ADMIN_PASSWORD", "007")] "CALC_ADMIN_PASSWORD_HASH" = none ∧
    (load? none [("CALC_ADMIN_PASSWORD", "007")]).map adminSecret = some (.plain "7") := by
  decide +kernel

end Settings

end OfferBook
