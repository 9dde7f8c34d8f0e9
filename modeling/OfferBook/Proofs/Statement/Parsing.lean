import OfferBook.Proofs.Statement.Layout
import OfferBook.Proofs.Statement.Sound

/-! # Texts and the statements they write

* `Statement.parse?_eq_some_of_laid` — every text in which a statement is spelled, however its
  words are laid out, is read as that statement.
* `Statement.laid_of_parse?` — nothing in a text that is read as a statement is passed over.
* `Statement.spelled_counted_iff` — of what the grammar asks for, the readers leave out one thing:
  after `LIMIT` and `OFFSET` they take any value.
-/

namespace OfferBook

/-! ## Counts -/

namespace Operand

/-- A placeholder or a number. -/
def IsCount : Operand → Prop
  | .placeholder | .literal (.int _) | .literal (.double _) => True
  | _ => False

variable {o : Operand} {us : List Token}

theorem isCount_of_numberValue? {digits : String} {v : Json}
    (h : Token.numberValue? digits = some v) : (literal v).IsCount := by
  unfold Token.numberValue? at h
  split at h
  · obtain rfl := Option.some.inj h
    trivial
  · obtain ⟨d, -, rfl⟩ := Option.map_eq_some_iff.mp h
    trivial

theorem counted_iff : o.Counted us ↔ o.Spelled us ∧ o.IsCount := by
  constructor
  · intro h
    refine ⟨h.spelled, ?_⟩
    cases h with
    | placeholder => trivial
    | number h => exact isCount_of_numberValue? h
  · rintro ⟨h, count⟩
    cases h with
    | placeholder => exact .placeholder
    | integer h fits => exact .number (Token.numberValue?_of_numeral h fits)
    | number h => exact .number h
    | text | null | trueWord | falseWord | now => exact count.elim

end Operand

theorem clause_counted_iff {k : Keyword} {o : Option Operand} {us : List Token} :
    Clause k Operand.Counted o us ↔ Clause k Operand.Spelled o us ∧ ∀ v ∈ o, v.IsCount := by
  constructor
  · intro h
    cases h with
    | absent => exact ⟨.absent, nofun⟩
    | present ht h =>
      obtain ⟨spelled, count⟩ := Operand.counted_iff.mp h
      exact ⟨.present ht spelled, fun v hv => Option.some.inj hv ▸ count⟩
  · rintro ⟨h, count⟩
    cases h with
    | absent => exact .absent
    | present ht h => exact .present ht (Operand.counted_iff.mpr ⟨h, count _ rfl⟩)

theorem bounds_counted_iff {w : Operand × Option Operand} {us : List Token} :
    Bounds Operand.Counted w us ↔
      Bounds Operand.Spelled w us ∧ w.1.IsCount ∧ ∀ v ∈ w.2, v.IsCount := by
  constructor
  · rintro ⟨limit, skipped⟩
    obtain ⟨spelled, count⟩ := Operand.counted_iff.mp limit
    obtain ⟨skipped, counts⟩ := clause_counted_iff.mp skipped
    exact ⟨.mk spelled skipped, count, counts⟩
  · rintro ⟨⟨limit, skipped⟩, count, counts⟩
    exact .mk (Operand.counted_iff.mpr ⟨limit, count⟩) (clause_counted_iff.mpr ⟨skipped, counts⟩)

namespace Statement

/-- The values after `LIMIT` and `OFFSET`. -/
def bounds : Statement → List Operand
  | .select s => s.limit.toList ++ s.offset.toList
  | .insert _ | .update _ | .delete _ => []

variable {s : Statement} {sql : String} {ts : List Token}

theorem select_counted_iff {s : Select} {us : List Token} :
    s.Spelled Operand.Counted us ↔
      s.Spelled Operand.Spelled us ∧ ∀ o ∈ (Statement.select s).bounds, o.IsCount := by
  constructor
  · rintro ⟨projected, hf, named, second, joined, tested, ordered, limited⟩
    cases limited with
    | absent => exact ⟨.mk projected hf named second joined tested ordered .absent, nofun⟩
    | present ht window =>
      obtain ⟨spelled, limit, offset⟩ := bounds_counted_iff.mp window
      refine ⟨.mk projected hf named second joined tested ordered (.present ht spelled), ?_⟩
      rintro o ho
      rcases List.mem_append.mp ho with ho | ho
      · exact List.mem_singleton.mp ho ▸ limit
      · exact offset o (Option.mem_toList.mp ho)
  · rintro ⟨⟨projected, hf, named, second, joined, tested, ordered, limited⟩, counts⟩
    refine .mk projected hf named second joined tested ordered ?_
    cases limited with
    | absent => exact .absent
    | present ht window =>
      exact .present ht (bounds_counted_iff.mpr ⟨window,
        counts _ (List.mem_append_left _ List.mem_cons_self),
        fun o ho => counts o (List.mem_append_right _ (Option.mem_toList.mpr ho))⟩)

theorem spelled_counted_iff :
    s.Spelled Operand.Counted ts ↔ s.Spelled Operand.Spelled ts ∧ ∀ o ∈ s.bounds, o.IsCount := by
  constructor
  · intro h
    cases h with
    | insert ht h => exact ⟨.insert ht h, nofun⟩
    | select ht h =>
      obtain ⟨spelled, counts⟩ := select_counted_iff.mp h
      exact ⟨.select ht spelled, counts⟩
    | update ht h => exact ⟨.update ht h, nofun⟩
    | delete ht h => exact ⟨.delete ht h, nofun⟩
  · rintro ⟨h, counts⟩
    cases h with
    | insert ht h => exact .insert ht h
    | select ht h => exact .select ht (select_counted_iff.mpr ⟨h, counts⟩)
    | update ht h => exact .update ht h
    | delete ht h => exact .delete ht h

/-! ## Texts -/

theorem parse?_eq_some_iff :
    parse? sql = some s ↔ ∃ ts, Token.scan sql = some ts ∧ s.Spelled Operand.Spelled ts := by
  constructor
  · intro h
    unfold parse? at h
    split at h
    · next s' found =>
      obtain rfl := Option.some.inj h
      obtain ⟨ts, scanned, read⟩ := Option.bind_eq_some_iff.mp found
      obtain ⟨us, spelled, rfl⟩ := Token.statement?_isSound read
      rw [List.append_nil] at scanned
      exact ⟨us, scanned, spelled⟩
    · exact absurd h nofun
  · rintro ⟨ts, scanned, spelled⟩
    rw [parse?, scanned, Option.bind_some, Token.statement?_of_spelled spelled]

/-- A text whose characters are at hand is read from these. -/
theorem parse?_ofList {cs : List Char}
    (read : (Token.scanChars cs).bind Token.statement? = some (s, [])) :
    parse? (String.ofList cs) = some s := by
  rw [parse?, Token.scan, String.toList_ofList, read]

/-- Every text in which a statement is spelled is read as that statement. Keywords may have any
    case, blanks may stand between any two tokens, and must stand between two words or numbers;
    texts may have either kind of quotes, and a semicolon may end the whole. -/
theorem parse?_eq_some_of_laid (spelled : s.Spelled Operand.Spelled ts)
    (laid : Token.Laid Token.BothLong ts sql.toList) : parse? sql = some s :=
  parse?_eq_some_iff.mpr
    ⟨ts, Token.scanChars_of_laid laid spelled.shows.apart spelled.shows.plain, spelled⟩

/-- Keywords in any case, blanks of several kinds, a doubled quote, a numeral with a zero in front,
    and a semicolon. -/
theorem parse?_deletion_in_one_line :
    parse? "delete From t\twhere n='it''s; \"so\"' AND t.m=-05 ;" =
      some (.delete ⟨"t", [.equals (.bare "n") (.literal (.text "it's; \"so\"")),
        .equals ⟨some "t", "m"⟩ (.literal (.int (-5)))]⟩) := by
  have word {k : Keyword} {w : String} (h : k.isWord w) : k.Spells (.word w) := ⟨w, rfl, h⟩
  have limit : Operand.Spelled (.literal (.int (-5))) [.number "-05"] :=
    .integer (@Numeral.minus ['0', '5'] (by decide) (by decide)) (by decide)
  have first : Condition.Spelled (.equals (.bare "n") (.literal (.text "it's; \"so\"")))
      [.word "n", .equal, .text "it's; \"so\""] := .equals (.bare (by decide)) (.text _)
  have second : Condition.Spelled (.equals ⟨some "t", "m"⟩ (.literal (.int (-5))))
      [.word "t", .dot, .word "m", .equal, .number "-05"] :=
    .equals (.qualified (by decide) (by decide)) limit
  have both : Keyword.and.Spells (.word "AND") := word (by decide)
  have spelled : Statement.Spelled Operand.Spelled _
      [.word "delete", .word "From", .word "t", .word "where", .word "n", .equal,
        .text "it's; \"so\"", .word "AND", .word "t", .dot, .word "m", .equal, .number "-05"] :=
    .delete (word (by decide)) (.mk (word (by decide)) (by decide) (word (by decide))
      (.more first both (.one second)))
  have gap (c : Char) {r : List Char} (h : Text.isBlank c) :
      ∃ b ∈ (c :: r).head?, Text.isBlank b := ⟨c, rfl, h⟩
  refine parse?_eq_some_of_laid spelled ?_
  exact
    .token (g := []) rfl (.word (by decide) (by decide)) (fun _ _ _ => gap ' ' rfl) <|
    .token (g := [' ']) rfl (.word (by decide) (by decide)) (fun _ _ _ => gap ' ' rfl) <|
    .token (g := [' ']) rfl (.word (by decide) (by decide)) (fun _ _ _ => gap '\t' rfl) <|
    .token (g := ['\t']) rfl (.word (by decide) (by decide)) (fun _ _ _ => gap ' ' rfl) <|
    .token (g := [' ']) rfl (.word (by decide) (by decide)) nofun <|
    .token (g := []) rfl (.sign '=') nofun <|
    .token (g := []) rfl (.text "it's; \"so\"".toList (.inl rfl)) nofun <|
    .token (g := [' ']) rfl (.word (by decide) (by decide)) (fun _ _ _ => gap ' ' rfl) <|
    .token (g := [' ']) rfl (.word (by decide) (by decide)) nofun <|
    .token (g := []) rfl (.sign '.') nofun <|
    .token (g := []) rfl (.word (by decide) (by decide)) nofun <|
    .token (g := []) rfl (.sign '=') nofun <|
    .token (g := []) rfl (.number rfl rfl) nofun <|
    .semicolon (g := [' ']) rfl rfl

/-- Nothing in a text that is read as a statement is passed over: all its tokens spell the
    statement. Each placeholder among them is one value of the statement, in the same order. All
    names are words of the text and no keywords, no list is empty, and what changes or deletes
    rows has a condition. Where a window is given by placeholders and numbers, and only there,
    it is spelled as one. -/
theorem laid_of_parse? (h : parse? sql = some s) :
    ∃ ts, Token.scan sql = some ts ∧ Token.Laid (fun _ _ => False) ts sql.toList ∧
      s.Spelled Operand.Spelled ts ∧
      (s.Spelled Operand.Counted ts ↔ ∀ o ∈ s.bounds, o.IsCount) ∧
      Token.Carries s.operands ts ∧
      ts.count .placeholder = s.operands.count .placeholder ∧
      (∀ n ∈ s.names, IsName n ∧ .word n ∈ ts) ∧ s.IsFilled := by
  obtain ⟨ts, scanned, spelled⟩ := parse?_eq_some_iff.mp h
  have shows := spelled.shows
  exact ⟨ts, scanned, Token.laid_of_scanChars scanned, spelled,
    ⟨fun counted => (spelled_counted_iff.mp counted).2,
      fun counts => spelled_counted_iff.mpr ⟨spelled, counts⟩⟩,
    shows.carries, shows.carries.count, shows.named, spelled.isFilled⟩

/-- Two placeholders of a text, each a value of the statement. -/
theorem laid_of_parse?_with_window :
    ∃ s ts, parse? "select x.* from t where n = ? limit 2 offset ?;" = some s ∧
      Token.scan "select x.* from t where n = ? limit 2 offset ?;" = some ts ∧
      s.Spelled Operand.Counted ts ∧ ts.count .placeholder = 2 := by
  let s : Select :=
    { projection := [.allOf "x"], table := "t", shortName := none, join := none
      conditions := [.equals (.bare "n") .placeholder], orderBy := none
      limit := some (.literal (.int 2)), offset := some .placeholder }
  have read : parse? "select x.* from t where n = ? limit 2 offset ?;" = some (.select s) := by
    decide +kernel
  obtain ⟨ts, scanned, -, -, counted, -, count, -, -⟩ := laid_of_parse? read
  have counts : ∀ o ∈ (Statement.select s).bounds, o.IsCount := by
    rintro o ho
    obtain rfl | rfl : o = .literal (.int 2) ∨ o = .placeholder := by
      simpa [bounds, s] using ho
    · trivial
    · trivial
  exact ⟨.select s, ts, read, scanned, counted.mpr counts, count⟩

/-- A text is accepted as the number of rows, though no window is spelled with one. -/
theorem parse?_text_after_limit :
    ∃ ts, Token.scan "SELECT * FROM t LIMIT 'x'" = some ts ∧
      (parse? "SELECT * FROM t LIMIT 'x'").isSome ∧
      ∀ s : Statement, ¬ s.Spelled Operand.Counted ts := by
  let s : Statement := .select
    { projection := [.all], table := "t", shortName := none, join := none, conditions := []
      orderBy := none, limit := some (.literal (.text "x")), offset := none }
  have read : parse? "SELECT * FROM t LIMIT 'x'" = some s := by decide +kernel
  obtain ⟨ts, scanned, spelled⟩ := parse?_eq_some_iff.mp read
  refine ⟨ts, scanned, by rw [read]; rfl, fun s' counted => ?_⟩
  -- The tokens spell no other statement, and this one has a text for its window.
  have same := (Token.statement?_of_spelled spelled).symm.trans
    (Token.statement?_of_spelled (spelled_counted_iff.mp counted).1)
  obtain rfl : s = s' := congrArg Prod.fst (Option.some.inj same)
  exact (spelled_counted_iff.mp counted).2 (.literal (.text "x")) List.mem_cons_self

end Statement

end OfferBook
