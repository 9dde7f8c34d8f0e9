import OfferBook.Proofs.Statement.Parsing

/-! # Every statement has a text

* `Statement.IsRegular` — a statement of words, with filled lists and plain literals.
* `Token.isWritable_word_iff` — a word can be written if its characters make one.
* `Rendered` — a part that has a spelling of tokens that can be written.
* `Statement.exists_text` — every regular statement is read from some text.
-/

namespace OfferBook

/-! ## Regular statements -/

namespace Token

/-- Something can be written that is this token. -/
def IsWritable (t : Token) : Prop := ∃ cs, t.Written cs

theorem isWritable_sign (c : Char) : (ofSign c).IsWritable := ⟨[c], .sign c⟩

theorem isWritable_text (s : String) : (text s).IsWritable := by
  have written : Written (text (String.ofList s.toList)) _ := .text s.toList (.inl rfl)
  rw [String.ofList_toList] at written
  exact ⟨_, written⟩

theorem isWritable_datetime : (word "datetime").IsWritable :=
  ⟨"datetime".toList, .word (by decide) (by decide)⟩

theorem isLong_ofSign (c : Char) : (ofSign c).isLong = false := by
  unfold ofSign
  split <;> rfl

/-- A word is written as its characters, of which the first begins a word and the others go on. -/
theorem written_word_iff {n : String} {cs : List Char} : Written (.word n) cs ↔
    cs = n.toList ∧ cs.head?.any startsWord = true ∧ cs.tail.all continuesWord = true := by
  constructor
  · intro h
    generalize same : Token.word n = t at h
    cases h with
    | word first others =>
      exact ⟨by rw [Token.word.inj same, String.toList_ofList], first, others⟩
    | number | text => cases same
    | sign c =>
      have short := isLong_ofSign c
      rw [← same] at short
      exact Bool.noConfusion short
  · rintro ⟨rfl, first, others⟩
    cases spelled : n.toList with
    | nil => simp [spelled] at first
    | cons c cs =>
      rw [spelled] at first others
      rw [← String.ofList_toList (s := n), spelled]
      exact .word first others

theorem isWritable_word_iff {n : String} : (word n).IsWritable ↔
    n.toList.head?.any startsWord = true ∧ n.toList.tail.all continuesWord = true := by
  constructor
  · rintro ⟨cs, written⟩
    obtain ⟨rfl, shaped⟩ := written_word_iff.mp written
    exact shaped
  · exact fun shaped => ⟨n.toList, written_word_iff.mpr ⟨rfl, shaped⟩⟩

/-- An integer has a numeral, which begins like a number and goes on like one. -/
theorem exists_numeral (n : Int) :
    ∃ cs, Numeral n cs ∧ (number (String.ofList cs)).IsWritable := by
  have digits := Text.all_isAsciiDigit_toDigits n.natAbs
  have value := Text.natOfDigits_toDigits n.natAbs
  have some : Nat.toDigits 10 n.natAbs ≠ [] := Nat.toDigits_ne_nil
  obtain ⟨c, cs, same⟩ := List.exists_cons_of_ne_nil some
  rw [same] at digits value
  have numbers : cs.all continuesNumber := by
    simp_all [continuesNumber]
  have first : isAsciiDigit c := by simp_all
  rcases Int.natAbs_eq n with plain | minus
  · refine ⟨c :: cs, ?_, c :: cs, .number ?_ numbers⟩
    · have := Numeral.plain (List.cons_ne_nil c cs) digits
      rwa [value, ← plain] at this
    · rw [startsNumber, first, Bool.true_or]
  · refine ⟨'-' :: c :: cs, ?_, '-' :: c :: cs, .number ?_ ?_⟩
    · have := Numeral.minus (List.cons_ne_nil c cs) digits
      rwa [value, ← minus] at this
    · simp [startsNumber, first]
    · simp only [List.all_cons, numbers, continuesNumber, first, Bool.true_or, Bool.true_and]

theorem isWritable_spelling (k : Keyword) : (word k.spelling).IsWritable := by
  have parts : ∃ c cs, k.spelling = String.ofList (c :: cs) ∧ startsWord c ∧
      cs.all continuesWord := by
    cases k <;> exact ⟨_, _, rfl, by decide, by decide⟩
  obtain ⟨c, cs, same, first, others⟩ := parts
  exact ⟨c :: cs, same ▸ .word first others⟩

end Token

/-- A word that is no keyword. -/
structure IsNameWord (n : String) : Prop where
  name : IsName n
  word : (Token.word n).IsWritable

instance (n : String) : Decidable (IsNameWord n) :=
  decidable_of_iff (Keyword.reserves n = false ∧ n.toList.head?.any Token.startsWord = true ∧
      n.toList.tail.all Token.continuesWord = true)
    ⟨fun ⟨name, shaped⟩ => ⟨name, Token.isWritable_word_iff.mpr shaped⟩,
      fun h => ⟨h.name, Token.isWritable_word_iff.mp h.word⟩⟩

/-- A literal is a text, an integer of 64 bits, a truth value or null. -/
def Operand.IsRegular : Operand → Prop
  | .placeholder | .now => True
  | .literal (.text _) | .literal (.bool _) | .literal .null => True
  | .literal (.number (.int n)) => fitsSigned n
  | .literal _ => False

namespace Statement

/-- What stands before `.*`. -/
def starred : Statement → List String
  | .select s => s.projection.filterMap fun
    | .allOf q => some q
    | _ => none
  | _ => []

structure IsRegular (s : Statement) : Prop where
  filled : s.IsFilled
  names : ∀ n ∈ s.names, IsNameWord n
  starred : ∀ q ∈ s.starred, (Token.word q).IsWritable
  operands : ∀ o ∈ s.operands, o.IsRegular
  windowed : ∀ t, s = .select t → t.offset.isSome → t.limit.isSome

end Statement

/-! ## Parts -/

/-- A part that is spelled with tokens that can be written. -/
def Rendered {α : Type} (spelled : α → List Token → Prop) (a : α) : Prop :=
  ∃ us, spelled a us ∧ ∀ t ∈ us, t.IsWritable

theorem Keyword.spells_spelling (k : Keyword) : k.Spells (.word k.spelling) :=
  ⟨k.spelling, rfl, by cases k <;> decide⟩

namespace Rendered

section Combinations

variable {α : Type} {spelled : α → List Token → Prop}

theorem separated {sign : Token → Prop} {t : Token} (ht : sign t) (writable : t.IsWritable)
    {as : List α} (filled : as ≠ []) (items : ∀ a ∈ as, Rendered spelled a) :
    Rendered (Separated sign spelled) as := by
  induction as with
  | nil => exact absurd rfl filled
  | cons a rest ih =>
    obtain ⟨⟨us, first, written⟩, others⟩ := List.forall_mem_cons.mp items
    cases rest with
    | nil => exact ⟨us, .one first, written⟩
    | cons b rest =>
      obtain ⟨vs, more, written'⟩ := ih (List.cons_ne_nil b rest) others
      exact ⟨us ++ t :: vs, .more first ht more, List.forall_mem_append.mpr
        ⟨written, List.forall_mem_cons.mpr ⟨writable, written'⟩⟩⟩

theorem commas {as : List α} (filled : as ≠ []) (items : ∀ a ∈ as, Rendered spelled a) :
    Rendered (Separated (· = .comma) spelled) as :=
  @separated _ _ (· = .comma) .comma rfl (Token.isWritable_sign ',') _ filled items

theorem clause (k : Keyword) {o : Option α} (part : ∀ a ∈ o, Rendered spelled a) :
    Rendered (Clause k spelled) o := by
  cases o with
  | none => exact ⟨[], .absent, nofun⟩
  | some a =>
    obtain ⟨us, h, written⟩ := part a rfl
    exact ⟨_, .present k.spells_spelling h,
      List.forall_mem_cons.mpr ⟨Token.isWritable_spelling k, written⟩⟩

end Combinations

theorem named {n : String} (h : IsNameWord n) : Rendered Named n :=
  ⟨[.word n], .mk h.name, List.forall_mem_singleton.mpr h.word⟩

theorem secondName {o : Option String} (h : ∀ n ∈ o, IsNameWord n) : Rendered SecondName o := by
  cases o with
  | none => exact ⟨[], .absent, nofun⟩
  | some n => exact ⟨[.word n], .plain (h n rfl).name, List.forall_mem_singleton.mpr (h n rfl).word⟩

theorem column {c : Column} (h : ∀ n ∈ c.names, IsNameWord n) : Rendered Column.Spelled c := by
  obtain ⟨_ | q, n⟩ := c
  · have name := h n List.mem_cons_self
    exact ⟨[.word n], .bare name.name, List.forall_mem_singleton.mpr name.word⟩
  · have qualifier := h q List.mem_cons_self
    have name := h n (List.mem_cons_of_mem _ List.mem_cons_self)
    refine ⟨[.word q, .dot, .word n], .qualified qualifier.name name.name, ?_⟩
    simp only [List.forall_mem_cons]
    exact ⟨qualifier.word, Token.isWritable_sign '.', name.word, nofun⟩

theorem keyword {k : Keyword} {o : Operand} (h : o.Spelled [.word k.spelling]) :
    Rendered Operand.Spelled o :=
  ⟨_, h, List.forall_mem_singleton.mpr (Token.isWritable_spelling k)⟩

theorem integer {n : Int} (fits : fitsSigned n) :
    Rendered Operand.Spelled (.literal (.int n)) := by
  obtain ⟨cs, numeral, writable⟩ := Token.exists_numeral n
  exact ⟨_, .integer numeral fits, List.forall_mem_singleton.mpr writable⟩

theorem operand {o : Operand} (h : o.IsRegular) : Rendered Operand.Spelled o := by
  cases o with
  | placeholder =>
    exact ⟨_, .placeholder, List.forall_mem_singleton.mpr (Token.isWritable_sign '?')⟩
  | now =>
    have spelled : Operand.Spelled .now [.word "datetime", .leftParen, .text "now", .rightParen] :=
      .now (by decide) (by decide)
    refine ⟨_, spelled, ?_⟩
    simp only [List.forall_mem_cons]
    exact ⟨Token.isWritable_datetime, Token.isWritable_sign '(', Token.isWritable_text "now",
      Token.isWritable_sign ')', nofun⟩
  | literal v =>
    cases v with
    | text s => exact ⟨_, .text s, List.forall_mem_singleton.mpr (Token.isWritable_text s)⟩
    | null => exact keyword (.null Keyword.null.spells_spelling)
    | bool b =>
      cases b with
      | true => exact keyword (.trueWord Keyword.true.spells_spelling)
      | false => exact keyword (.falseWord Keyword.false.spells_spelling)
    | number n =>
      cases n with
      | int n => exact integer h
      | double => exact h.elim
    | array | object => exact h.elim

theorem condition {c : Condition} (names : ∀ n ∈ c.names, IsNameWord n)
    (operands : ∀ o ∈ c.operands, o.IsRegular) : Rendered Condition.Spelled c := by
  cases c with
  | isNull c =>
    obtain ⟨us, spelled, written⟩ := column names
    refine ⟨_, .isNull spelled (Keyword.spells_spelling _) (Keyword.spells_spelling _), ?_⟩
    simp only [List.forall_mem_append, List.forall_mem_cons]
    exact ⟨written, Token.isWritable_spelling _, Token.isWritable_spelling _, nofun⟩
  | isNotNull c =>
    obtain ⟨us, spelled, written⟩ := column names
    refine ⟨_, .isNotNull spelled (Keyword.spells_spelling _) (Keyword.spells_spelling _)
      (Keyword.spells_spelling _), ?_⟩
    simp only [List.forall_mem_append, List.forall_mem_cons]
    exact ⟨written, Token.isWritable_spelling _, Token.isWritable_spelling _,
      Token.isWritable_spelling _, nofun⟩
  | equals c o =>
    obtain ⟨us, spelled, written⟩ := column names
    obtain ⟨vs, spelled', written'⟩ := operand (operands o List.mem_cons_self)
    exact ⟨_, .equals spelled spelled', List.forall_mem_append.mpr
      ⟨written, List.forall_mem_cons.mpr ⟨Token.isWritable_sign '=', written'⟩⟩⟩

theorem conditions {cs : List Condition} (filled : cs ≠ [])
    (names : ∀ n ∈ cs.flatMap Condition.names, IsNameWord n)
    (operands : ∀ o ∈ cs.flatMap Condition.operands, o.IsRegular) :
    Rendered Condition.AllSpelled cs :=
  separated Keyword.and.spells_spelling (Token.isWritable_spelling _) filled fun c hc =>
    condition (fun n hn => names n (List.mem_flatMap.mpr ⟨c, hc, hn⟩))
      (fun o ho => operands o (List.mem_flatMap.mpr ⟨c, hc, ho⟩))

theorem projection {p : Projection} (names : ∀ n ∈ p.names, IsNameWord n)
    (starred : ∀ q, p = .allOf q → (Token.word q).IsWritable) :
    Rendered Projection.Spelled p := by
  cases p with
  | all => exact ⟨_, .all, List.forall_mem_singleton.mpr (Token.isWritable_sign '*')⟩
  | allOf q =>
    refine ⟨_, .allOf q, ?_⟩
    simp only [List.forall_mem_cons]
    exact ⟨starred q rfl, Token.isWritable_sign '.', Token.isWritable_sign '*', nofun⟩
  | column c label =>
    obtain ⟨us, spelled, written⟩ := column fun n hn => names n (List.mem_append_left _ hn)
    obtain ⟨vs, labelled, written'⟩ := secondName fun n (hn : n ∈ label) =>
      names n (List.mem_append_right _ (Option.mem_toList.mpr hn))
    exact ⟨_, .column spelled labelled, List.forall_mem_append.mpr ⟨written, written'⟩⟩

theorem assigned {a : String × Operand} (name : IsNameWord a.1) (value : a.2.IsRegular) :
    Rendered Assigned a := by
  obtain ⟨us, spelled, written⟩ := operand value
  exact ⟨_, .mk name.name spelled, List.forall_mem_cons.mpr
    ⟨name.word, List.forall_mem_cons.mpr ⟨Token.isWritable_sign '=', written⟩⟩⟩

theorem join {j : Join} (h : ∀ n ∈ j.names, IsNameWord n) : Rendered Join.Spelled j := by
  obtain ⟨table, short, left, right⟩ := j
  simp only [Join.names, List.forall_mem_cons, List.forall_mem_append] at h
  obtain ⟨table, short, left, right⟩ := h
  obtain ⟨ls, leftSide, written⟩ := column left
  obtain ⟨rs, rightSide, written'⟩ := column right
  refine ⟨_, .mk .absent (Keyword.spells_spelling _) table.name (.plain short.name)
    (Keyword.spells_spelling _) leftSide rightSide, ?_⟩
  simp only [List.forall_mem_append, List.forall_mem_cons]
  exact ⟨List.forall_mem_nil _, Token.isWritable_spelling _, table.word,
    ⟨short.word, List.forall_mem_nil _⟩,
    Token.isWritable_spelling _, written, Token.isWritable_sign '=', written'⟩

theorem orderBy {o : OrderBy} (h : ∀ n ∈ o.column.names, IsNameWord n) :
    Rendered OrderBy.Spelled o := by
  obtain ⟨c, descending⟩ := o
  obtain ⟨us, spelled, written⟩ := column h
  cases descending with
  | false =>
    refine ⟨_, .ascending (Keyword.spells_spelling _) spelled .absent, ?_⟩
    rw [List.append_nil]
    exact List.forall_mem_cons.mpr ⟨Token.isWritable_spelling _, written⟩
  | true =>
    refine ⟨_, .descending (Keyword.spells_spelling _) spelled (Keyword.spells_spelling _), ?_⟩
    simp only [List.forall_mem_append, List.forall_mem_cons]
    exact ⟨Token.isWritable_spelling _, written, Token.isWritable_spelling _, nofun⟩

theorem bounds {limit : Operand} {offset : Option Operand}
    (h : ∀ o ∈ limit :: offset.toList, o.IsRegular) :
    Rendered (Bounds Operand.Spelled) (limit, offset) := by
  obtain ⟨first, others⟩ := List.forall_mem_cons.mp h
  obtain ⟨us, spelled, written⟩ := operand first
  obtain ⟨vs, skipped, written'⟩ := clause .offset fun o (ho : o ∈ offset) =>
    operand (others o (Option.mem_toList.mpr ho))
  exact ⟨_, .mk spelled skipped, List.forall_mem_append.mpr ⟨written, written'⟩⟩

/-! ## Statements -/

theorem insert {s : Insert} (h : (Statement.insert s).IsRegular) : Rendered Insert.Spelled s := by
  obtain ⟨table, columns, values⟩ := s
  obtain ⟨table, names⟩ := List.forall_mem_cons.mp h.names
  obtain ⟨us, columnList, written⟩ := commas h.filled.1
    fun n hn => named (names n hn)
  obtain ⟨vs, valueList, written'⟩ := commas h.filled.2
    fun o ho => operand (h.operands o ho)
  refine ⟨_, .mk (Keyword.spells_spelling _) table.name columnList (Keyword.spells_spelling _)
    valueList, ?_⟩
  simp only [List.forall_mem_append, List.forall_mem_cons]
  exact ⟨Token.isWritable_spelling _, table.word, Token.isWritable_sign '(', written,
    Token.isWritable_sign ')', Token.isWritable_spelling _, Token.isWritable_sign '(', written',
    Token.isWritable_sign ')', nofun⟩

/-- A window, unless rows are skipped without a limit. -/
theorem window {limit offset : Option Operand}
    (h : ∀ o ∈ limit.toList ++ offset.toList, o.IsRegular) (limited : offset.isSome → limit.isSome) :
    ∃ w : Option (Operand × Option Operand), w.map Prod.fst = limit ∧ w.bind Prod.snd = offset ∧
      Rendered (Clause .limit (Bounds Operand.Spelled)) w := by
  cases limit with
  | some o =>
    exact ⟨some (o, offset), rfl, rfl, clause .limit fun w hw => Option.some.inj hw ▸ bounds h⟩
  | none =>
    cases offset with
    | some => exact absurd (limited rfl) Bool.false_ne_true
    | none => exact ⟨none, rfl, rfl, clause .limit nofun⟩

/-- No conditions, or some behind a keyword. -/
theorem tests {cs : List Condition} (names : ∀ n ∈ cs.flatMap Condition.names, IsNameWord n)
    (operands : ∀ o ∈ cs.flatMap Condition.operands, o.IsRegular) :
    ∃ o : Option (List Condition), o.getD [] = cs ∧
      Rendered (Clause .where Condition.AllSpelled) o := by
  by_cases filled : cs = []
  · exact ⟨none, filled.symm, clause .where nofun⟩
  · exact ⟨some cs, rfl,
      clause .where fun ds hd => Option.some.inj hd ▸ conditions filled names operands⟩

theorem select {s : Select} (h : (Statement.select s).IsRegular) :
    Rendered (Select.Spelled Operand.Spelled) s := by
  obtain ⟨items, table, short, joins, tested, order, limit, offset⟩ := s
  obtain ⟨filled, names, starred, operands, windowed⟩ := h
  simp only [Statement.names, List.forall_mem_append, List.forall_mem_cons] at names
  obtain ⟨projected, named, second, joined, tests, ordered⟩ := names
  obtain ⟨values, bounded⟩ := List.forall_mem_append.mp operands
  obtain ⟨ps, projected, writtenP⟩ := commas filled fun p hp =>
    projection (fun n hn => projected n (List.mem_flatMap.mpr ⟨p, hp, hn⟩)) fun q hq =>
      starred q (List.mem_filterMap.mpr ⟨p, hp, by rw [hq]⟩)
  obtain ⟨ss, second, writtenS⟩ := secondName fun n (hn : n ∈ short) =>
    second n (Option.mem_toList.mpr hn)
  obtain ⟨js, joined, writtenJ⟩ := clause .left fun j (hj : j ∈ joins) =>
    join fun n hn => joined n (List.mem_flatMap.mpr ⟨j, Option.mem_toList.mpr hj, hn⟩)
  obtain ⟨_, rfl, cs, tested, writtenC⟩ := Rendered.tests tests values
  obtain ⟨os, ordered, writtenO⟩ := clause .order fun o (ho : o ∈ order) =>
    orderBy fun n hn => ordered n (List.mem_flatMap.mpr ⟨o, Option.mem_toList.mpr ho, hn⟩)
  obtain ⟨_, rfl, rfl, ws, limited, writtenW⟩ := window bounded (windowed _ rfl)
  refine ⟨_, .mk projected (Keyword.spells_spelling _) named.name second joined tested ordered
    limited, ?_⟩
  simp only [List.forall_mem_append, List.forall_mem_cons]
  exact ⟨writtenP, Token.isWritable_spelling _, named.word, writtenS, writtenJ, writtenC, writtenO,
    writtenW⟩

theorem update {s : Update} (h : (Statement.update s).IsRegular) : Rendered Update.Spelled s := by
  obtain ⟨table, assignments, tests⟩ := s
  obtain ⟨table, names⟩ := List.forall_mem_cons.mp h.names
  obtain ⟨columns, names⟩ := List.forall_mem_append.mp names
  obtain ⟨values, operands⟩ := List.forall_mem_append.mp h.operands
  obtain ⟨us, items, written⟩ := commas h.filled.1
    fun a ha => assigned (columns a.1 (List.mem_map_of_mem ha)) (values a.2 (List.mem_map_of_mem ha))
  obtain ⟨vs, tested, written'⟩ := conditions h.filled.2 names operands
  refine ⟨_, .mk table.name (Keyword.spells_spelling _) items (Keyword.spells_spelling _) tested,
    ?_⟩
  simp only [List.forall_mem_append, List.forall_mem_cons]
  exact ⟨table.word, Token.isWritable_spelling _, written, Token.isWritable_spelling _, written'⟩

theorem delete {s : Delete} (h : (Statement.delete s).IsRegular) : Rendered Delete.Spelled s := by
  obtain ⟨table, tests⟩ := s
  obtain ⟨table, names⟩ := List.forall_mem_cons.mp h.names
  obtain ⟨us, tested, written⟩ := conditions h.filled names h.operands
  refine ⟨_, .mk (Keyword.spells_spelling _) table.name (Keyword.spells_spelling _) tested, ?_⟩
  simp only [List.forall_mem_cons]
  exact ⟨Token.isWritable_spelling _, table.word, Token.isWritable_spelling _, written⟩

theorem statement {s : Statement} (h : s.IsRegular) :
    Rendered (Statement.Spelled Operand.Spelled) s := by
  have first (k : Keyword) {us : List Token} (written : ∀ t ∈ us, t.IsWritable) :
      ∀ t ∈ .word k.spelling :: us, t.IsWritable :=
    List.forall_mem_cons.mpr ⟨Token.isWritable_spelling k, written⟩
  cases s with
  | insert s =>
    obtain ⟨us, spelled, written⟩ := insert h
    exact ⟨_, .insert (Keyword.spells_spelling _) spelled, first .insert written⟩
  | select s =>
    obtain ⟨us, spelled, written⟩ := select h
    exact ⟨_, .select (Keyword.spells_spelling _) spelled, first .select written⟩
  | update s =>
    obtain ⟨us, spelled, written⟩ := update h
    exact ⟨_, .update (Keyword.spells_spelling _) spelled, first .update written⟩
  | delete s =>
    obtain ⟨us, spelled, written⟩ := delete h
    exact ⟨_, .delete (Keyword.spells_spelling _) spelled, first .delete written⟩

end Rendered

/-! ## Texts -/

/-- Tokens that can be written can be laid out, each with a blank behind it. -/
theorem Token.exists_laid {ts : List Token} (h : ∀ t ∈ ts, t.IsWritable) :
    ∃ cs, Laid BothLong ts cs := by
  induction ts with
  | nil => exact ⟨[], .finish rfl⟩
  | cons t ts ih =>
    obtain ⟨⟨cs, written⟩, others⟩ := List.forall_mem_cons.mp h
    obtain ⟨rest, more⟩ := ih others
    have blank : Text.isBlank ' ' := rfl
    exact ⟨[] ++ (cs ++ ' ' :: rest),
      .token rfl written (fun _ _ _ => ⟨' ', rfl, blank⟩) (more.blank blank)⟩

/-- Every regular statement is read from some text. -/
theorem Statement.exists_text {s : Statement} (h : s.IsRegular) :
    ∃ sql, parse? sql = some s := by
  obtain ⟨ts, spelled, written⟩ := Rendered.statement h
  obtain ⟨cs, laid⟩ := Token.exists_laid written
  refine ⟨String.ofList cs, parse?_eq_some_iff.mpr ⟨ts, ?_, spelled⟩⟩
  rw [Token.scan, String.toList_ofList]
  exact Token.scanChars_of_laid laid spelled.shows.apart spelled.shows.plain

end OfferBook
