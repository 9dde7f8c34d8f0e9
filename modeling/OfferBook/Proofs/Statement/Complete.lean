import OfferBook.Proofs.Statement.Grammar
import OfferBook.Proofs.Text.Characters

/-! # What the grammar spells is read

* `Keyword.eq_of_spells`, `IsName.not_spells` — a word is one keyword at most, and a name is none.
* `Token.Ahead` — what may stand behind a part, so that nothing more is taken for it.
* `Token.IsComplete` — whatever spells a part is read as it; one lemma for each reader.
* `Token.statement?_of_spelled` — and so whole statements are read as they are spelled.
-/

namespace OfferBook

/-! ## Keywords and names -/

namespace Keyword

variable {j k : Keyword} {t : Token} {w : String}

theorem mem_all (k : Keyword) : k ∈ all := by cases k <;> decide

theorem eq_of_isWord (hj : j.isWord w) (hk : k.isWord w) : j = k := by
  -- The letters of a keyword lead back to it.
  have found (i : Keyword) : all.find? (fun j =>
      j.spelling.toList.map Char.toLower = i.spelling.toList.map Char.toLower) = some i := by
    cases i <;> decide
  have letters : j.spelling.toList.map Char.toLower = k.spelling.toList.map Char.toLower :=
    (of_decide_eq_true hj).trans (of_decide_eq_true hk).symm
  have same := found j
  rw [letters, found k] at same
  exact (Option.some.inj same).symm

theorem eq_of_spells (hj : j.Spells t) (hk : k.Spells t) : j = k := by
  obtain ⟨w, rfl, hw⟩ := hj
  obtain ⟨w', same, hw'⟩ := hk
  obtain rfl := Token.word.inj same
  exact eq_of_isWord hw hw'

theorem Spells.not_of_ne (h : j.Spells t) (ne : j ≠ k) : ¬ k.Spells t := fun hk =>
  ne (eq_of_spells h hk)

theorem Spells.ne_of_not_word (h : k.Spells t) {u : Token} (hu : ∀ w, u ≠ .word w) : t ≠ u := by
  obtain ⟨w, rfl, -⟩ := h
  exact (hu w).symm

end Keyword

namespace IsName

variable {n : String}

theorem not_isWord (h : IsName n) (k : Keyword) : ¬ k.isWord n := fun hw =>
  Bool.false_ne_true (h.symm.trans (List.any_eq_true.mpr ⟨k, k.mem_all, hw⟩))

theorem not_spells (h : IsName n) (k : Keyword) : ¬ k.Spells (.word n) := by
  rintro ⟨w, same, hw⟩
  exact h.not_isWord k (Token.word.inj same ▸ hw)

end IsName

namespace Token

variable {α : Type}

/-! ## What stands behind a part -/

/-- The next token, if there is one, is of some kind. -/
def Ahead (p : Token → Prop) (r : List Token) : Prop := ∀ t ∈ r.head?, p t

/-- One of some keywords. -/
def Opens (ks : List Keyword) (t : Token) : Prop := ∃ k ∈ ks, k.Spells t

/-- A comma, or a keyword other than the one before a second name. -/
def Closes (t : Token) : Prop := t = .comma ∨ ∃ k, k ≠ Keyword.as ∧ k.Spells t

section Ahead

variable {p q : Token → Prop} {k : Keyword} {ks : List Keyword} {t : Token} {us r : List Token}

theorem ahead_nil (p : Token → Prop) : Ahead p [] := fun _ h => absurd h nofun

@[simp] theorem ahead_cons : Ahead p (t :: r) ↔ p t := by simp [Ahead]

theorem Ahead.mono (h : Ahead p r) (weaker : ∀ t, p t → q t) : Ahead q r :=
  fun t ht => weaker t (h t ht)

theorem Closes.ne_dot (h : Closes t) : t ≠ .dot := by
  rcases h with rfl | ⟨k, -, hk⟩
  · exact nofun
  · exact hk.ne_of_not_word nofun

theorem Closes.not_as (h : Closes t) : ¬ Keyword.as.Spells t := by
  rcases h with rfl | ⟨k, ne, hk⟩
  · rintro ⟨w, h, -⟩
    exact Token.noConfusion h
  · exact hk.not_of_ne ne

theorem Closes.not_name (h : Closes t) {n : String} (hn : IsName n) : t ≠ .word n := by
  rintro rfl
  rcases h with h | ⟨k, -, hk⟩
  · exact Token.noConfusion h
  · exact hn.not_spells k hk

theorem Opens.not_spells (h : Opens ks t) (hk : k ∉ ks) : ¬ k.Spells t := by
  obtain ⟨j, hj, hjt⟩ := h
  exact hjt.not_of_ne fun same => hk (same ▸ hj)

theorem Opens.closes (h : Opens ks t) (has : Keyword.as ∉ ks) : Closes t := by
  obtain ⟨j, hj, hjt⟩ := h
  exact .inr ⟨j, fun same => has (same ▸ hj), hjt⟩

theorem ahead_clause {part : α → List Token → Prop} {o : Option α} (h : Clause k part o us)
    (hr : Ahead (Opens ks) r) : Ahead (Opens (k :: ks)) (us ++ r) := by
  cases h with
  | absent => exact hr.mono fun _ ⟨j, hj, hjt⟩ => ⟨j, List.mem_cons_of_mem k hj, hjt⟩
  | present ht => exact ahead_cons.mpr ⟨k, List.mem_cons_self, ht⟩

end Ahead

/-! ## Words and signs -/

section Words

variable {k : Keyword} {t : Token} {n : String} {us r : List Token}

theorem keyword?_of_spells (h : k.Spells t) (r : List Token) : keyword? k (t :: r) = some r := by
  obtain ⟨w, rfl, hw⟩ := h
  exact if_pos hw

theorem keyword?_eq_none (h : Ahead (¬ k.Spells ·) r) : keyword? k r = none := by
  unfold keyword?
  split
  · next w rest => exact if_neg fun hw => ahead_cons.mp h ⟨w, rfl, hw⟩
  · rfl

theorem expect?_self (t : Token) (r : List Token) : expect? t (t :: r) = some r := if_pos rfl

theorem expect?_eq_none (h : Ahead (· ≠ t) r) : expect? t r = none := by
  unfold expect?
  split
  · next u rest => exact if_neg (ahead_cons.mp h)
  · rfl

theorem skipKeyword_of_optionally (h : Optionally k us) (hr : Ahead (¬ k.Spells ·) r) :
    skipKeyword k (us ++ r) = r := by
  cases h with
  | absent => simp [skipKeyword, keyword?_eq_none hr]
  | present ht => simp [skipKeyword, keyword?_of_spells ht]

theorem name?_of_isName (h : IsName n) (r : List Token) : name? (.word n :: r) = some (n, r) := by
  simp only [name?, show Keyword.reserves n = false from h, Bool.false_eq_true, if_false]

theorem name?_eq_none (h : Ahead Closes r) : name? r = none := by
  unfold name?
  split
  · next w rest =>
    cases hw : Keyword.reserves w with
    | true => rfl
    | false => exact absurd rfl ((ahead_cons.mp h).not_name hw)
  · rfl

end Words

/-! ## Lists and parts that may be left out -/

/-- Whatever spells a part is read as it, if what stands behind it does not go on with it. -/
def IsComplete (reader : List Token → Option (α × List Token)) (spelled : α → List Token → Prop)
    (behind : List Token → Prop) : Prop :=
  ∀ ⦃a us r⦄, spelled a us → behind r → reader (us ++ r) = some (a, r)

theorem secondName?_isComplete : IsComplete secondName? SecondName (Ahead Closes) := by
  intro n us r h hr
  cases h with
  | absent =>
    have noAs : keyword? .as r = none := keyword?_eq_none (hr.mono fun _ ht => ht.not_as)
    simp [secondName?, noAs, optionalName, name?_eq_none hr]
  | @plain n h =>
    have noAs : keyword? .as (.word n :: r) = none :=
      keyword?_eq_none (ahead_cons.mpr (h.not_spells .as))
    simp [secondName?, noAs, optionalName, name?_of_isName h]
  | named ht h => simp [secondName?, keyword?_of_spells ht, name?_of_isName h]

section Combinations

variable {reader : List Token → Option (α × List Token)} {spelled : α → List Token → Prop}
  {behind : List Token → Prop} {us r : List Token} {as : List α}

theorem length_le_of_separated {sign : Token → Prop} (filled : ∀ a us, spelled a us → us ≠ [])
    (h : Separated sign spelled as us) : as.length ≤ us.length := by
  induction h with
  | one h => exact List.length_pos_iff.mpr (filled _ _ h)
  | more h _ _ ih =>
    simp only [List.length_cons, List.length_append]
    omega

theorem separated?_of_spelled {separator : List Token → Option (List Token)} {sign : Token → Prop}
    (between : ∀ t r, sign t → separator (t :: r) = some r)
    (complete : IsComplete reader spelled behind) (closed : ∀ t r, sign t → behind (t :: r))
    (h : Separated sign spelled as us) (hr : behind r) (stop : separator r = none) {fuel : Nat}
    (enough : as.length ≤ fuel) :
    separated? separator reader fuel (us ++ r) = some (as, r) := by
  induction h generalizing fuel with
  | one ha =>
    obtain ⟨fuel, rfl⟩ := Nat.exists_eq_succ_of_ne_zero (Nat.ne_of_gt enough)
    simp [separated?, complete ha hr, stop]
  | @more a rest t us vs ha ht _ ih =>
    obtain ⟨fuel, rfl⟩ := Nat.exists_eq_succ_of_ne_zero (Nat.ne_zero_of_lt enough)
    have first : reader (us ++ t :: (vs ++ r)) = some (a, t :: (vs ++ r)) :=
      complete ha (closed t _ ht)
    simp [separated?, first, between t _ ht, ih (Nat.le_of_succ_le_succ enough)]

theorem list?_isComplete (filled : ∀ a us, spelled a us → us ≠ [])
    (complete : IsComplete reader spelled behind) (closed : ∀ r, behind (.comma :: r)) :
    IsComplete (list? reader) (Separated (· = .comma) spelled)
      (fun r => behind r ∧ Ahead (· ≠ .comma) r) := by
  intro as us r h ⟨hr, stop⟩
  have enough : as.length ≤ (us ++ r).length :=
    Nat.le_trans (length_le_of_separated filled h) (by simp)
  refine separated?_of_spelled ?_ complete ?_ h hr (expect?_eq_none stop) enough
  · rintro t r rfl
    exact expect?_self .comma r
  · rintro t r rfl
    exact closed r

theorem enclosed?_of_spelled (filled : ∀ a us, spelled a us → us ≠ [])
    (complete : IsComplete reader spelled behind) (closed : ∀ r, behind (.comma :: r))
    (ended : ∀ r, behind (.rightParen :: r)) (h : Separated (· = .comma) spelled as us)
    (r : List Token) :
    enclosed? reader (.leftParen :: (us ++ .rightParen :: r)) = some (as, r) := by
  have items := list?_isComplete filled complete closed h
    ⟨ended r, ahead_cons.mpr (Token.noConfusion ·)⟩
  simp [enclosed?, expect?_self, items]

theorem clause?_isComplete (k : Keyword) (complete : IsComplete reader spelled behind) :
    IsComplete (clause? k reader) (Clause k spelled)
      (fun r => behind r ∧ Ahead (¬ k.Spells ·) r) := by
  intro o us r h ⟨hr, stop⟩
  cases h with
  | absent => simp [clause?, keyword?_eq_none stop]
  | present ht ha => simp [clause?, keyword?_of_spells ht, complete ha hr]

end Combinations

/-! ## Parts of statements -/

theorem name?_isComplete : IsComplete name? Named (fun _ => True) := by
  rintro n us r ⟨h⟩ -
  exact name?_of_isName h r

theorem column?_isComplete : IsComplete column? Column.Spelled (Ahead (· ≠ .dot)) := by
  intro c us r h hr
  cases h with
  | bare h => simp [column?, name?_of_isName h, expect?_eq_none hr]
  | qualified hq h => simp [column?, name?_of_isName hq, expect?_self, name?_of_isName h]

theorem wordOperand?_of_spells {k : Keyword} {w : String} (h : k.Spells (.word w))
    (r : List Token) : wordOperand? w r =
      match k with
      | .null => some (.literal .null, r)
      | .true => some (.literal (.bool true), r)
      | .false => some (.literal (.bool false), r)
      | _ => wordOperand? w r := by
  have other (j : Keyword) (ne : k ≠ j) : ¬ j.isWord w := fun hw => h.not_of_ne ne ⟨w, rfl, hw⟩
  obtain ⟨w', same, hw⟩ := h
  obtain rfl := Token.word.inj same
  cases k with
  | null => simp [wordOperand?, hw]
  | true => simp [wordOperand?, hw, other .null nofun]
  | false => simp [wordOperand?, hw, other .null nofun, other .true nofun]
  | _ => rfl

theorem not_isWord_datetime {k : Keyword} {w : String}
    (h : Text.equalsIgnoringCase "datetime" w) : ¬ k.isWord w := by
  intro hw
  have letters : k.spelling.toList.map Char.toLower = "datetime".toList.map Char.toLower :=
    (of_decide_eq_true hw).trans (of_decide_eq_true h).symm
  revert letters
  cases k <;> decide

theorem intOfChars?_of_numeral {n : Int} {cs : List Char} (h : Numeral n cs) :
    intOfChars? cs = some n := by
  cases h with
  | plain some digits => simp [intOfChars?, splitSign_digits digits, some, digits]
  | minus some digits => simp [intOfChars?, splitSign, some, digits]

theorem numberValue?_of_numeral {n : Int} {cs : List Char} (h : Numeral n cs)
    (fits : fitsSigned n) : numberValue? (String.ofList cs) = some (.int n) := by
  have read : parseSigned? cs = some n := by
    rw [parseSigned?, intOfChars?_of_numeral h, Option.filter_some, if_pos fits]
  simp [numberValue?, read]

theorem operand?_isComplete : IsComplete operand? Operand.Spelled (fun _ => True) := by
  intro o us r h _
  cases h with
  | placeholder => rfl
  | text s => rfl
  | integer h fits => simp [operand?, numberValue?_of_numeral h fits]
  | number h => simp [operand?, h]
  | null h =>
    obtain ⟨w, rfl, -⟩ := id h
    exact wordOperand?_of_spells h r
  | trueWord h =>
    obtain ⟨w, rfl, -⟩ := id h
    exact wordOperand?_of_spells h r
  | falseWord h =>
    obtain ⟨w, rfl, -⟩ := id h
    exact wordOperand?_of_spells h r
  | now h hs =>
    simp [operand?, wordOperand?, not_isWord_datetime h, h, hs]

theorem condition?_isComplete : IsComplete condition? Condition.Spelled (fun _ => True) := by
  intro c us r h _
  -- Behind the column there is a keyword or a sign, but no dot.
  cases h with
  | @isNull column us i n hc hi hn =>
    have noNot : keyword? .not (n :: r) = none :=
      keyword?_eq_none (ahead_cons.mpr (hn.not_of_ne nofun))
    have first : column? (us ++ i :: n :: r) = some (column, i :: n :: r) :=
      column?_isComplete hc (ahead_cons.mpr (hi.ne_of_not_word nofun))
    simp [condition?, first, keyword?_of_spells hi, noNot, keyword?_of_spells hn]
  | @isNotNull column us i m n hc hi hm hn =>
    have first : column? (us ++ i :: m :: n :: r) = some (column, i :: m :: n :: r) :=
      column?_isComplete hc (ahead_cons.mpr (hi.ne_of_not_word nofun))
    simp [condition?, first, keyword?_of_spells hi, keyword?_of_spells hm, keyword?_of_spells hn]
  | @equals column operand us vs hc ho =>
    have noIs : keyword? .is (.equal :: (vs ++ r)) = none :=
      keyword?_eq_none (ahead_cons.mpr fun ⟨w, h, _⟩ => Token.noConfusion h)
    have first : column? (us ++ .equal :: (vs ++ r)) = some (column, .equal :: (vs ++ r)) :=
      column?_isComplete hc (ahead_cons.mpr nofun)
    simp [condition?, first, noIs, expect?_self, operand?_isComplete ho trivial]

theorem projection?_isComplete :
    IsComplete projection? Projection.Spelled (Ahead Closes) := by
  intro p us r h hr
  cases h with
  | all => rfl
  | allOf q => rfl
  | @column c label us vs hc hl =>
    have noDot : Ahead (· ≠ .dot) (vs ++ r) := by
      cases hl with
      | absent => exact hr.mono fun _ ht => ht.ne_dot
      | plain => exact ahead_cons.mpr nofun
      | named ht => exact ahead_cons.mpr (ht.ne_of_not_word nofun)
    have first : column? (us ++ (vs ++ r)) = some (c, vs ++ r) := column?_isComplete hc noDot
    -- A column is taken for neither `*` nor `name.*`.
    have neither : projection? (us ++ (vs ++ r)) = (column? (us ++ (vs ++ r))).bind fun first =>
        (secondName? first.2).bind fun second => some (.column first.1 second.1, second.2) := by
      cases hc with
      | qualified => rfl
      | bare =>
        generalize vs ++ r = rest at noDot
        cases rest with
        | nil => rfl
        | cons t rest =>
          cases t with
          | dot => exact absurd rfl (ahead_cons.mp noDot)
          | _ => rfl
    simp [neither, first, secondName?_isComplete hl hr]

theorem assignment?_isComplete : IsComplete assignment? Assigned (fun _ => True) := by
  rintro a us r ⟨h, ho⟩ -
  simp [assignment?, name?_of_isName h, expect?_self, operand?_isComplete ho trivial]

theorem join?_isComplete : IsComplete join? Join.Spelled (Ahead Closes) := by
  intro join us r h hr
  obtain @⟨table, short, leftColumn, rightColumn, j, o, us, vs, ls, rs, outer, hj, named, second,
    ho, left, right⟩ := h
  have skipped : skipKeyword .outer (us ++ j :: .word table :: (vs ++ o :: (ls ++ .equal ::
      (rs ++ r)))) = j :: .word table :: (vs ++ o :: (ls ++ .equal :: (rs ++ r))) :=
    skipKeyword_of_optionally outer (ahead_cons.mpr (hj.not_of_ne nofun))
  have called : secondName? (vs ++ o :: (ls ++ .equal :: (rs ++ r))) =
      some (short, o :: (ls ++ .equal :: (rs ++ r))) :=
    secondName?_isComplete second (ahead_cons.mpr (.inr ⟨.on, nofun, ho⟩))
  have first : column? (ls ++ .equal :: (rs ++ r)) = some (leftColumn, .equal :: (rs ++ r)) :=
    column?_isComplete left (ahead_cons.mpr nofun)
  have last : column? (rs ++ r) = some (rightColumn, r) :=
    column?_isComplete right (hr.mono fun _ ht => ht.ne_dot)
  simp [join?, skipped, keyword?_of_spells hj, name?_of_isName named, called,
    keyword?_of_spells ho, first, expect?_self, last]

/-- Behind an order there is a keyword that is none of its own. -/
def EndsOrder (t : Token) : Prop :=
  Closes t ∧ ¬ Keyword.asc.Spells t ∧ ¬ Keyword.desc.Spells t

theorem order?_isComplete : IsComplete order? OrderBy.Spelled (Ahead EndsOrder) := by
  intro order us r h hr
  cases h with
  | @ascending c b us vs hb hc ha =>
    have notDesc : Ahead (¬ Keyword.desc.Spells ·) (vs ++ r) := by
      cases ha with
      | absent => exact hr.mono fun _ ht => ht.2.2
      | present ht => exact ahead_cons.mpr (ht.not_of_ne nofun)
    have noDot : Ahead (· ≠ .dot) (vs ++ r) := by
      cases ha with
      | absent => exact hr.mono fun _ ht => ht.1.ne_dot
      | present ht => exact ahead_cons.mpr (ht.ne_of_not_word nofun)
    have skipped : skipKeyword .asc (vs ++ r) = r :=
      skipKeyword_of_optionally ha (hr.mono fun _ ht => ht.2.1)
    simp [order?, keyword?_of_spells hb, column?_isComplete hc noDot, keyword?_eq_none notDesc,
      skipped]
  | @descending c b d us hb hc hd =>
    have first : column? (us ++ d :: r) = some (c, d :: r) :=
      column?_isComplete hc (ahead_cons.mpr (hd.ne_of_not_word nofun))
    simp [order?, keyword?_of_spells hb, first, keyword?_of_spells hd]

theorem window?_isComplete :
    IsComplete window? (Bounds Operand.Spelled) (Ahead (¬ Keyword.offset.Spells ·)) := by
  rintro w us r ⟨hl, ho⟩ hr
  simp [window?, operand?_isComplete hl trivial,
    clause?_isComplete .offset operand?_isComplete ho ⟨trivial, hr⟩]

/-! ## No part is empty -/

theorem named_ne_nil (n : String) (us : List Token) (h : Named n us) : us ≠ [] := by
  cases h
  exact nofun

theorem operand_ne_nil (o : Operand) (us : List Token) (h : o.Spelled us) : us ≠ [] := by
  cases h <;> exact nofun

theorem assigned_ne_nil (a : String × Operand) (us : List Token) (h : Assigned a us) :
    us ≠ [] := by
  cases h
  exact nofun

theorem condition_ne_nil (c : Condition) (us : List Token) (h : c.Spelled us) : us ≠ [] := by
  cases h <;> simp

theorem projection_ne_nil (p : Projection) (us : List Token) (h : p.Spelled us) : us ≠ [] := by
  cases h with
  | all => exact nofun
  | allOf q => exact nofun
  | column hc => cases hc <;> exact nofun

theorem conditions?_isComplete :
    IsComplete conditions? Condition.AllSpelled (Ahead (¬ Keyword.and.Spells ·)) := by
  intro cs us r h hr
  have enough : cs.length ≤ (us ++ r).length :=
    Nat.le_trans (length_le_of_separated condition_ne_nil h) (by simp)
  exact separated?_of_spelled (fun _ r ht => keyword?_of_spells ht r) condition?_isComplete
    (fun _ _ _ => trivial) h trivial (keyword?_eq_none hr) enough

/-! ## Statements -/

theorem insert?_of_spelled {s : Insert} {us : List Token} (h : s.Spelled us) :
    insert? us = some (s, []) := by
  obtain @⟨table, cs, vs, i, v, us, ws, hi, named, columns, hv, values⟩ := h
  have names := enclosed?_of_spelled named_ne_nil name?_isComplete (fun _ => trivial)
    (fun _ => trivial) columns (v :: .leftParen :: (ws ++ [.rightParen]))
  have operands := enclosed?_of_spelled operand_ne_nil operand?_isComplete (fun _ => trivial)
    (fun _ => trivial) values []
  simp [insert?, keyword?_of_spells hi, name?_of_isName named, names, keyword?_of_spells hv,
    operands]

theorem select?_of_spelled {s : Select} {us : List Token} (h : s.Spelled Operand.Spelled us) :
    select? us = some (s, []) := by
  obtain @⟨projection, table, short, join, conditions, order, window, f, ps, ss, js, cs, os, ws,
    projected, hf, named, second, joined, tested, ordered, limited⟩ := h
  -- What stands behind each part is one of the keywords that open the later ones.
  have behindOrder : Ahead (Opens [.limit]) ws := by
    have := ahead_clause limited (ahead_nil (Opens []))
    rwa [List.append_nil] at this
  have behindTests := ahead_clause ordered behindOrder
  have behindJoin := ahead_clause tested behindTests
  have behindTable := ahead_clause joined behindJoin
  have items : list? projection? (ps ++ f :: .word table :: (ss ++ (js ++ (cs ++ (os ++ ws))))) =
      some (projection, f :: .word table :: (ss ++ (js ++ (cs ++ (os ++ ws))))) := by
    refine list?_isComplete projection_ne_nil projection?_isComplete
      (fun _ => ahead_cons.mpr (.inl rfl)) projected ⟨?_, ?_⟩
    · exact ahead_cons.mpr (.inr ⟨.from, nofun, hf⟩)
    · exact ahead_cons.mpr (hf.ne_of_not_word nofun)
  have called := secondName?_isComplete second
    (behindTable.mono fun _ ht => ht.closes (by decide))
  have joins := clause?_isComplete .left join?_isComplete joined
    ⟨behindJoin.mono fun _ ht => ht.closes (by decide),
      behindJoin.mono fun _ ht => ht.not_spells (by decide)⟩
  have tests := clause?_isComplete .where conditions?_isComplete tested
    ⟨behindTests.mono fun _ ht => ht.not_spells (by decide),
      behindTests.mono fun _ ht => ht.not_spells (by decide)⟩
  have orders := clause?_isComplete .order order?_isComplete ordered
    ⟨behindOrder.mono fun _ ht => ⟨ht.closes (by decide), ht.not_spells (by decide),
      ht.not_spells (by decide)⟩, behindOrder.mono fun _ ht => ht.not_spells (by decide)⟩
  have limits : clause? .limit window? ws = some (window, []) := by
    have := clause?_isComplete .limit window?_isComplete limited
      ⟨ahead_nil (¬ Keyword.offset.Spells ·), ahead_nil _⟩
    rwa [List.append_nil] at this
  simp [select?, items, keyword?_of_spells hf, name?_of_isName named, called, joins, tests, orders,
    limits]

theorem where?_of_spelled {conditions : List Condition} {w : Token} {us : List Token}
    (hw : Keyword.where.Spells w) (h : Condition.AllSpelled conditions us) :
    where? (w :: us) = some (conditions, []) := by
  have tests := conditions?_isComplete h (ahead_nil _)
  rw [List.append_nil] at tests
  simp [where?, keyword?_of_spells hw, tests]

theorem update?_of_spelled {s : Update} {us : List Token} (h : s.Spelled us) :
    update? us = some (s, []) := by
  obtain @⟨table, assignments, conditions, t, w, us, vs, named, hs, assigned, hw, tested⟩ := h
  have items : list? assignment? (us ++ w :: vs) = some (assignments, w :: vs) :=
    list?_isComplete assigned_ne_nil assignment?_isComplete (fun _ => trivial) assigned
      ⟨trivial, ahead_cons.mpr (hw.ne_of_not_word nofun)⟩
  simp [update?, name?_of_isName named, keyword?_of_spells hs, items, where?_of_spelled hw tested]

theorem delete?_of_spelled {s : Delete} {us : List Token} (h : s.Spelled us) :
    delete? us = some (s, []) := by
  obtain ⟨hf, named, hw, tested⟩ := h
  simp [delete?, keyword?_of_spells hf, name?_of_isName named, where?_of_spelled hw tested]

theorem statement?_of_spelled {s : Statement} {ts : List Token}
    (h : s.Spelled Operand.Spelled ts) : statement? ts = some (s, []) := by
  have other (j k : Keyword) {w : String} (hw : j.isWord w) (ne : j ≠ k) : ¬ k.isWord w :=
    fun hk => ne (Keyword.eq_of_isWord hw hk)
  cases h with
  | insert ht spelled =>
    obtain ⟨w, rfl, hw⟩ := ht
    simp [statement?, hw, insert?_of_spelled spelled]
  | select ht spelled =>
    obtain ⟨w, rfl, hw⟩ := ht
    simp [statement?, hw, other .select .insert hw nofun, select?_of_spelled spelled]
  | update ht spelled =>
    obtain ⟨w, rfl, hw⟩ := ht
    simp [statement?, hw, other .update .insert hw nofun, other .update .select hw nofun,
      update?_of_spelled spelled]
  | delete ht spelled =>
    obtain ⟨w, rfl, hw⟩ := ht
    simp [statement?, hw, other .delete .insert hw nofun, other .delete .select hw nofun,
      other .delete .update hw nofun, delete?_of_spelled spelled]

end Token

end OfferBook
