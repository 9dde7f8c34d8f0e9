import OfferBook.Proofs.Statement.Grammar

/-! # Readers take what the grammar spells

* `Token.IsSound` — whatever a reader takes from the front of some tokens spells its result.
* `separated?_isSound`, `clause?_isSound`, … — one lemma for each reader.
* `Token.statement?_isSound` — and so for whole statements: no token is passed over.
-/

namespace OfferBook.Token

variable {α : Type}

/-- What the reader takes from the front spells its result. -/
def IsSound (reader : List Token → Option (α × List Token)) (spelled : α → List Token → Prop) :
    Prop :=
  ∀ ⦃ts a r⦄, reader ts = some (a, r) → ∃ us, spelled a us ∧ ts = us ++ r

theorem exists_of_map {β : Type} {f : α → β} {found : Option (α × List Token)} {b : β}
    {r : List Token} (h : (found.map fun (a, r) => (f a, r)) = some (b, r)) :
    ∃ a, found = some (a, r) ∧ b = f a := by
  obtain ⟨⟨a, r⟩, ha, h⟩ := Option.map_eq_some_iff.mp h
  obtain ⟨rfl, rfl⟩ := Prod.mk.inj h
  exact ⟨a, ha, rfl⟩

/-! ## Words and signs -/

theorem eq_of_keyword? {k : Keyword} {ts r : List Token} (h : keyword? k ts = some r) :
    ∃ t, k.Spells t ∧ ts = t :: r := by
  unfold keyword? at h
  split at h
  · next w rest =>
    by_cases hw : k.isWord w = true
    · rw [if_pos hw] at h
      obtain rfl := Option.some.inj h
      exact ⟨_, ⟨w, rfl, hw⟩, rfl⟩
    · rw [if_neg hw] at h
      exact absurd h nofun
  · exact absurd h nofun

theorem eq_of_expect? {t : Token} {ts r : List Token} (h : expect? t ts = some r) :
    ts = t :: r := by
  unfold expect? at h
  split at h
  · next u rest =>
    by_cases hu : u = t
    · rw [if_pos hu] at h
      rw [hu, Option.some.inj h]
    · rw [if_neg hu] at h
      exact absurd h nofun
  · exact absurd h nofun

theorem skipKeyword_eq (k : Keyword) (ts : List Token) :
    ∃ us, Optionally k us ∧ ts = us ++ skipKeyword k ts := by
  unfold skipKeyword
  cases h : keyword? k ts with
  | none => exact ⟨[], .absent, rfl⟩
  | some r =>
    obtain ⟨t, ht, rfl⟩ := eq_of_keyword? h
    exact ⟨[t], .present ht, rfl⟩

theorem name?_isSound : IsSound name? Named := by
  intro ts n r h
  unfold name? at h
  split at h
  · next w rest =>
    by_cases hw : Keyword.reserves w = true
    · rw [if_pos hw] at h
      exact absurd h nofun
    · rw [if_neg hw] at h
      obtain ⟨rfl, rfl⟩ := Prod.mk.inj (Option.some.inj h)
      exact ⟨[.word w], .mk (Bool.eq_false_iff.mpr hw), rfl⟩
  · exact absurd h nofun

theorem eq_of_name? {n : String} {ts r : List Token} (h : name? ts = some (n, r)) :
    IsName n ∧ ts = .word n :: r := by
  obtain ⟨us, ⟨hn⟩, rfl⟩ := name?_isSound h
  exact ⟨hn, rfl⟩

theorem secondName?_isSound : IsSound secondName? SecondName := by
  intro ts n r h
  unfold secondName? at h
  cases as : keyword? .as ts with
  | some rest =>
    -- After `AS` a name must follow.
    simp only [as] at h
    obtain ⟨t, ht, rfl⟩ := eq_of_keyword? as
    obtain ⟨n, hn, rfl⟩ := exists_of_map h
    obtain ⟨named, rfl⟩ := eq_of_name? hn
    exact ⟨[t, .word n], .named ht named, rfl⟩
  | none =>
    simp only [as, optionalName] at h
    cases hn : name? ts with
    | some found =>
      obtain ⟨n, rest⟩ := found
      simp only [hn, Option.some.injEq, Prod.mk.injEq] at h
      obtain ⟨rfl, rfl⟩ := h
      obtain ⟨named, rfl⟩ := eq_of_name? hn
      exact ⟨[.word n], .plain named, rfl⟩
    | none =>
      simp only [hn, Option.some.injEq, Prod.mk.injEq] at h
      obtain ⟨rfl, rfl⟩ := h
      exact ⟨[], .absent, rfl⟩

/-! ## Lists and parts that may be left out -/

section Combinations

variable {reader : List Token → Option (α × List Token)} {spelled : α → List Token → Prop}

theorem separated?_isSound {separator : List Token → Option (List Token)} {sign : Token → Prop}
    (between : ∀ ts r, separator ts = some r → ∃ t, sign t ∧ ts = t :: r)
    (sound : IsSound reader spelled) (fuel : Nat) :
    IsSound (separated? separator reader fuel) (Separated sign spelled) := by
  induction fuel with
  | zero => exact fun _ _ _ h => absurd h nofun
  | succ fuel ih =>
    intro ts as r h
    rw [separated?, Option.bind_eq_bind, Option.bind_eq_some_iff] at h
    obtain ⟨⟨a, rest⟩, item, h⟩ := h
    obtain ⟨us, ha, rfl⟩ := sound item
    cases found : separator rest with
    | none =>
      simp only [found, Option.some.injEq, Prod.mk.injEq] at h
      obtain ⟨rfl, rfl⟩ := h
      exact ⟨us, .one ha, rfl⟩
    | some later =>
      obtain ⟨t, ht, rfl⟩ := between _ _ found
      simp only [found, Option.bind_eq_bind, Option.bind_eq_some_iff] at h
      obtain ⟨⟨more, r'⟩, hmore, h⟩ := h
      simp only [Option.some.injEq, Prod.mk.injEq] at h
      obtain ⟨rfl, rfl⟩ := h
      obtain ⟨vs, hvs, rfl⟩ := ih hmore
      exact ⟨us ++ t :: vs, .more ha ht hvs, by simp⟩

theorem list?_isSound (sound : IsSound reader spelled) :
    IsSound (list? reader) (Separated (· = .comma) spelled) := by
  intro ts as r h
  have between : ∀ ts r, expect? .comma ts = some r → ∃ t, t = .comma ∧ ts = t :: r :=
    fun _ _ found => ⟨_, rfl, eq_of_expect? found⟩
  exact separated?_isSound between sound ts.length h

theorem eq_of_enclosed? (sound : IsSound reader spelled) {as : List α} {ts r : List Token}
    (h : enclosed? reader ts = some (as, r)) :
    ∃ us, Separated (· = .comma) spelled as us ∧ ts = .leftParen :: (us ++ .rightParen :: r) := by
  simp only [enclosed?, Option.bind_eq_bind, Option.bind_eq_some_iff] at h
  obtain ⟨opened, left, ⟨items, rest⟩, hitems, closed, right, h⟩ := h
  simp only [Option.some.injEq, Prod.mk.injEq] at h
  obtain ⟨rfl, rfl⟩ := h
  obtain rfl := eq_of_expect? left
  obtain rfl := eq_of_expect? right
  obtain ⟨us, hus, rfl⟩ := list?_isSound sound hitems
  exact ⟨us, hus, rfl⟩

theorem clause?_isSound (k : Keyword) (sound : IsSound reader spelled) :
    IsSound (clause? k reader) (Clause k spelled) := by
  intro ts o r h
  unfold clause? at h
  cases found : keyword? k ts with
  | none =>
    simp only [found, Option.some.injEq, Prod.mk.injEq] at h
    obtain ⟨rfl, rfl⟩ := h
    exact ⟨[], .absent, rfl⟩
  | some rest =>
    simp only [found] at h
    obtain ⟨t, ht, rfl⟩ := eq_of_keyword? found
    obtain ⟨a, ha, rfl⟩ := exists_of_map h
    obtain ⟨us, hus, rfl⟩ := sound ha
    exact ⟨t :: us, .present ht hus, rfl⟩

end Combinations

/-! ## Parts of statements -/

theorem column?_isSound : IsSound column? Column.Spelled := by
  intro ts c r h
  simp only [column?, Option.bind_eq_bind, Option.bind_eq_some_iff] at h
  obtain ⟨⟨first, rest⟩, hfirst, h⟩ := h
  obtain ⟨named, rfl⟩ := eq_of_name? hfirst
  cases dot : expect? .dot rest with
  | none =>
    simp only [dot, Option.some.injEq, Prod.mk.injEq] at h
    obtain ⟨rfl, rfl⟩ := h
    exact ⟨[.word first], .bare named, rfl⟩
  | some later =>
    obtain rfl := eq_of_expect? dot
    simp only [dot, Option.bind_eq_some_iff] at h
    obtain ⟨⟨name, r'⟩, hname, h⟩ := h
    simp only [Option.some.injEq, Prod.mk.injEq] at h
    obtain ⟨rfl, rfl⟩ := h
    obtain ⟨named', rfl⟩ := eq_of_name? hname
    exact ⟨[.word first, .dot, .word name], .qualified named named', rfl⟩

theorem operand?_isSound : IsSound operand? Operand.Spelled := by
  intro ts o r h
  unfold operand? at h
  split at h
  · obtain ⟨rfl, rfl⟩ := Prod.mk.inj (Option.some.inj h)
    exact ⟨[.placeholder], .placeholder, rfl⟩
  · next s rest =>
    obtain ⟨rfl, rfl⟩ := Prod.mk.inj (Option.some.inj h)
    exact ⟨[.text s], .text s, rfl⟩
  · next digits rest =>
    obtain ⟨v, hv, h⟩ := Option.map_eq_some_iff.mp h
    obtain ⟨rfl, rfl⟩ := Prod.mk.inj h
    exact ⟨[.number digits], .number hv, rfl⟩
  · next w rest =>
    unfold wordOperand? at h
    split at h
    · next hw =>
      obtain ⟨rfl, rfl⟩ := Prod.mk.inj (Option.some.inj h)
      exact ⟨[.word w], .null ⟨w, rfl, hw⟩, rfl⟩
    split at h
    · next hw =>
      obtain ⟨rfl, rfl⟩ := Prod.mk.inj (Option.some.inj h)
      exact ⟨[.word w], .trueWord ⟨w, rfl, hw⟩, rfl⟩
    split at h
    · next hw =>
      obtain ⟨rfl, rfl⟩ := Prod.mk.inj (Option.some.inj h)
      exact ⟨[.word w], .falseWord ⟨w, rfl, hw⟩, rfl⟩
    split at h
    · next hw =>
      -- The one call that is a value.
      split at h
      · next s r' =>
        by_cases hs : Text.equalsIgnoringCase "now" s = true
        · rw [if_pos hs] at h
          obtain ⟨rfl, rfl⟩ := Prod.mk.inj (Option.some.inj h)
          exact ⟨[.word w, .leftParen, .text s, .rightParen], .now hw hs, rfl⟩
        · rw [if_neg hs] at h
          exact absurd h nofun
      · exact absurd h nofun
    · exact absurd h nofun
  · exact absurd h nofun

theorem condition?_isSound : IsSound condition? Condition.Spelled := by
  intro ts c r h
  simp only [condition?, Option.bind_eq_bind, Option.bind_eq_some_iff] at h
  obtain ⟨⟨column, rest⟩, hcolumn, h⟩ := h
  obtain ⟨us, hus, rfl⟩ := column?_isSound hcolumn
  cases is : keyword? .is rest with
  | some afterIs =>
    obtain ⟨i, hi, rfl⟩ := eq_of_keyword? is
    cases not : keyword? .not afterIs with
    | some afterNot =>
      obtain ⟨m, hm, rfl⟩ := eq_of_keyword? not
      simp only [is, not, Option.bind_eq_some_iff] at h
      obtain ⟨r', null, h⟩ := h
      simp only [Option.some.injEq, Prod.mk.injEq] at h
      obtain ⟨rfl, rfl⟩ := h
      obtain ⟨n, hn, rfl⟩ := eq_of_keyword? null
      exact ⟨us ++ [i, m, n], .isNotNull hus hi hm hn, by simp⟩
    | none =>
      simp only [is, not, Option.bind_eq_some_iff] at h
      obtain ⟨r', null, h⟩ := h
      simp only [Option.some.injEq, Prod.mk.injEq] at h
      obtain ⟨rfl, rfl⟩ := h
      obtain ⟨n, hn, rfl⟩ := eq_of_keyword? null
      exact ⟨us ++ [i, n], .isNull hus hi hn, by simp⟩
  | none =>
    simp only [is, Option.bind_eq_some_iff] at h
    obtain ⟨afterSign, sign, ⟨operand, r'⟩, hoperand, h⟩ := h
    simp only [Option.some.injEq, Prod.mk.injEq] at h
    obtain ⟨rfl, rfl⟩ := h
    obtain rfl := eq_of_expect? sign
    obtain ⟨vs, hvs, rfl⟩ := operand?_isSound hoperand
    exact ⟨us ++ .equal :: vs, .equals hus hvs, by simp⟩

theorem conditions?_isSound : IsSound conditions? Condition.AllSpelled := fun ts _ _ h =>
  separated?_isSound (fun _ _ found => eq_of_keyword? found) condition?_isSound ts.length h

theorem eq_of_where? {conditions : List Condition} {ts r : List Token}
    (h : where? ts = some (conditions, r)) :
    ∃ w us, Keyword.where.Spells w ∧ Condition.AllSpelled conditions us ∧ ts = w :: (us ++ r) := by
  simp only [where?, Option.bind_eq_bind, Option.bind_eq_some_iff] at h
  obtain ⟨rest, found, h⟩ := h
  obtain ⟨w, hw, rfl⟩ := eq_of_keyword? found
  obtain ⟨us, hus, rfl⟩ := conditions?_isSound h
  exact ⟨w, us, hw, hus, rfl⟩

theorem projection?_isSound : IsSound projection? Projection.Spelled := by
  intro ts p r h
  unfold projection? at h
  split at h
  · obtain ⟨rfl, rfl⟩ := Prod.mk.inj (Option.some.inj h)
    exact ⟨[.star], .all, rfl⟩
  · next q rest =>
    obtain ⟨rfl, rfl⟩ := Prod.mk.inj (Option.some.inj h)
    exact ⟨[.word q, .dot, .star], .allOf q, rfl⟩
  · simp only [Option.bind_eq_bind, Option.bind_eq_some_iff] at h
    obtain ⟨⟨column, rest⟩, hcolumn, ⟨label, r'⟩, hlabel, h⟩ := h
    simp only [Option.some.injEq, Prod.mk.injEq] at h
    obtain ⟨rfl, rfl⟩ := h
    obtain ⟨us, hus, rfl⟩ := column?_isSound hcolumn
    obtain ⟨vs, hvs, rfl⟩ := secondName?_isSound hlabel
    exact ⟨us ++ vs, .column hus hvs, by simp⟩

theorem assignment?_isSound : IsSound assignment? Assigned := by
  intro ts a r h
  simp only [assignment?, Option.bind_eq_bind, Option.bind_eq_some_iff] at h
  obtain ⟨⟨column, rest⟩, hcolumn, afterSign, sign, ⟨operand, r'⟩, hoperand, h⟩ := h
  simp only [Option.some.injEq, Prod.mk.injEq] at h
  obtain ⟨rfl, rfl⟩ := h
  obtain ⟨named, rfl⟩ := eq_of_name? hcolumn
  obtain rfl := eq_of_expect? sign
  obtain ⟨us, hus, rfl⟩ := operand?_isSound hoperand
  exact ⟨.word column :: .equal :: us, .mk named hus, rfl⟩

theorem join?_isSound : IsSound join? Join.Spelled := by
  intro ts j r h
  simp only [join?, Option.bind_eq_bind, Option.bind_eq_some_iff] at h
  obtain ⟨afterJoin, join, ⟨table, rest⟩, htable, ⟨short, rest'⟩, hshort, afterOn, on,
    ⟨left, rest''⟩, hleft, afterSign, sign, ⟨right, r'⟩, hright, h⟩ := h
  simp only [Option.some.injEq, Prod.mk.injEq] at h
  obtain ⟨rfl, rfl⟩ := h
  obtain ⟨us, hus, skipped⟩ := skipKeyword_eq .outer ts
  obtain ⟨t, ht, taken⟩ := eq_of_keyword? join
  obtain ⟨named, rfl⟩ := eq_of_name? htable
  obtain ⟨vs, hvs, rfl⟩ := secondName?_isSound hshort
  obtain ⟨o, ho, rfl⟩ := eq_of_keyword? on
  obtain ⟨ls, hls, rfl⟩ := column?_isSound hleft
  obtain rfl := eq_of_expect? sign
  obtain ⟨rs, hrs, rfl⟩ := column?_isSound hright
  refine ⟨_, .mk hus ht named hvs ho hls hrs, ?_⟩
  rw [skipped, taken]
  simp

theorem order?_isSound : IsSound order? OrderBy.Spelled := by
  intro ts o r h
  simp only [order?, Option.bind_eq_bind, Option.bind_eq_some_iff] at h
  obtain ⟨afterBy, byWord, ⟨column, rest⟩, hcolumn, h⟩ := h
  obtain ⟨b, hb, rfl⟩ := eq_of_keyword? byWord
  obtain ⟨us, hus, rfl⟩ := column?_isSound hcolumn
  cases desc : keyword? .desc rest with
  | some r' =>
    simp only [desc, Option.some.injEq, Prod.mk.injEq] at h
    obtain ⟨rfl, rfl⟩ := h
    obtain ⟨d, hd, rfl⟩ := eq_of_keyword? desc
    exact ⟨b :: (us ++ [d]), .descending hb hus hd, by simp⟩
  | none =>
    simp only [desc, Option.some.injEq, Prod.mk.injEq] at h
    obtain ⟨rfl, rfl⟩ := h
    obtain ⟨vs, hvs, skipped⟩ := skipKeyword_eq .asc rest
    refine ⟨b :: (us ++ vs), .ascending hb hus hvs, ?_⟩
    rw [List.cons_append, List.append_assoc, ← skipped]

theorem window?_isSound : IsSound window? (Bounds Operand.Spelled) := by
  intro ts w r h
  simp only [window?, Option.bind_eq_bind, Option.bind_eq_some_iff] at h
  obtain ⟨⟨limit, rest⟩, hlimit, ⟨offset, r'⟩, hoffset, h⟩ := h
  simp only [Option.some.injEq, Prod.mk.injEq] at h
  obtain ⟨rfl, rfl⟩ := h
  obtain ⟨us, hus, rfl⟩ := operand?_isSound hlimit
  obtain ⟨vs, hvs, rfl⟩ := clause?_isSound .offset operand?_isSound hoffset
  exact ⟨us ++ vs, .mk hus hvs, by simp⟩

/-! ## Statements -/

theorem insert?_isSound : IsSound insert? Insert.Spelled := by
  intro ts s r h
  simp only [insert?, Option.bind_eq_bind, Option.bind_eq_some_iff] at h
  obtain ⟨afterInto, into, ⟨table, rest⟩, htable, ⟨columns, rest'⟩, hcolumns, afterValues,
    valuesWord, ⟨values, r'⟩, hvalues, h⟩ := h
  simp only [Option.some.injEq, Prod.mk.injEq] at h
  obtain ⟨rfl, rfl⟩ := h
  obtain ⟨i, hi, rfl⟩ := eq_of_keyword? into
  obtain ⟨named, rfl⟩ := eq_of_name? htable
  obtain ⟨us, hus, rfl⟩ := eq_of_enclosed? name?_isSound hcolumns
  obtain ⟨v, hv, rfl⟩ := eq_of_keyword? valuesWord
  obtain ⟨vs, hvs, rfl⟩ := eq_of_enclosed? operand?_isSound hvalues
  exact ⟨_, .mk hi named hus hv hvs, by simp⟩

theorem select?_isSound : IsSound select? (Select.Spelled Operand.Spelled) := by
  intro ts s r h
  simp only [select?, Option.bind_eq_bind, Option.bind_eq_some_iff] at h
  obtain ⟨⟨projection, r₀⟩, hprojection, r₁, from_, ⟨table, r₂⟩, htable, ⟨short, r₃⟩, hshort,
    ⟨join, r₄⟩, hjoin, ⟨conditions, r₅⟩, hconditions, ⟨order, r₆⟩, horder, ⟨window, r₇⟩, hwindow,
    h⟩ := h
  simp only [Option.some.injEq, Prod.mk.injEq] at h
  obtain ⟨rfl, rfl⟩ := h
  obtain ⟨ps, hps, rfl⟩ := list?_isSound projection?_isSound hprojection
  obtain ⟨f, hf, rfl⟩ := eq_of_keyword? from_
  obtain ⟨named, rfl⟩ := eq_of_name? htable
  obtain ⟨ss, hss, rfl⟩ := secondName?_isSound hshort
  obtain ⟨js, hjs, rfl⟩ := clause?_isSound .left join?_isSound hjoin
  obtain ⟨cs, hcs, rfl⟩ := clause?_isSound .where conditions?_isSound hconditions
  obtain ⟨os, hos, rfl⟩ := clause?_isSound .order order?_isSound horder
  obtain ⟨ws, hws, rfl⟩ := clause?_isSound .limit window?_isSound hwindow
  exact ⟨_, .mk hps hf named hss hjs hcs hos hws, by simp⟩

theorem update?_isSound : IsSound update? Update.Spelled := by
  intro ts s r h
  simp only [update?, Option.bind_eq_bind, Option.bind_eq_some_iff] at h
  obtain ⟨⟨table, rest⟩, htable, afterSet, set, ⟨assignments, rest'⟩, hassignments,
    ⟨conditions, r'⟩, hconditions, h⟩ := h
  simp only [Option.some.injEq, Prod.mk.injEq] at h
  obtain ⟨rfl, rfl⟩ := h
  obtain ⟨named, rfl⟩ := eq_of_name? htable
  obtain ⟨t, ht, rfl⟩ := eq_of_keyword? set
  obtain ⟨us, hus, rfl⟩ := list?_isSound assignment?_isSound hassignments
  obtain ⟨w, vs, hw, hvs, rfl⟩ := eq_of_where? hconditions
  exact ⟨_, .mk named ht hus hw hvs, by simp⟩

theorem delete?_isSound : IsSound delete? Delete.Spelled := by
  intro ts s r h
  simp only [delete?, Option.bind_eq_bind, Option.bind_eq_some_iff] at h
  obtain ⟨afterFrom, from_, ⟨table, rest⟩, htable, ⟨conditions, r'⟩, hconditions, h⟩ := h
  simp only [Option.some.injEq, Prod.mk.injEq] at h
  obtain ⟨rfl, rfl⟩ := h
  obtain ⟨f, hf, rfl⟩ := eq_of_keyword? from_
  obtain ⟨named, rfl⟩ := eq_of_name? htable
  obtain ⟨w, us, hw, hus, rfl⟩ := eq_of_where? hconditions
  exact ⟨_, .mk hf named hw hus, rfl⟩

theorem statement?_isSound : IsSound statement? (Statement.Spelled Operand.Spelled) := by
  intro ts s r h
  unfold statement? at h
  split at h
  · next w rest =>
    split at h
    · next hw =>
      obtain ⟨s, hs, rfl⟩ := exists_of_map h
      obtain ⟨us, hus, rfl⟩ := insert?_isSound hs
      exact ⟨.word w :: us, .insert ⟨w, rfl, hw⟩ hus, rfl⟩
    split at h
    · next hw =>
      obtain ⟨s, hs, rfl⟩ := exists_of_map h
      obtain ⟨us, hus, rfl⟩ := select?_isSound hs
      exact ⟨.word w :: us, .select ⟨w, rfl, hw⟩ hus, rfl⟩
    split at h
    · next hw =>
      obtain ⟨s, hs, rfl⟩ := exists_of_map h
      obtain ⟨us, hus, rfl⟩ := update?_isSound hs
      exact ⟨.word w :: us, .update ⟨w, rfl, hw⟩ hus, rfl⟩
    split at h
    · next hw =>
      obtain ⟨s, hs, rfl⟩ := exists_of_map h
      obtain ⟨us, hus, rfl⟩ := delete?_isSound hs
      exact ⟨.word w :: us, .delete ⟨w, rfl, hw⟩ hus, rfl⟩
    · exact absurd h nofun
  · exact absurd h nofun

end OfferBook.Token
