import OfferBook.Proofs.Statement.Complete

/-! # What the words and signs of a statement are for

* `Statement.names`, `Statement.operands` — the names in a statement, and its values in the order
  in which they are written.
* `Statement.IsFilled` — no list of a statement is empty, and rows are changed or deleted on some
  condition.
* `Token.Carries` — tokens spell some operands one after the other, and hold no other placeholder.
* `Token.Shows` — what tokens show of a part; `Statement.Spelled.shows` — of a whole statement.
-/

namespace OfferBook

/-! ## Names and operands -/

def Column.names (c : Column) : List String := c.qualifier.toList ++ [c.name]

namespace Condition

def names : Condition → List String
  | .isNull c | .isNotNull c | .equals c _ => c.names

def operands : Condition → List Operand
  | .isNull _ | .isNotNull _ => []
  | .equals _ o => [o]

end Condition

/-- The names in a projection. What qualifies a `*` names nothing. -/
def Projection.names : Projection → List String
  | .all | .allOf _ => []
  | .column c label => c.names ++ label.toList

def Join.names (j : Join) : List String :=
  j.table :: j.shortName :: (j.left.names ++ j.right.names)

namespace Statement

/-- All tables, columns, second names and labels. -/
def names : Statement → List String
  | .insert s => s.table :: s.columns
  | .select s =>
    s.projection.flatMap Projection.names ++ s.table :: (s.shortName.toList ++
      (s.join.toList.flatMap Join.names ++ (s.conditions.flatMap Condition.names ++
        s.orderBy.toList.flatMap (·.column.names))))
  | .update s =>
    s.table :: (s.assignments.map Prod.fst ++ s.conditions.flatMap Condition.names)
  | .delete s => s.table :: s.conditions.flatMap Condition.names

/-- The values, in the order of the text. -/
def operands : Statement → List Operand
  | .insert s => s.values
  | .select s => s.conditions.flatMap Condition.operands ++ (s.limit.toList ++ s.offset.toList)
  | .update s => s.assignments.map Prod.snd ++ s.conditions.flatMap Condition.operands
  | .delete s => s.conditions.flatMap Condition.operands

/-- No list is empty, and what changes or deletes rows has a condition. -/
def IsFilled : Statement → Prop
  | .insert s => s.columns ≠ [] ∧ s.values ≠ []
  | .select s => s.projection ≠ []
  | .update s => s.assignments ≠ [] ∧ s.conditions ≠ []
  | .delete s => s.conditions ≠ []

end Statement

namespace Token

/-! ## Kinds of tokens -/

/-- A value that is written in characters of its own. -/
def isValue : Token → Bool
  | .text _ | .number _ => true
  | _ => false

/-- What could be taken for more of a value that it follows. -/
def goesOn : Token → Bool
  | .text _ | .number _ | .dot => true
  | _ => false

def isOther : Token → Bool
  | .other _ => true
  | _ => false

/-- Keywords and signs: no values, and nothing that goes on with one. -/
structure IsMark (t : Token) : Prop where
  ne_placeholder : t ≠ .placeholder
  not_value : t.isValue = false
  not_goesOn : t.goesOn = false
  not_other : t.isOther = false

theorem isMark_comma : IsMark .comma := ⟨nofun, rfl, rfl, rfl⟩
theorem isMark_leftParen : IsMark .leftParen := ⟨nofun, rfl, rfl, rfl⟩
theorem isMark_rightParen : IsMark .rightParen := ⟨nofun, rfl, rfl, rfl⟩
theorem isMark_equal : IsMark .equal := ⟨nofun, rfl, rfl, rfl⟩
theorem isMark_star : IsMark .star := ⟨nofun, rfl, rfl, rfl⟩
theorem isMark_word (w : String) : IsMark (.word w) := ⟨nofun, rfl, rfl, rfl⟩

theorem isMark_of_spells {k : Keyword} {t : Token} (h : k.Spells t) : IsMark t := by
  obtain ⟨w, rfl, -⟩ := h
  exact isMark_word w

/-! ## Tokens that carry operands -/

/-- Tokens spell operands one after the other. A placeholder is one of these operands, so that
    there are as many as there are placeholders. -/
inductive Carries : List Operand → List Token → Prop
  | nil : Carries [] []
  | pass {os : List Operand} {t : Token} {ts : List Token} (h : t ≠ .placeholder)
      (more : Carries os ts) : Carries os (t :: ts)
  | operand {o : Operand} {os : List Operand} {us ts : List Token} (h : o.Spelled us)
      (more : Carries os ts) : Carries (o :: os) (us ++ ts)

theorem Carries.append {os os' : List Operand} {us vs : List Token} (h : Carries os us)
    (h' : Carries os' vs) : Carries (os ++ os') (us ++ vs) := by
  induction h with
  | nil => exact h'
  | pass ht _ ih => exact .pass ht ih
  | operand ho _ ih =>
    rw [List.append_assoc]
    exact .operand ho ih

theorem count_placeholder_of_spelled {o : Operand} {us : List Token} (h : o.Spelled us) :
    us.count .placeholder = if o = .placeholder then 1 else 0 := by
  cases h with
  | placeholder => rfl
  | null h | trueWord h | falseWord h =>
    obtain ⟨w, rfl, -⟩ := h
    rfl
  | _ => rfl

theorem Carries.count {os : List Operand} {us : List Token} (h : Carries os us) :
    us.count .placeholder = os.count .placeholder := by
  induction h with
  | nil => rfl
  | pass ht _ ih => rw [List.count_cons_of_ne ht, ih]
  | operand ho _ ih =>
    rw [List.count_append, count_placeholder_of_spelled ho, ih, List.count_cons, Nat.add_comm]
    simp

/-- No value is followed by something that could go on with it. -/
def Apart : List Token → Prop
  | [] => True
  | t :: r => (t.isValue = true → Ahead (·.goesOn = false) r) ∧ Apart r

theorem Apart.append {us vs : List Token} (h : Apart us) (h' : Apart vs)
    (between : Ahead (·.goesOn = false) vs) : Apart (us ++ vs) := by
  induction us with
  | nil => exact h'
  | cons t r ih =>
    refine ⟨fun ht => ?_, ih h.2⟩
    cases r with
    | nil => exact between
    | cons u r => exact h.1 ht

/-! ## What tokens show -/

/-- The tokens of a part: its names are among them, they carry its operands, and they can be told
    apart when they are written one after the other. -/
structure Shows (names : List String) (operands : List Operand) (us : List Token) : Prop where
  named : ∀ n ∈ names, IsName n ∧ .word n ∈ us
  carries : Carries operands us
  apart : Apart us
  plain : ∀ t ∈ us, t.isOther = false

namespace Shows

variable {ns ns' : List String} {os os' : List Operand} {us vs : List Token} {t : Token}

theorem nil : Shows [] [] [] := ⟨nofun, .nil, trivial, nofun⟩

theorem mark (h : Shows ns os us) (ht : IsMark t) : Shows ns os (t :: us) where
  named n hn := ⟨(h.named n hn).1, List.mem_cons_of_mem t (h.named n hn).2⟩
  carries := .pass ht.ne_placeholder h.carries
  apart := ⟨fun hv => absurd (ht.not_value.symm.trans hv) Bool.false_ne_true, h.apart⟩
  plain := List.forall_mem_cons.mpr ⟨ht.not_other, h.plain⟩

theorem name {n : String} (h : Shows ns os us) (hn : IsName n) :
    Shows (n :: ns) os (.word n :: us) where
  named := List.forall_mem_cons.mpr
    ⟨⟨hn, List.mem_cons_self⟩, (h.mark (isMark_word n)).named⟩
  carries := (h.mark (isMark_word n)).carries
  apart := (h.mark (isMark_word n)).apart
  plain := (h.mark (isMark_word n)).plain

theorem append (h : Shows ns os us) (h' : Shows ns' os' vs)
    (between : Ahead (·.goesOn = false) vs) : Shows (ns ++ ns') (os ++ os') (us ++ vs) where
  named n hn := by
    rcases List.mem_append.mp hn with hn | hn
    · exact ⟨(h.named n hn).1, List.mem_append_left vs (h.named n hn).2⟩
    · exact ⟨(h'.named n hn).1, List.mem_append_right us (h'.named n hn).2⟩
  carries := h.carries.append h'.carries
  apart := h.apart.append h'.apart between
  plain t ht := (List.mem_append.mp ht).elim (h.plain t) (h'.plain t)

/-- A part before a mark, and what follows the mark. -/
theorem append_mark (h : Shows ns os us) (ht : IsMark t) (h' : Shows ns' os' vs) :
    Shows (ns ++ ns') (os ++ os') (us ++ t :: vs) :=
  h.append (h'.mark ht) (ahead_cons.mpr ht.not_goesOn)

theorem of_names (h : Shows ns os us) (ns' : List String) (among : ∀ n ∈ ns', n ∈ ns) :
    Shows ns' os us :=
  ⟨fun n hn => h.named n (among n hn), h.carries, h.apart, h.plain⟩

end Shows

theorem flatMap_nothing {α β : Type} (l : List α) : (l.flatMap fun _ => ([] : List β)) = [] :=
  List.flatMap_eq_nil_iff.mpr fun _ _ => rfl

section Combinations

variable {α : Type} {spelled : α → List Token → Prop} {us : List Token}
  (names : α → List String) (operands : α → List Operand)

theorem shows_separated {sign : Token → Prop} (marks : ∀ t, sign t → IsMark t)
    (items : ∀ a us, spelled a us → Shows (names a) (operands a) us) {as : List α}
    (h : Separated sign spelled as us) : Shows (as.flatMap names) (as.flatMap operands) us := by
  induction h with
  | one ha => simpa using items _ _ ha
  | more ha ht _ ih =>
    rw [List.flatMap_cons, List.flatMap_cons]
    exact (items _ _ ha).append_mark (marks _ ht) ih

theorem shows_clause {k : Keyword} (part : ∀ a us, spelled a us → Shows (names a) (operands a) us)
    {o : Option α} (h : Clause k spelled o us) :
    Shows (o.toList.flatMap names) (o.toList.flatMap operands) us := by
  cases h with
  | absent => exact .nil
  | present ht ha => simpa using (part _ _ ha).mark (isMark_of_spells ht)

theorem shows_optionally {k : Keyword} (h : Optionally k us) : Shows [] [] us := by
  cases h with
  | absent => exact .nil
  | present ht => exact Shows.nil.mark (isMark_of_spells ht)

theorem shows_secondName {n : Option String} (h : SecondName n us) : Shows n.toList [] us := by
  cases h with
  | absent => exact .nil
  | plain hn => exact Shows.nil.name hn
  | named ht hn => exact (Shows.nil.name hn).mark (isMark_of_spells ht)

theorem ahead_of_opens {ks : List Keyword} (h : Ahead (Opens ks) us) :
    Ahead (·.goesOn = false) us :=
  h.mono fun _ ⟨_, _, ht⟩ => (isMark_of_spells ht).not_goesOn

theorem ahead_secondName {n : Option String} (h : SecondName n us) {r : List Token}
    (hr : Ahead (·.goesOn = false) r) : Ahead (·.goesOn = false) (us ++ r) := by
  cases h with
  | absent => exact hr
  | plain => exact ahead_cons.mpr rfl
  | named ht => exact ahead_cons.mpr (isMark_of_spells ht).not_goesOn

end Combinations

end Token

/-! ## Parts of statements -/

open Token

theorem Named.shows {n : String} {us : List Token} (h : Named n us) : Shows [n] [] us := by
  obtain ⟨hn⟩ := h
  exact Shows.nil.name hn

theorem Column.Spelled.shows {c : Column} {us : List Token} (h : c.Spelled us) :
    Shows c.names [] us := by
  cases h with
  | bare hn => exact Shows.nil.name hn
  | qualified hq hn =>
    have last := Shows.nil.name hn
    have dotted : Shows [_] [] (.dot :: [.word _]) :=
      ⟨fun n hn => ⟨(last.named n hn).1, List.mem_cons_of_mem _ (last.named n hn).2⟩,
        .pass nofun last.carries, ⟨nofun, last.apart⟩, by simp [isOther]⟩
    exact dotted.name hq

theorem Operand.Spelled.shows {o : Operand} {us : List Token} (h : o.Spelled us) :
    Shows [] [o] us := by
  have carries : Carries [o] us := by
    have := Carries.operand h .nil
    rwa [List.append_nil] at this
  refine ⟨nofun, carries, ?_, ?_⟩
  · cases h with
    | null h | trueWord h | falseWord h => exact ⟨fun _ => ahead_nil _, trivial⟩
    | now => exact ⟨nofun, nofun, fun _ => ahead_cons.mpr rfl, nofun, trivial⟩
    | _ => exact ⟨fun _ => ahead_nil _, trivial⟩
  · cases h with
    | null h | trueWord h | falseWord h =>
      obtain ⟨w, rfl, -⟩ := h
      simp [isOther]
    | _ => simp [isOther]

theorem Condition.Spelled.shows {c : Condition} {us : List Token} (h : c.Spelled us) :
    Shows c.names c.operands us := by
  cases h with
  | isNull column hi hn =>
    have := column.shows.append_mark (isMark_of_spells hi) (Shows.nil.mark (isMark_of_spells hn))
    simpa [names, operands] using this
  | isNotNull column hi hm hn =>
    have := column.shows.append_mark (isMark_of_spells hi)
      ((Shows.nil.mark (isMark_of_spells hn)).mark (isMark_of_spells hm))
    simpa [names, operands] using this
  | equals column operand =>
    have := column.shows.append_mark isMark_equal operand.shows
    simpa [names, operands] using this

theorem Condition.AllSpelled.shows {cs : List Condition} {us : List Token}
    (h : Condition.AllSpelled cs us) :
    Shows (cs.flatMap Condition.names) (cs.flatMap Condition.operands) us :=
  shows_separated _ _ (fun _ ht => isMark_of_spells ht) (fun _ _ hc => hc.shows) h

theorem Projection.Spelled.shows {p : Projection} {us : List Token} (h : p.Spelled us) :
    Shows p.names [] us := by
  cases h with
  | all => exact Shows.nil.mark isMark_star
  | allOf q =>
    exact ⟨nofun, .pass nofun (.pass nofun (.pass nofun .nil)), ⟨nofun, nofun, nofun, trivial⟩,
      by simp [isOther]⟩
  | column hc hl =>
    have := ahead_secondName hl (ahead_nil _)
    rw [List.append_nil] at this
    exact hc.shows.append (shows_secondName hl) this

theorem Assigned.shows {a : String × Operand} {us : List Token} (h : Assigned a us) :
    Shows [a.1] [a.2] us := by
  obtain ⟨hn, operand⟩ := h
  exact (operand.shows.mark isMark_equal).name hn

theorem Join.Spelled.shows {j : Join} {us : List Token} (h : j.Spelled us) :
    Shows j.names [] us := by
  obtain @⟨_, short, _, _, _, _, _, _, _, _, outer, hj, named, second, ho, left, right⟩ := h
  have sides := left.shows.append_mark isMark_equal right.shows
  have called := ((shows_secondName second).append_mark (isMark_of_spells ho) sides).name named
  have all := (shows_optionally outer).append_mark (isMark_of_spells hj) called
  refine all.of_names _ fun n hn => ?_
  -- A table without a second name is called by its own.
  cases short with
  | none =>
    simp only [names, Option.getD_none, List.mem_cons] at hn
    simp only [Option.toList_none, List.nil_append, List.mem_cons]
    exact hn.elim .inl id
  | some s => exact hn

theorem OrderBy.Spelled.shows {o : OrderBy} {us : List Token} (h : o.Spelled us) :
    Shows o.column.names [] us := by
  cases h with
  | ascending hb column asc =>
    have := column.shows.append (shows_optionally asc) (by
      cases asc with
      | absent => exact ahead_nil _
      | present ht => exact ahead_cons.mpr (isMark_of_spells ht).not_goesOn)
    rw [List.append_nil] at this
    exact this.mark (isMark_of_spells hb)
  | descending hb column hd =>
    have := column.shows.append_mark (isMark_of_spells hd) Shows.nil
    rw [List.append_nil] at this
    exact this.mark (isMark_of_spells hb)

theorem Bounds.shows {w : Operand × Option Operand} {us : List Token}
    (h : Bounds Operand.Spelled w us) : Shows [] (w.1 :: w.2.toList) us := by
  obtain ⟨limit, skipped⟩ := h
  have offset := shows_clause (fun _ => []) (fun o => [o])
    (fun _ _ h => Operand.Spelled.shows h) skipped
  have ahead := ahead_of_opens (ahead_clause skipped (ahead_nil (Opens [])))
  rw [List.append_nil] at ahead
  simpa using (limit.shows.append offset ahead).of_names [] nofun

/-! ## Statements -/

theorem Insert.Spelled.shows {s : Insert} {us : List Token} (h : s.Spelled us) :
    Shows (Statement.insert s).names (Statement.insert s).operands us := by
  obtain ⟨hi, named, columns, hv, values⟩ := h
  have comma : ∀ t, t = .comma → IsMark t := fun t ht => ht ▸ isMark_comma
  have names := shows_separated (fun n => [n]) (fun _ => []) comma
    (fun _ _ h => Named.shows h) columns
  have operands := shows_separated (fun _ => []) (fun o => [o]) comma
    (fun _ _ h => Operand.Spelled.shows h) values
  have closed := operands.append_mark isMark_rightParen Shows.nil
  have both := names.append_mark isMark_rightParen
    ((closed.mark isMark_leftParen).mark (isMark_of_spells hv))
  have all := ((both.mark isMark_leftParen).name named).mark (isMark_of_spells hi)
  simpa [Statement.names, Statement.operands, flatMap_nothing] using all

theorem Select.Spelled.shows {s : Select} {us : List Token} (h : s.Spelled Operand.Spelled us) :
    Shows (Statement.select s).names (Statement.select s).operands us := by
  obtain @⟨_, _, _, _, conditions, _, bounds, _, _, _, _, _, _, _, projected, hf, named, second,
    joined, tested, ordered, limited⟩ := h
  have window := shows_clause (fun _ => []) (fun w => w.1 :: w.2.toList)
    (fun _ _ h => Bounds.shows h) limited
  have behindOrder := ahead_clause limited (ahead_nil (Opens []))
  rw [List.append_nil] at behindOrder
  have behindTests := ahead_clause ordered behindOrder
  have behindJoin := ahead_clause tested behindTests
  have behindTable := ahead_clause joined behindJoin
  have orders := (shows_clause _ (fun _ => []) (fun _ _ h => OrderBy.Spelled.shows h)
    ordered).append window (ahead_of_opens behindOrder)
  have tests := (shows_clause _ _ (fun _ _ h => Condition.AllSpelled.shows h) tested).append orders
    (ahead_of_opens behindTests)
  have joins := (shows_clause _ (fun _ => []) (fun _ _ h => Join.Spelled.shows h)
    joined).append tests (ahead_of_opens behindJoin)
  have tables := ((shows_secondName second).append joins (ahead_of_opens behindTable)).name named
  have comma : ∀ t, t = .comma → IsMark t := fun t ht => ht ▸ isMark_comma
  have all := (shows_separated _ (fun _ => []) comma
    (fun _ _ h => Projection.Spelled.shows h) projected).append_mark (isMark_of_spells hf) tables
  cases conditions <;> cases bounds <;>
    simpa [Statement.names, Statement.operands, flatMap_nothing] using all

theorem Update.Spelled.shows {s : Update} {us : List Token} (h : s.Spelled us) :
    Shows (Statement.update s).names (Statement.update s).operands us := by
  obtain ⟨named, hs, assigned, hw, tested⟩ := h
  have comma : ∀ t, t = .comma → IsMark t := fun t ht => ht ▸ isMark_comma
  have items := shows_separated (fun a => [a.1]) (fun a => [a.2]) comma
    (fun _ _ h => Assigned.shows h) assigned
  have both := items.append_mark (isMark_of_spells hw) (Condition.AllSpelled.shows tested)
  have all := (both.mark (isMark_of_spells hs)).name named
  simpa only [Statement.names, Statement.operands, List.map_eq_flatMap] using all

theorem Delete.Spelled.shows {s : Delete} {us : List Token} (h : s.Spelled us) :
    Shows (Statement.delete s).names (Statement.delete s).operands us := by
  obtain ⟨hf, named, hw, tested⟩ := h
  have tests := Condition.AllSpelled.shows tested
  exact ((tests.mark (isMark_of_spells hw)).name named).mark (isMark_of_spells hf)

theorem Statement.Spelled.shows {s : Statement} {ts : List Token}
    (h : s.Spelled Operand.Spelled ts) : Shows s.names s.operands ts := by
  cases h with
  | insert ht spelled => exact spelled.shows.mark (isMark_of_spells ht)
  | select ht spelled => exact spelled.shows.mark (isMark_of_spells ht)
  | update ht spelled => exact spelled.shows.mark (isMark_of_spells ht)
  | delete ht spelled => exact spelled.shows.mark (isMark_of_spells ht)

theorem ne_nil_of_separated {α : Type} {sign : Token → Prop} {spelled : α → List Token → Prop}
    {as : List α} {us : List Token} (h : Separated sign spelled as us) : as ≠ [] := by
  cases h <;> exact nofun

theorem Statement.Spelled.isFilled {count : Operand → List Token → Prop} {s : Statement}
    {ts : List Token} (h : s.Spelled count ts) : s.IsFilled := by
  cases h with
  | insert _ spelled =>
    obtain ⟨_, _, columns, _, values⟩ := spelled
    exact ⟨ne_nil_of_separated columns, ne_nil_of_separated values⟩
  | select _ spelled =>
    obtain ⟨projected, _, _, _, _, _, _, _⟩ := spelled
    exact ne_nil_of_separated projected
  | update _ spelled =>
    obtain ⟨_, _, assigned, _, tested⟩ := spelled
    exact ⟨ne_nil_of_separated assigned, ne_nil_of_separated tested⟩
  | delete _ spelled =>
    obtain ⟨_, _, _, tested⟩ := spelled
    exact ne_nil_of_separated tested

end OfferBook
