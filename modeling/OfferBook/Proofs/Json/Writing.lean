import OfferBook.Proofs.Json.Leaves

/-! # Whatever writes a value is read as it

* `Json.Written` — the texts of a value, with white space where printers put it.
* `Json.written_compactChars`, `Json.written_prettyChars` — both printers write their value.
* `Json.readValue?_of_written` — a text of a value is read as it, if the depth suffices.
* `Json.readTree?_of_written` — and so are whole texts.
-/

namespace OfferBook.Json

/-! ## Texts of values -/

mutual

/-- The texts of a value. A number may be written in any way in which it is read. -/
inductive Written : Json → List Char → Prop
  | null : Written .null ['n', 'u', 'l', 'l']
  | trueWord : Written (.bool true) ['t', 'r', 'u', 'e']
  | falseWord : Written (.bool false) ['f', 'a', 'l', 's', 'e']
  | number {n : Number} {cs : List Char} (h : readNumber? cs = some (n, [])) :
      Written (.number n) cs
  | text (s : String) : Written (.text s) (quote s)
  | noItems : Written (.array []) ['[', ']']
  | items {v : Json} {r : List Json} {g cs ds : List Char} (blank : g.all isSpace)
      (first : Written v cs) (others : WrittenItems r ds) :
      Written (.array (v :: r)) ('[' :: (g ++ (cs ++ ds)))
  | noFields : Written (.object []) ['{', '}']
  | fields {k : String} {v : Json} {r : List (String × Json)} {g cs ds : List Char}
      (blank : g.all isSpace) (first : WrittenField k v cs) (others : WrittenFields r ds) :
      Written (.object ((k, v) :: r)) ('{' :: (g ++ (cs ++ ds)))

/-- The texts of the items after the first one, with the closing bracket. -/
inductive WrittenItems : List Json → List Char → Prop
  | close {g : List Char} (blank : g.all isSpace) : WrittenItems [] (g ++ [']'])
  | more {v : Json} {r : List Json} {g cs ds : List Char} (blank : g.all isSpace)
      (first : Written v cs) (others : WrittenItems r ds) :
      WrittenItems (v :: r) (',' :: (g ++ (cs ++ ds)))

/-- The texts of a field. -/
inductive WrittenField : String → Json → List Char → Prop
  | mk {k : String} {v : Json} {g cs : List Char} (blank : g.all isSpace) (value : Written v cs) :
      WrittenField k v (quote k ++ ':' :: (g ++ cs))

/-- The texts of the fields after the first one, with the closing brace. -/
inductive WrittenFields : List (String × Json) → List Char → Prop
  | close {g : List Char} (blank : g.all isSpace) : WrittenFields [] (g ++ ['}'])
  | more {k : String} {v : Json} {r : List (String × Json)} {g cs ds : List Char}
      (blank : g.all isSpace) (first : WrittenField k v cs) (others : WrittenFields r ds) :
      WrittenFields ((k, v) :: r) (',' :: (g ++ (cs ++ ds)))

end

/-! ## Printers -/

mutual

theorem written_compactChars : ∀ v : Json, v.Numbers Number.ReadsBack → Written v v.compactChars
  | .null, _ => .null
  | .bool true, _ => .trueWord
  | .bool false, _ => .falseWord
  | .number _, h => .number h
  | .text s, _ => .text s
  | .array [], _ => .noItems
  | .array (v :: r), h => by
    rw [compactChars]
    exact .items (g := []) rfl (written_compactChars v h.1) (written_compactItems r h.2)
  | .object [], _ => .noFields
  | .object ((k, v) :: r), h => by
    have field : WrittenField k v (quote k ++ ':' :: compactChars v) :=
      .mk (g := []) rfl (written_compactChars v h.1)
    have := Written.fields (g := []) rfl field (written_compactFields r h.2)
    simpa [compactChars] using this

theorem written_compactItems : ∀ r : List Json, NumbersOfItems Number.ReadsBack r →
    WrittenItems r (compactItems r)
  | [], _ => .close (g := []) rfl
  | v :: r, h => by
    rw [compactItems]
    exact .more (g := []) rfl (written_compactChars v h.1) (written_compactItems r h.2)

theorem written_compactFields : ∀ r : List (String × Json), NumbersOfFields Number.ReadsBack r →
    WrittenFields r (compactFields r)
  | [], _ => .close (g := []) rfl
  | (k, v) :: r, h => by
    have field : WrittenField k v (quote k ++ ':' :: compactChars v) :=
      .mk (g := []) rfl (written_compactChars v h.1)
    have := WrittenFields.more (g := []) rfl field (written_compactFields r h.2)
    simpa [compactFields] using this

end

theorem all_isSpace_newline (level : Nat) : (newline level).all isSpace = true := by
  rw [newline, List.all_cons, List.all_replicate]
  split <;> rfl

mutual

theorem written_prettyChars : ∀ (v : Json) (level : Nat), v.Numbers Number.ReadsBack →
    Written v (v.prettyChars level)
  | .null, _, _ => .null
  | .bool true, _, _ => .trueWord
  | .bool false, _, _ => .falseWord
  | .number _, _, h => .number h
  | .text s, _, _ => .text s
  | .array [], _, _ => .noItems
  | .array (v :: r), level, h => by
    have := Written.items (all_isSpace_newline (level + 1)) (written_prettyChars v (level + 1) h.1)
      (written_prettyItems r level h.2)
    simpa [prettyChars] using this
  | .object [], _, _ => .noFields
  | .object ((k, v) :: r), level, h => by
    have field : WrittenField k v (quote k ++ ':' :: ' ' :: prettyChars (level + 1) v) :=
      .mk (g := [' ']) rfl (written_prettyChars v (level + 1) h.1)
    have := Written.fields (all_isSpace_newline (level + 1)) field
      (written_prettyFields r level h.2)
    simpa [prettyChars] using this

theorem written_prettyItems : ∀ (r : List Json) (level : Nat), NumbersOfItems Number.ReadsBack r →
    WrittenItems r (prettyItems level r)
  | [], level, _ => .close (all_isSpace_newline level)
  | v :: r, level, h => by
    have := WrittenItems.more (all_isSpace_newline (level + 1))
      (written_prettyChars v (level + 1) h.1) (written_prettyItems r level h.2)
    simpa [prettyItems] using this

theorem written_prettyFields : ∀ (r : List (String × Json)) (level : Nat),
    NumbersOfFields Number.ReadsBack r → WrittenFields r (prettyFields level r)
  | [], level, _ => .close (all_isSpace_newline level)
  | (k, v) :: r, level, h => by
    have field : WrittenField k v (quote k ++ ':' :: ' ' :: prettyChars (level + 1) v) :=
      .mk (g := [' ']) rfl (written_prettyChars v (level + 1) h.1)
    have := WrittenFields.more (all_isSpace_newline (level + 1)) field
      (written_prettyFields r level h.2)
    simpa [prettyFields] using this

end

/-! ## Reading -/

section Heads

variable {v : Json} {cs g rest : List Char}

theorem skipSpace_gap (blank : g.all isSpace) {c : Char} (ink : isSpace c = false) (r : List Char) :
    skipSpace (g ++ c :: r) = c :: r := by
  rw [skipSpace, List.dropWhile_append_of_pos (List.all_eq_true.mp blank),
    List.dropWhile_cons_of_neg (by simp [ink])]

theorem head_of_readNumber? {n : Number} {r : List Char} (h : readNumber? cs = some (n, r)) :
    ∃ c ds, cs = c :: ds ∧ (isAsciiDigit c ∨ c = '-') := by
  cases cs with
  | nil => exact absurd h (by simp [readNumber?, readMagnitude?, takeSignificand])
  | cons c ds =>
    refine ⟨c, ds, rfl, ?_⟩
    by_cases minus : c = '-'
    · exact .inr minus
    · cases digit : isAsciiDigit c with
      | true => exact .inl rfl
      | false =>
        unfold readNumber? at h
        split at h
        · next same => exact absurd (List.cons.inj same).1 minus
        · exact absurd h (by simp [readMagnitude?, takeSignificand, digit])

/-- What a number begins with begins nothing else. -/
theorem number_head {c : Char} (h : isAsciiDigit c ∨ c = '-') :
    isSpace c = false ∧ c ∉ ['n', 't', 'f', '"', '[', '{', ']', '}'] := by
  rcases h with digit | rfl
  · exact Text.forall_isAsciiDigit digit (by decide)
  · decide

/-- Values do not begin with white space, nor with what closes a list. -/
theorem Written.head (h : Written v cs) : ∃ c ds, cs = c :: ds ∧ isSpace c = false ∧ c ≠ ']' := by
  cases h with
  | number h =>
    obtain ⟨c, ds, rfl, head⟩ := head_of_readNumber? h
    obtain ⟨ink, other⟩ := number_head head
    exact ⟨c, ds, rfl, ink, fun same => other (by simp [same])⟩
  | _ => exact ⟨_, _, rfl, by decide, by decide⟩

theorem WrittenField.head {k : String} (h : WrittenField k v cs) : ∃ ds, cs = '"' :: ds := by
  obtain ⟨_, _⟩ := h
  exact ⟨_, rfl⟩

theorem stops_cons {c : Char} {r : List Char} (h : EndsNumber c) : Stops (c :: r) := by
  rintro d hd
  obtain rfl : c = d := Option.some.inj hd
  exact h

theorem stops_gap (blank : g.all isSpace) (h : Stops rest) : Stops (g ++ rest) := by
  cases g with
  | nil => exact h
  | cons c g =>
    refine stops_cons ?_
    rw [List.all_cons, Bool.and_eq_true] at blank
    have space : ((c = ' ' ∨ c = '\n') ∨ c = '\t') ∨ c = '\r' := by simpa [isSpace] using blank.1
    rcases space with ((rfl | rfl) | rfl) | rfl <;>
      exact ⟨by decide, by decide, by decide, by decide⟩

theorem WrittenItems.stops {r : List Json} (h : WrittenItems r cs) : Stops (cs ++ rest) := by
  cases h with
  | close blank =>
    rw [List.append_assoc]
    exact stops_gap blank (stops_cons ⟨by decide, by decide, by decide, by decide⟩)
  | more => exact stops_cons ⟨by decide, by decide, by decide, by decide⟩

theorem WrittenFields.stops {r : List (String × Json)} (h : WrittenFields r cs) :
    Stops (cs ++ rest) := by
  cases h with
  | close blank =>
    rw [List.append_assoc]
    exact stops_gap blank (stops_cons ⟨by decide, by decide, by decide, by decide⟩)
  | more => exact stops_cons ⟨by decide, by decide, by decide, by decide⟩

end Heads

theorem readValue?_number {n : Number} {cs g rest : List Char} {fuel depth : Nat}
    (blank : g.all isSpace) (h : readNumber? cs = some (n, [])) (stops : Stops rest) :
    readValue? (fuel + 1) depth (g ++ (cs ++ rest)) = some (.number n, rest) := by
  obtain ⟨c, ds, rfl, head⟩ := head_of_readNumber? h
  obtain ⟨ink, other⟩ := number_head head
  have read := readNumber?_append stops h
  rw [List.nil_append] at read
  rw [List.cons_append] at read ⊢
  rw [readValue?, skipSpace_gap blank ink]
  -- None of the other kinds of values begins as a number does.
  split
  · next same => exact absurd (by simp [(List.cons.inj same).1]) other
  · next same => exact absurd (by simp [(List.cons.inj same).1]) other
  · next same => exact absurd (by simp [(List.cons.inj same).1]) other
  · next same => exact absurd (by simp [(List.cons.inj same).1]) other
  · next same => exact absurd (by simp [(List.cons.inj same).1]) other
  · next same => exact absurd (by simp [(List.cons.inj same).1]) other
  · rw [read]
    rfl

theorem readQuoted?_ofList (s : String) (rest : List Char) :
    readQuoted? ((s.toList.flatMap escape ++ '"' :: rest).length + 1)
      (s.toList.flatMap escape ++ '"' :: rest) = some (s.toList, rest) := by
  have := length_le_flatMap_escape s.toList
  refine readQuoted?_quote s.toList ?_
  rw [List.length_append]
  omega

theorem quote_append (s : String) (rest : List Char) :
    quote s ++ rest = '"' :: (s.toList.flatMap escape ++ '"' :: rest) := by
  simp [quote]

/-- One part is read, and then another one: both, or neither. -/
theorem bind_both {α β γ : Type} {p q : Prop} [Decidable p] [Decidable q] {a : α} {b : β}
    {r s : List Char} {next : List Char → Option (β × List Char)} {f : α → β → γ}
    (h : next r = if q then some (b, s) else none) :
    ((if p then some (a, r) else none).bind fun x =>
      (next x.2).bind fun y => some (f x.1 y.1, y.2)) =
      if p ∧ q then some (f a b, s) else none := by
  by_cases hp : p
  · rw [if_pos hp, Option.bind_some, h]
    by_cases hq : q
    · rw [if_pos hq, if_pos ⟨hp, hq⟩, Option.bind_some]
    · rw [if_neg hq, if_neg fun both => hq both.2, Option.bind_none]
  · rw [if_neg hp, if_neg fun both => hp both.1, Option.bind_none]

mutual

/-- Behind white space, a text of a value is read as it, if lists and objects may be nested as deep
    as its own. -/
theorem readValue?_of_written {v : Json} {cs : List Char} (h : Written v cs) (fuel depth : Nat)
    {g : List Char} (rest : List Char) (blank : g.all isSpace) (stops : Stops rest)
    (enough : cs.length < fuel) :
    readValue? fuel depth (g ++ (cs ++ rest)) =
      if v.nesting ≤ depth then some (v, rest) else none := by
  obtain ⟨fuel, rfl⟩ : ∃ n, fuel = n + 1 := ⟨fuel - 1, by omega⟩
  have leaf {w : Json} (hw : w.nesting = 0) {o : Option (Json × List Char)} :
      o = some (w, rest) → o = if w.nesting ≤ depth then some (w, rest) else none := by
    intro same
    rw [same, hw, if_pos (Nat.zero_le depth)]
  cases h with
  | null =>
    refine leaf rfl ?_
    rw [List.cons_append, readValue?, skipSpace_gap blank rfl]
    rfl
  | trueWord =>
    refine leaf rfl ?_
    rw [List.cons_append, readValue?, skipSpace_gap blank rfl]
    rfl
  | falseWord =>
    refine leaf rfl ?_
    rw [List.cons_append, readValue?, skipSpace_gap blank rfl]
    rfl
  | number read => exact leaf rfl (readValue?_number blank read stops)
  | text s =>
    refine leaf rfl ?_
    rw [quote_append, readValue?, skipSpace_gap blank rfl]
    simp only [readQuoted?_ofList, Option.bind_eq_bind, Option.bind_some, String.ofList_toList]
  | noItems =>
    rw [List.cons_append, readValue?, skipSpace_gap blank rfl]
    cases depth with
    | zero => rfl
    | succ depth => simp [skipSpace, nesting, nestingItems, isSpace]
  | @items v r g' cs ds blank' first others =>
    rw [List.cons_append, readValue?, skipSpace_gap blank rfl]
    simp only [List.length_cons, List.length_append] at enough
    cases depth with
    | zero => rfl
    | succ depth =>
      have item := readValue?_of_written first fuel depth (g := []) (ds ++ rest) rfl others.stops
        (by omega)
      have items := readItems?_of_written others fuel depth rest (by omega)
      obtain ⟨c, ds', rfl, ink, other⟩ := first.head
      simp only [List.append_assoc, List.cons_append, List.nil_append, skipSpace_gap blank' ink]
        at item ⊢
      simp only [nesting, nestingItems, Nat.add_le_add_iff_right, Nat.max_le]
      split
      · next same => exact absurd (List.cons.inj same).1 other
      · simp only [item, Option.bind_eq_bind]
        exact bind_both (f := fun v r => Json.array (v :: r)) items
  | noFields =>
    rw [List.cons_append, readValue?, skipSpace_gap blank rfl]
    cases depth with
    | zero => rfl
    | succ depth => simp [skipSpace, nesting, nestingFields, isSpace]
  | @fields k v r g' cs ds blank' first others =>
    rw [List.cons_append, readValue?, skipSpace_gap blank rfl]
    simp only [List.length_cons, List.length_append] at enough
    cases depth with
    | zero => rfl
    | succ depth =>
      have field := readField?_of_written first fuel depth (g := []) (ds ++ rest) rfl others.stops
        (by omega)
      have fields := readFields?_of_written others fuel depth rest (by omega)
      obtain ⟨ds', rfl⟩ := first.head
      simp only [List.append_assoc, List.cons_append, List.nil_append,
        skipSpace_gap blank' (c := '"') rfl] at field ⊢
      simp only [nesting, nestingFields, Nat.add_le_add_iff_right, Nat.max_le]
      split
      · next same => exact absurd (List.cons.inj same).1 (by decide)
      · simp only [field, Option.bind_eq_bind]
        exact bind_both (f := fun e r => Json.object (e :: r)) fields
termination_by fuel

theorem readItems?_of_written {r : List Json} {cs : List Char} (h : WrittenItems r cs)
    (fuel depth : Nat) (rest : List Char) (enough : cs.length < fuel) :
    readItems? fuel depth (cs ++ rest) =
      if nestingItems r ≤ depth then some (r, rest) else none := by
  obtain ⟨fuel, rfl⟩ : ∃ n, fuel = n + 1 := ⟨fuel - 1, by omega⟩
  cases h with
  | close blank =>
    rw [List.append_assoc, List.singleton_append, readItems?, skipSpace_gap blank rfl]
    rfl
  | @more v r g cs ds blank first others =>
    simp only [List.length_cons, List.length_append] at enough
    have item := readValue?_of_written first fuel depth (ds ++ rest) blank others.stops (by omega)
    have items := readItems?_of_written others fuel depth rest (by omega)
    have comma := skipSpace_gap (g := []) rfl (c := ',') rfl (g ++ (cs ++ ds) ++ rest)
    rw [List.nil_append] at comma
    rw [List.cons_append, readItems?, comma]
    simp only [List.append_assoc, item, nestingItems, Nat.max_le, Option.bind_eq_bind]
    exact bind_both (f := List.cons) items
termination_by fuel

theorem readField?_of_written {k : String} {v : Json} {cs : List Char} (h : WrittenField k v cs)
    (fuel depth : Nat) {g : List Char} (rest : List Char) (blank : g.all isSpace)
    (stops : Stops rest) (enough : cs.length < fuel) :
    readField? fuel depth (g ++ (cs ++ rest)) =
      if v.nesting ≤ depth then some ((k, v), rest) else none := by
  obtain ⟨fuel, rfl⟩ : ∃ n, fuel = n + 1 := ⟨fuel - 1, by omega⟩
  cases h with
  | @mk _ _ g' cs blank' value =>
    simp only [List.length_cons, List.length_append] at enough
    have item := readValue?_of_written value fuel depth rest blank' stops (by omega)
    have colon := skipSpace_gap (g := []) rfl (c := ':') rfl (g' ++ (cs ++ rest))
    rw [List.nil_append] at colon
    rw [List.append_assoc, List.cons_append, List.append_assoc, quote_append, readField?,
      skipSpace_gap blank rfl]
    simp only [readQuoted?_ofList, Option.bind_eq_bind, Option.bind_some, String.ofList_toList,
      colon, item]
    split <;> rfl
termination_by fuel

theorem readFields?_of_written {r : List (String × Json)} {cs : List Char} (h : WrittenFields r cs)
    (fuel depth : Nat) (rest : List Char) (enough : cs.length < fuel) :
    readFields? fuel depth (cs ++ rest) =
      if nestingFields r ≤ depth then some (r, rest) else none := by
  obtain ⟨fuel, rfl⟩ : ∃ n, fuel = n + 1 := ⟨fuel - 1, by omega⟩
  cases h with
  | close blank =>
    rw [List.append_assoc, List.singleton_append, readFields?, skipSpace_gap blank rfl]
    rfl
  | @more k v r g cs ds blank first others =>
    simp only [List.length_cons, List.length_append] at enough
    have field := readField?_of_written first fuel depth (ds ++ rest) blank others.stops (by omega)
    have fields := readFields?_of_written others fuel depth rest (by omega)
    have comma := skipSpace_gap (g := []) rfl (c := ',') rfl (g ++ (cs ++ ds) ++ rest)
    rw [List.nil_append] at comma
    rw [List.cons_append, readFields?, comma]
    simp only [List.append_assoc, field, nestingFields, Nat.max_le, Option.bind_eq_bind]
    exact bind_both (f := List.cons) fields
termination_by fuel

end

/-- A whole text of a value is read as it, unless it is nested too deep. -/
theorem readTree?_of_written {v : Json} {cs : List Char} (h : Written v cs) (depth : Nat) :
    readTree? depth cs = if v.nesting ≤ depth then some v else none := by
  have read := readValue?_of_written h (cs.length + 1) depth (g := []) [] rfl
    (fun _ none => absurd none nofun) (Nat.lt_succ_self _)
  rw [List.nil_append, List.append_nil] at read
  rw [readTree?, read]
  by_cases fits : v.nesting ≤ depth
  · simp [fits, skipSpace]
  · simp [fits]

end OfferBook.Json
