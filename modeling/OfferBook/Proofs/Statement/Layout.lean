import OfferBook.Proofs.Statement.Parts
import OfferBook.Proofs.Text.Characters

/-! # Statements as text

* `Token.Written` — how one token is written.
* `Token.Laid` — how tokens are laid out: blanks between them, where they are needed or wanted,
  and possibly a semicolon at the end.
* `Token.laid_of_scanChars` — a text is laid out as the tokens found in it.
* `Token.scanChars_of_laid` — and the tokens of a text are found, where words and numbers stand
  apart.
-/

namespace OfferBook

namespace Token

theorem not_continuesWord_of_isBlank {c : Char} (h : Text.isBlank c) : continuesWord c = false := by
  obtain ⟨n, hn, rfl⟩ := Text.exists_code_of_isBlank h
  have blanks : ∀ n ∈ Text.blankCodes, continuesWord (Char.ofNat n) = false := by decide +kernel
  exact blanks n hn

theorem continuesWord_of_startsWord {c : Char} (h : startsWord c) : continuesWord c := by
  simp only [startsWord, continuesWord, Bool.or_eq_true, decide_eq_true_eq] at h ⊢
  refine h.imp_left fun h => ?_
  unfold Text.isAlphabetic at h
  unfold Text.isAlphanumeric
  split at h
  · rw [if_pos (by assumption), Char.isAlphanum, h, Bool.true_or]
  · rw [if_neg (by assumption), h, Bool.true_or]

theorem continuesWord_of_isAsciiDigit {c : Char} (h : isAsciiDigit c) : continuesWord c :=
  Text.forall_isAsciiDigit h (by decide)

theorem not_startsWord_of_isAsciiDigit {c : Char} (h : isAsciiDigit c) : startsWord c = false :=
  Text.forall_isAsciiDigit h (by decide)

/-! ## How tokens are written -/

abbrev IsQuote (c : Char) : Prop := c = '\'' ∨ c = '"'

/-- A text with each quote in it doubled. -/
def doubled (quote : Char) (s : List Char) : List Char :=
  s.flatMap fun c => if c = quote then [quote, quote] else [c]

/-- What a token is written as. Texts stand in quotes of one kind, which are doubled in them. -/
inductive Written : Token → List Char → Prop
  | word {c : Char} {cs : List Char} (first : startsWord c) (others : cs.all continuesWord) :
      Written (.word (String.ofList (c :: cs))) (c :: cs)
  | number {c : Char} {cs : List Char} (first : startsNumber c cs)
      (others : cs.all continuesNumber) : Written (.number (String.ofList (c :: cs))) (c :: cs)
  | text {quote : Char} (s : List Char) (h : IsQuote quote) :
      Written (.text (String.ofList s)) (quote :: (doubled quote s ++ [quote]))
  | sign (c : Char) : Written (ofSign c) [c]

/-- Words and numbers. -/
def isLong : Token → Bool
  | .word _ | .number _ => true
  | _ => false

/-- Two words or numbers, which would go on with each other. -/
def BothLong (t u : Token) : Prop := t.isLong ∧ u.isLong

/-- Tokens one after the other, with any blanks between them, and at the end possibly a semicolon.
    Two neighbours that are to stand apart have at least one blank between them. -/
inductive Laid (apart : Token → Token → Prop) : List Token → List Char → Prop
  | finish {g : List Char} (h : g.all Text.isBlank) : Laid apart [] g
  | semicolon {g g' : List Char} (h : g.all Text.isBlank) (h' : g'.all Text.isBlank) :
      Laid apart [] (g ++ ';' :: g')
  | token {t : Token} {ts : List Token} {g cs rest : List Char} (h : g.all Text.isBlank)
      (written : t.Written cs)
      (between : Ahead (fun u => apart t u → ∃ c ∈ rest.head?, Text.isBlank c) ts)
      (more : Laid apart ts rest) : Laid apart (t :: ts) (g ++ (cs ++ rest))

/-! ## Texts between quotes -/

section Quotes

variable {q : Char} {cs s rest : List Char}

theorem readText_doubled (behind : ∀ c ∈ rest.head?, c ≠ q) :
    readText q (doubled q s ++ q :: rest) = some (s, rest) := by
  induction s with
  | nil =>
    cases rest with
    | nil => simp [doubled, readText]
    | cons d r =>
      have hd : d ≠ q := behind d rfl
      simp [doubled, readText, hd]
  | cons c s ih =>
    by_cases hc : c = q
    · subst hc
      have : doubled c (c :: s) ++ c :: rest = c :: c :: (doubled c s ++ c :: rest) := by
        simp [doubled]
      rw [this, readText, if_pos rfl, if_pos rfl, ih]
      rfl
    · obtain ⟨d, r, hr⟩ : ∃ d r, doubled q s ++ q :: rest = d :: r :=
        List.exists_cons_of_ne_nil (by simp)
      have : doubled q (c :: s) ++ q :: rest = c :: d :: r := by
        rw [← hr]
        simp [doubled, hc]
      rw [this, readText, if_neg hc, ← hr, ih]
      rfl

theorem eq_doubled_of_readText (h : readText q cs = some (s, rest)) :
    cs = doubled q s ++ q :: rest := by
  fun_induction readText q cs generalizing s rest with
  | case1 => cases h
  | case2 =>
    obtain ⟨rfl, rfl⟩ := Prod.mk.inj (Option.some.inj h)
    rfl
  | case3 => cases h
  | case4 r ih =>
    obtain ⟨⟨t, u⟩, ht, he⟩ := Option.map_eq_some_iff.mp h
    obtain ⟨rfl, rfl⟩ := Prod.mk.inj he
    rw [ih ht]
    simp [doubled]
  | case5 d r hd =>
    obtain ⟨rfl, rfl⟩ := Prod.mk.inj (Option.some.inj h)
    rfl
  | case6 c d r hc ih =>
    obtain ⟨⟨t, u⟩, ht, he⟩ := Option.map_eq_some_iff.mp h
    obtain ⟨rfl, rfl⟩ := Prod.mk.inj he
    rw [ih ht]
    simp [doubled, hc]

end Quotes

/-! ## A text is laid out as its tokens -/

theorem Laid.blank {apart : Token → Token → Prop} {ts : List Token} {c : Char} {r : List Char}
    (h : Laid apart ts r) (hc : Text.isBlank c) : Laid apart ts (c :: r) := by
  have more {gap : List Char} (hg : gap.all Text.isBlank) : (c :: gap).all Text.isBlank := by
    rw [List.all_cons, hc, hg, Bool.true_and]
  cases h with
  | finish h => exact .finish (more h)
  | semicolon h h' => exact .semicolon (more h) h'
  | token h written between rest => exact .token (more h) written between rest

/-- Without a blank before it, and with whatever it likes behind it. -/
theorem Laid.first {t : Token} {ts : List Token} {cs rest : List Char} (written : t.Written cs)
    (more : Laid (fun _ _ => False) ts rest) : Laid (fun _ _ => False) (t :: ts) (cs ++ rest) :=
  .token (g := []) rfl written (fun _ _ => False.elim) more

theorem startsNumber_takeWhile {c : Char} {r : List Char} (h : startsNumber c r) :
    startsNumber c (r.takeWhile continuesNumber) := by
  cases r with
  | nil => exact h
  | cons d r =>
    by_cases hd : continuesNumber d
    · rwa [List.takeWhile_cons_of_pos hd]
    · simp_all [startsNumber, continuesNumber]

theorem laid_of_scanChars {cs : List Char} {ts : List Token} (h : scanChars cs = some ts) :
    Laid (fun _ _ => False) ts cs := by
  fun_induction scanChars cs generalizing ts with
  | case1 =>
    obtain rfl := Option.some.inj h
    exact .finish rfl
  | case2 c r blank ih => exact (ih h).blank blank
  | case3 c r blank last =>
    obtain rfl := Option.some.inj h
    obtain ⟨rfl, blanks⟩ := last
    exact .semicolon (g := []) rfl blanks
  | case4 => exact absurd h nofun
  | case5 c r blank last quote s rest read ih =>
    obtain ⟨us, hus, rfl⟩ := Option.map_eq_some_iff.mp h
    rw [eq_doubled_of_readText read, List.append_cons]
    exact .first (.text s quote) (ih hus)
  | case6 c r blank last quote starts ih =>
    obtain ⟨us, hus, rfl⟩ := Option.map_eq_some_iff.mp h
    have written : Written _ (c :: r.takeWhile continuesNumber) :=
      .number (startsNumber_takeWhile starts) List.all_takeWhile
    have := Laid.first written (ih hus)
    rwa [List.cons_append, List.takeWhile_append_dropWhile] at this
  | case7 c r blank last quote _ starts ih =>
    obtain ⟨us, hus, rfl⟩ := Option.map_eq_some_iff.mp h
    have written : Written _ (c :: r.takeWhile continuesWord) := .word starts List.all_takeWhile
    have := Laid.first written (ih hus)
    rwa [List.cons_append, List.takeWhile_append_dropWhile] at this
  | case8 c r blank last quote _ _ ih =>
    obtain ⟨us, hus, rfl⟩ := Option.map_eq_some_iff.mp h
    exact .first (.sign c) (ih hus)

/-! ## The tokens of a laid out text are found -/

theorem scanChars_blank {c : Char} {r : List Char} (h : Text.isBlank c) :
    scanChars (c :: r) = scanChars r := by
  rw [scanChars, if_pos h]

theorem scanChars_gap {gap r : List Char} (h : gap.all Text.isBlank) :
    scanChars (gap ++ r) = scanChars r := by
  induction gap with
  | nil => rfl
  | cons c gap ih =>
    rw [List.all_cons, Bool.and_eq_true] at h
    rw [List.cons_append, scanChars_blank h.1, ih h.2]

theorem not_isBlank_of_continuesWord {c : Char} (h : continuesWord c) : Text.isBlank c = false := by
  cases hb : Text.isBlank c with
  | false => rfl
  | true => exact absurd (h.symm.trans (not_continuesWord_of_isBlank hb)) nofun

/-- A number begins with a digit or a minus sign. -/
theorem startsNumber_cases {c : Char} {cs : List Char} (h : startsNumber c cs) :
    isAsciiDigit c ∨ c = '-' := by
  simp only [startsNumber, Bool.or_eq_true, Bool.and_eq_true, decide_eq_true_eq] at h
  exact h.imp_right And.left

/-- What holds of each sign holds of a character that is one. -/
theorem of_sign (P : Char → Prop) [DecidablePred P] {c : Char}
    (plain : (ofSign c).isOther = false)
    (signs : ['?', ',', '.', '(', ')', '=', '*'].all fun c => decide (P c)) : P c := by
  refine of_decide_eq_true (List.all_eq_true.mp signs c ?_)
  unfold ofSign at plain
  split at plain <;> simp_all [isOther]

section Heads

variable {apart : Token → Token → Prop} {t : Token} {ts : List Token} {c d : Char}
  {cs rest : List Char}

/-- What a text begins with: a blank, the semicolon at its end, or its first token. -/
theorem Laid.head (h : Laid apart ts rest) (hc : c ∈ rest.head?) :
    Text.isBlank c ∨ c = ';' ∨ ∃ t ∈ ts.head?, ∃ cs, t.Written (c :: cs) := by
  have blank {gap r : List Char} (hg : gap.all Text.isBlank) (ne : gap ≠ [])
      (hc : c ∈ (gap ++ r).head?) : Text.isBlank c := by
    obtain ⟨b, gap, rfl⟩ := List.exists_cons_of_ne_nil ne
    obtain rfl : b = c := by simpa using hc
    exact List.all_eq_true.mp hg b List.mem_cons_self
  cases h with
  | finish h =>
    cases rest with
    | nil => exact absurd hc nofun
    | cons b gap => exact .inl (blank (r := []) h nofun (by simpa using hc))
  | @semicolon gap _ h =>
    cases gap with
    | nil => exact .inr (.inl (by simpa using hc.symm))
    | cons b gap => exact .inl (blank h nofun hc)
  | @token t ts gap cs rest h written =>
    cases gap with
    | cons b gap => exact .inl (blank h nofun hc)
    | nil =>
      refine .inr (.inr ⟨t, rfl, ?_⟩)
      obtain ⟨d, cs, rfl⟩ : ∃ d ds, cs = d :: ds := by cases written <;> exact ⟨_, _, rfl⟩
      obtain rfl : d = c := by simpa using hc
      exact ⟨cs, written⟩

/-- Behind a word or a number, blanks or signs keep the next word or number apart. -/
theorem Laid.not_continuesWord (h : Laid apart ts rest) (plain : Ahead (·.isOther = false) ts)
    (between : Ahead (fun u => u.isLong → ∃ c ∈ rest.head?, Text.isBlank c) ts)
    (hc : c ∈ rest.head?) : continuesWord c = false := by
  rcases h.head hc with blank | rfl | ⟨t, ht, cs, written⟩
  · exact not_continuesWord_of_isBlank blank
  · decide
  · have long (hl : t.isLong) : continuesWord c = false := by
      obtain ⟨b, hb, blank⟩ := between t ht hl
      obtain rfl : b = c := Option.some.inj (hb.symm.trans hc)
      exact not_continuesWord_of_isBlank blank
    cases written with
    | word => exact long rfl
    | number => exact long rfl
    | text s quote => rcases quote with rfl | rfl <;> decide
    | sign =>
      exact of_sign (continuesWord · = false) (plain _ ht) (by decide)

/-- No text, unless its first token is one, begins with what only that token begins with. -/
theorem Laid.head_ne (h : Laid apart ts rest) (blank : Text.isBlank d = false) (last : d ≠ ';')
    (written : ∀ t ∈ ts.head?, ∀ cs, ¬ t.Written (d :: cs)) : ∀ c ∈ rest.head?, c ≠ d := by
  rintro c hc rfl
  rcases h.head hc with h | h | ⟨t, ht, cs, h⟩
  · exact absurd (h.symm.trans blank) nofun
  · exact last h
  · exact written t ht cs h

theorem Written.eq_dot (h : t.Written ('.' :: cs)) : t = .dot := by
  generalize hd : '.' :: cs = ds at h
  cases h with
  | word first =>
    obtain ⟨rfl, -⟩ := List.cons.inj hd
    exact absurd first (by decide)
  | number first =>
    obtain ⟨rfl, -⟩ := List.cons.inj hd
    exact absurd (startsNumber_cases first) (by decide)
  | text s quote =>
    obtain ⟨rfl, -⟩ := List.cons.inj hd
    exact absurd quote (by simp [IsQuote])
  | sign =>
    obtain ⟨rfl, -⟩ := List.cons.inj hd
    rfl

theorem Written.text_of_isQuote (h : t.Written (d :: cs)) (quote : IsQuote d)
    (plain : t.isOther = false) : ∃ s, t = .text s := by
  cases h with
  | word first => rcases quote with rfl | rfl <;> exact absurd first (by decide)
  | number first =>
    rcases quote with rfl | rfl <;> exact absurd (startsNumber_cases first) (by decide)
  | text s => exact ⟨_, rfl⟩
  | sign => rcases quote with rfl | rfl <;> exact absurd plain (by decide)

end Heads

section Scanning

variable {c : Char} {cs rest : List Char}

theorem scanChars_word (first : startsWord c) (others : cs.all continuesWord)
    (behind : ∀ d ∈ rest.head?, continuesWord d = false) :
    scanChars (c :: (cs ++ rest)) =
      (scanChars rest).map (.word (String.ofList (c :: cs)) :: ·) := by
  have blank := not_isBlank_of_continuesWord (continuesWord_of_startsWord first)
  have ne {d : Char} (hd : startsWord d = false) : c ≠ d := by
    rintro rfl
    exact absurd (first.symm.trans hd) nofun
  have number : ¬ startsNumber c (cs ++ rest) := fun h => by
    rcases startsNumber_cases h with digit | minus
    · exact absurd (first.symm.trans (not_startsWord_of_isAsciiDigit digit)) nofun
    · exact ne (by decide) minus
  have last : c ≠ ';' := ne (by decide)
  have quote : ¬ (c = '\'' ∨ c = '"') := by
    rintro (h | h)
    · exact ne (by decide) h
    · exact ne (by decide) h
  obtain ⟨taken, left⟩ := Text.span_of_all others behind
  rw [scanChars, if_neg (by simp [blank]), if_neg fun h => last h.1, if_neg quote, if_neg number,
    if_pos first, taken, left]

theorem scanChars_number (first : startsNumber c cs) (others : cs.all continuesNumber)
    (behind : ∀ d ∈ rest.head?, continuesNumber d = false) :
    scanChars (c :: (cs ++ rest)) =
      (scanChars rest).map (.number (String.ofList (c :: cs)) :: ·) := by
  have ne {d : Char} (hd : isAsciiDigit d = false) (hm : d ≠ '-') : c ≠ d := by
    rintro rfl
    rcases startsNumber_cases first with digit | minus
    · exact absurd (digit.symm.trans hd) nofun
    · exact hm minus
  have blank : Text.isBlank c = false := by
    rcases startsNumber_cases first with digit | rfl
    · exact not_isBlank_of_continuesWord (continuesWord_of_isAsciiDigit digit)
    · decide
  have number : startsNumber c (cs ++ rest) := by
    cases cs with
    | nil =>
      have : isAsciiDigit c := by simpa [startsNumber] using first
      simp [startsNumber, this]
    | cons => exact first
  have last : c ≠ ';' := ne (by decide) (by decide)
  have quote : ¬ (c = '\'' ∨ c = '"') := by
    rintro (h | h)
    · exact ne (by decide) (by decide) h
    · exact ne (by decide) (by decide) h
  obtain ⟨taken, left⟩ := Text.span_of_all others behind
  rw [scanChars, if_neg (by simp [blank]), if_neg fun h => last h.1, if_neg quote, if_pos number,
    taken, left]

theorem scanChars_text {s : List Char} (quote : IsQuote c) (behind : ∀ d ∈ rest.head?, d ≠ c) :
    scanChars (c :: (doubled c s ++ c :: rest)) =
      (scanChars rest).map (.text (String.ofList s) :: ·) := by
  have blank : ¬ Text.isBlank c := by rcases quote with rfl | rfl <;> decide
  have last : c ≠ ';' := by rcases quote with rfl | rfl <;> decide
  rw [scanChars, if_neg blank, if_neg fun h => last h.1, if_pos quote]
  split
  · next h => cases h.symm.trans (readText_doubled behind)
  · next s' r h =>
    obtain ⟨rfl, rfl⟩ := Prod.mk.inj (Option.some.inj (h.symm.trans (readText_doubled behind)))
    rfl

theorem scanChars_sign (plain : (ofSign c).isOther = false) :
    scanChars (c :: rest) = (scanChars rest).map (ofSign c :: ·) := by
  obtain ⟨blank, last, quote, digit, minus, word⟩ := of_sign
    (fun c => Text.isBlank c = false ∧ c ≠ ';' ∧ ¬ (c = '\'' ∨ c = '"') ∧
      isAsciiDigit c = false ∧ c ≠ '-' ∧ startsWord c = false) plain (by decide)
  have number : ¬ startsNumber c rest := fun h => by
    rcases startsNumber_cases h with h | h
    · exact absurd (h.symm.trans digit) nofun
    · exact minus h
  rw [scanChars, if_neg (by simp [blank]), if_neg fun h => last h.1, if_neg quote, if_neg number,
    if_neg (by simp [word])]

end Scanning

/-- Tokens of a statement are found in every text in which words and numbers stand apart. -/
theorem scanChars_of_laid {ts : List Token} {cs : List Char}
    (h : Laid BothLong ts cs) (apart : Apart ts)
    (plain : ∀ t ∈ ts, t.isOther = false) : scanChars cs = some ts := by
  induction h with
  | @finish gap h =>
    rw [← List.append_nil gap, scanChars_gap h, scanChars]
  | @semicolon gap gap' h h' =>
    rw [scanChars_gap h, scanChars, if_neg (by decide), if_pos ⟨rfl, h'⟩]
  | @token t ts gap cs rest h written between more ih =>
    have plain' := (List.forall_mem_cons.mp plain).2
    have next : Ahead (·.isOther = false) ts := fun u hu => plain' u (List.mem_of_mem_head? hu)
    have found := ih apart.2 plain'
    rw [scanChars_gap h]
    cases written with
    | word first others =>
      have behind {d : Char} (hd : d ∈ rest.head?) : continuesWord d = false :=
        more.not_continuesWord next (between.mono fun _ h hl => h ⟨rfl, hl⟩) hd
      rw [List.cons_append, scanChars_word first others fun _ => behind, found]
      rfl
    | number first others =>
      have behind : ∀ d ∈ rest.head?, continuesNumber d = false := by
        intro d hd
        have word := more.not_continuesWord next (between.mono fun _ h hl => h ⟨rfl, hl⟩) hd
        have point : d ≠ '.' := more.head_ne (by decide) (by decide)
          (fun u hu _ hw => absurd (apart.1 rfl u hu) (by simp [hw.eq_dot, goesOn])) d hd
        have digit : isAsciiDigit d = false := by
          cases hi : isAsciiDigit d with
          | false => rfl
          | true => exact Bool.noConfusion ((continuesWord_of_isAsciiDigit hi).symm.trans word)
        simp [continuesNumber, digit, point]
      rw [List.cons_append, scanChars_number first others behind, found]
      rfl
    | @text quote s hq =>
      have behind : ∀ d ∈ rest.head?, d ≠ quote := by
        refine more.head_ne ?_ ?_ fun u hu _ hw => ?_
        · rcases hq with rfl | rfl <;> decide
        · rcases hq with rfl | rfl <;> decide
        · obtain ⟨s, rfl⟩ := hw.text_of_isQuote hq (next u hu)
          exact Bool.noConfusion (apart.1 rfl _ hu)
      rw [List.cons_append, List.append_assoc, List.singleton_append, scanChars_text hq behind,
        found]
      rfl
    | sign c =>
      rw [List.singleton_append, scanChars_sign (plain _ List.mem_cons_self), found]
      rfl

end Token

end OfferBook
