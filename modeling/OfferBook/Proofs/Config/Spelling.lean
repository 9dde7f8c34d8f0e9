import OfferBook.Config.Environment
import OfferBook.Model.Decoding
import OfferBook.Proofs.Text.Characters

/-! # Spellings of variables

A variable's text is taken for a value where it looks like one, and where a text is wanted the
value is printed. The two together need not give the text back.

* `Variable.Bare`, `Variable.Reads` — what a text is read as, by the character that it begins with.
* `Variable.IsVerbatim` — the spellings of which nothing is lost; `Variable.isVerbatim_iff` — it is
  exactly these that are printed as they were written.
-/

namespace OfferBook

/-! ## Between blanks -/

theorem Text.trimChars_between {before inner after : List Char} (some : inner ≠ [])
    (blank : before.all isBlank) (blank' : after.all isBlank)
    (first : ∀ c ∈ inner.head?, isBlank c = false)
    (last : ∀ c ∈ inner.getLast?, isBlank c = false) :
    trimChars (before ++ inner ++ after) = inner := by
  have left : trimLeft (before ++ inner ++ after) = inner ++ after := by
    rw [List.append_assoc]
    refine (span_of_all blank ?_).2
    rwa [List.head?_append_of_ne_nil _ some]
  have right : (after.reverse ++ inner.reverse).dropWhile isBlank = inner.reverse := by
    refine (span_of_all (by simpa using blank') ?_).2
    rwa [List.head?_reverse]
  rw [trimChars, left, trimRight, List.reverse_append, right, List.reverse_reverse]

theorem Text.length_trimChars_le (cs : List Char) : (trimChars cs).length ≤ cs.length := by
  have left : (trimLeft cs).length ≤ cs.length := (List.dropWhile_suffix _).length_le
  have right : (trimChars cs).length ≤ (trimLeft cs).length :=
    (List.rdropWhile_prefix isBlank (trimLeft cs)).length_le
  exact right.trans left

/-! ## Between quotes -/

namespace Escaped

theorem eq_of_split? {cs raw rest : List Char} (h : split? cs = some (raw, rest)) :
    cs = raw ++ '"' :: rest := by
  fun_induction split? cs generalizing raw with
  | case1 => simp at h
  | case2 r =>
    simp only [Option.some.injEq, Prod.mk.injEq] at h
    simp [← h.1, h.2]
  | case3 c r ih =>
    obtain ⟨⟨s, t⟩, split, same⟩ := Option.map_eq_some_iff.mp h
    simp only [Prod.mk.injEq] at same
    rw [← same.1, ih (same.2 ▸ split)]
    rfl
  | case4 c r _ _ ih =>
    obtain ⟨⟨s, t⟩, split, same⟩ := Option.map_eq_some_iff.mp h
    simp only [Prod.mk.injEq] at same
    rw [← same.1, ih (same.2 ▸ split)]
    rfl

theorem length_le_of_escape {escape : Option Char} {behind : Option (List Char)} {cs : List Char}
    {n : Nat} (h : (do some ((← escape) :: (← behind))) = some cs)
    (shorter : ∀ rest, behind = some rest → rest.length ≤ n) : cs.length ≤ n + 1 := by
  simp only [Option.bind_eq_bind, Option.bind_eq_some_iff, Option.some.injEq] at h
  obtain ⟨c, -, rest, decoded, rfl⟩ := h
  exact Nat.succ_le_succ (shorter rest decoded)

/-- Escapes stand for fewer characters than they are written with. -/
theorem length_decode?_le {allowed : Char → Bool} {raw cs : List Char}
    (h : decode? allowed raw = some cs) : cs.length ≤ raw.length := by
  fun_induction decode? allowed raw generalizing cs with
  | case1 => simp_all
  | case2 a b c d r ih =>
    have := length_le_of_escape h fun _ => ih
    simp only [List.length_cons]
    omega
  | case3 a b c d e f g h' r ih =>
    have := length_le_of_escape h fun _ => ih
    simp only [List.length_cons]
    omega
  | case4 c r _ _ ih =>
    have := length_le_of_escape h fun _ => ih
    simp only [List.length_cons]
    omega
  | case5 c r _ _ _ stands ih =>
    obtain ⟨rest, decoded, rfl⟩ := Option.map_eq_some_iff.mp h
    have := ih decoded
    simp only [List.length_cons]
    omega
  | case6 => simp at h

end Escaped

/-- Integers and doubles, finite or not. -/
def ConfigValue.isNumber : ConfigValue → Bool
  | .integer _ | .double _ | .nonFinite => true
  | _ => false

namespace Variable

/-! ## What a text is read as -/

theorem isNumber_of_double? {cs : List Char} {v : ConfigValue} (h : double? cs = some v) :
    v.isNumber = true := by
  unfold double? at h
  split at h
  · obtain ⟨d, -, rfl⟩ := Option.map_eq_some_iff.mp h
    cases Double.ofDecimal? d <;> rfl
  · cases h

/-- A plain text is a number or itself. -/
theorem plain_cases (cs : List Char) :
    plain cs = .text (String.ofList cs) ∨ (plain cs).isNumber = true := by
  unfold plain
  split
  · next v double => exact .inr (isNumber_of_double? double)
  · split
    · exact .inr rfl
    · split
      · exact .inr rfl
      · exact .inl rfl

/-- How a truth value is spelled. -/
def word (b : Bool) : List Char := if b then "true".toList else "false".toList

theorem isBlank_of_mem_word {b : Bool} {c : Char} (mem : c ∈ word b) : Text.isBlank c = false := by
  have ink : (word b).all (!Text.isBlank ·) = true := by cases b <;> decide
  simpa using List.all_eq_true.mp ink c mem

/-- What is read from the first character of a value on, and what is left behind it. -/
inductive Bare (cs : List Char) : Option (ConfigValue × List Char) → Prop
  | none : Bare cs none
  | bool (b : Bool) {rest : List Char} (spelled : cs = word b ++ rest) :
    Bare cs (some (.bool b, rest))
  | table (fields : List (String × ConfigValue)) (rest : List Char) (opens : cs.head? = some '{') :
    Bare cs (some (.table fields, rest))
  | array (items : List ConfigValue) (rest : List Char) (opens : cs.head? = some '[') :
    Bare cs (some (.array items, rest))
  /-- Between quotes there is more than the text, if anything has been escaped. -/
  | quoted {s : String} {quote : Char} {inner rest : List Char} (mark : quote = '"' ∨ quote = '\'')
      (spelled : cs = quote :: inner ++ quote :: rest) (shorter : s.toList.length ≤ inner.length) :
    Bare cs (some (.text s, rest))
  | plain (unquoted : ∀ c ∈ cs.head?, c ≠ '"' ∧ c ≠ '\'') :
    Bare cs (some (plain (Text.trimChars (cs.takeWhile (!isDelimiter ·))),
      cs.dropWhile (!isDelimiter ·)))

theorem bare (fuel : Nat) (cs : List Char) : Bare cs (readBare? fuel cs) := by
  cases fuel with
  | zero =>
    rw [readBare?]
    exact .none
  | succ fuel =>
    unfold readBare?
    split
    · exact .bool true rfl
    · exact .bool false rfl
    · cases readFields? fuel _ with
      | none => exact .none
      | some read => exact .table _ read.2 rfl
    · cases readItems? fuel _ with
      | none => exact .none
      | some read => exact .array read.1 read.2 rfl
    · next r =>
      unfold readQuoted?
      cases split : Escaped.split? r with
      | none => exact .none
      | some parts =>
        obtain ⟨raw, rest⟩ := parts
        cases decoded : Escaped.decode? Escaped.isPlain raw with
        | none =>
          simp only [Option.bind_eq_bind, Option.bind_some, decoded, Option.bind_none]
          exact .none
        | some cs =>
          simp only [Option.bind_eq_bind, Option.bind_some, decoded]
          refine .quoted (.inl rfl) (congrArg ('"' :: ·) (Escaped.eq_of_split? split)) ?_
          rw [String.toList_ofList]
          exact Escaped.length_decode?_le decoded
    · next c r => exact @Bare.quoted _ _ _ [c] r (.inr rfl) rfl (by simp)
    · exact .none
    · next other _ _ _ _ quote _ mark =>
      refine .plain fun c mem => ⟨?_, ?_⟩
      · rintro rfl
        obtain ⟨r, rfl⟩ := List.head?_eq_some_iff.mp mem
        exact quote r rfl
      · rintro rfl
        obtain ⟨r, rfl⟩ := List.head?_eq_some_iff.mp mem
        exact mark r rfl

/-- Whether a text begins with a quote, white space apart. -/
def opensQuote (text : String) : Bool :=
  (skipSpace text.toList).head?.any fun c => c == '"' || c == '\''

/-- What a whole text is read as, if it is. -/
inductive Reads (text : String) : Option ConfigValue → Prop
  | none : Reads text none
  | bool (b : Bool) (spelled : Text.trimChars text.toList = word b) : Reads text (some (.bool b))
  | table (fields : List (String × ConfigValue))
      (opens : (skipSpace text.toList).head? = some '{') : Reads text (some (.table fields))
  | array (items : List ConfigValue) (opens : (skipSpace text.toList).head? = some '[') :
    Reads text (some (.array items))
  | quoted {s : String} (opens : opensQuote text = true)
      (shorter : s.toList.length < (Text.trimChars text.toList).length) :
    Reads text (some (.text s))
  | text (unquoted : opensQuote text = false) : Reads text (some (.text (Text.trim text)))
  | number (number : (plain (Text.trimChars text.toList)).isNumber = true) :
    Reads text (some (plain (Text.trimChars text.toList)))

theorem isBlank_of_isSpace {c : Char} (h : isSpace c = true) : Text.isBlank c = true := by
  simp only [isSpace, Bool.or_eq_true, beq_iff_eq] at h
  rcases h with (((rfl | rfl) | rfl) | rfl) | rfl <;> decide

theorem all_isBlank {cs : List Char} (spaces : ∀ c ∈ cs, isSpace c = true) :
    cs.all Text.isBlank = true :=
  List.all_eq_true.mpr fun c mem => isBlank_of_isSpace (spaces c mem)

theorem not_isSpace_of_isDelimiter {c : Char} (h : isDelimiter c = true) : isSpace c = false := by
  simp only [isDelimiter, List.contains_iff_mem, List.mem_cons, List.not_mem_nil, or_false] at h
  rcases h with rfl | rfl | rfl | rfl | rfl <;> decide

/-- Only white space is left where nothing is after it is skipped. -/
theorem isSpace_of_skipped {cs : List Char} (skipped : skipSpace cs = []) :
    ∀ c ∈ cs, isSpace c = true := List.dropWhile_eq_nil_iff.mp skipped

/-- A value is trimmed of the white space around it, and of no more. -/
theorem trimChars_of_skipSpace {text inner rest : List Char} (some : inner ≠ [])
    (spelled : skipSpace text = inner ++ rest) (skipped : skipSpace rest = [])
    (first : ∀ c ∈ inner.head?, Text.isBlank c = false)
    (last : ∀ c ∈ inner.getLast?, Text.isBlank c = false) : Text.trimChars text = inner := by
  have cut : text = text.takeWhile isSpace ++ inner ++ rest := by
    rw [List.append_assoc, ← spelled]
    exact List.takeWhile_append_dropWhile.symm
  rw [cut]
  refine Text.trimChars_between some (all_isBlank ?_) (all_isBlank (isSpace_of_skipped skipped))
    first last
  exact fun c mem => List.mem_takeWhile_imp mem

theorem trimChars_skipSpace (cs : List Char) :
    Text.trimChars (skipSpace cs) = Text.trimChars cs := by
  have same : Text.trimLeft (skipSpace cs) = Text.trimLeft cs := by
    induction cs with
    | nil => rfl
    | cons c r ih =>
      cases space : isSpace c with
      | false => simp [skipSpace, space]
      | true =>
        have blank := isBlank_of_isSpace space
        simpa [skipSpace, space, Text.trimLeft, blank] using ih
  rw [Text.trimChars, same, Text.trimChars]

theorem exists_of_read? {text : String} {v : ConfigValue} (h : read? text = some v) :
    ∃ rest, readBare? (3 * text.length + 1) (skipSpace text.toList) = some (v, rest) ∧
      skipSpace rest = [] := by
  unfold read? readValue? at h
  cases read : readBare? (3 * text.length + 1) (skipSpace text.toList) with
  | none => simp [read] at h
  | some found =>
    obtain ⟨w, rest⟩ := found
    simp only [read, Option.bind_eq_bind, Option.bind_some] at h
    split at h
    · next u whole =>
      simp only [Option.some.injEq, Prod.mk.injEq] at whole h
      exact ⟨rest, by rw [whole.1, h], whole.2⟩
    · simp at h

theorem reads (text : String) : Reads text (read? text) := by
  cases read : read? text with
  | none => exact .none
  | some v =>
    obtain ⟨rest, first, skipped⟩ := exists_of_read? read
    have first := first ▸ bare (3 * text.length + 1) (skipSpace text.toList)
    cases first with
    | bool b spelled =>
      have some : word b ≠ [] := by cases b <;> simp [word]
      exact .bool b (trimChars_of_skipSpace some spelled skipped
        (fun c mem => isBlank_of_mem_word (List.mem_of_mem_head? mem))
        fun c mem => isBlank_of_mem_word (List.mem_of_mem_getLast? mem))
    | table fields _ opens => exact .table fields opens
    | array items _ opens => exact .array items opens
    | @quoted s quote inner _ mark spelled shorter =>
      have ink : Text.isBlank quote = false := by rcases mark with rfl | rfl <;> decide
      have trimmed : Text.trimChars text.toList = quote :: inner ++ [quote] := by
        refine trimChars_of_skipSpace (by simp) (by simp [spelled]) skipped ?_ ?_
        · simpa using ink
        · rw [List.getLast?_concat]
          simpa using ink
      refine .quoted ?_ ?_
      · rw [opensQuote, spelled]
        rcases mark with rfl | rfl <;> rfl
      · simp only [trimmed, List.length_append, List.length_cons, List.length_nil]
        omega
    | plain unquoted =>
      -- What ends a plain text is a mark and no white space, so that nothing is left.
      have nothing : (skipSpace text.toList).dropWhile (!isDelimiter ·) = [] := by
        have ends := List.head?_dropWhile_not (!isDelimiter ·) (skipSpace text.toList)
        cases left : (skipSpace text.toList).dropWhile (!isDelimiter ·) with
        | nil => rfl
        | cons c r =>
          rw [left] at ends skipped
          have mark : isDelimiter c = true := by simpa using ends
          rw [skipSpace, List.dropWhile_cons_of_neg (by simp [not_isSpace_of_isDelimiter mark])]
            at skipped
          cases skipped
      have all := List.dropWhile_eq_nil_iff.mp nothing
      rw [List.takeWhile_eq_self_iff.mpr all, trimChars_skipSpace]
      rcases plain_cases (Text.trimChars text.toList) with itself | number
      · rw [itself]
        refine .text ?_
        rw [opensQuote]
        cases head : (skipSpace text.toList).head? with
        | none => rfl
        | some c => simpa using unquoted c head
      · exact .number number

/-! ## What is printed as it was written -/

/-- The spellings of which nothing is lost: what is no value, a truth value, a text without quotes
    around it, and numbers and lists in the form in which they are printed. -/
def IsVerbatim (text : String) : Prop :=
  match read? text with
  | none | some (.bool _) => True
  | some (.text _) => opensQuote text = false
  | some (.table _) => False
  | some v => (Lenient.text v.toJson).map Text.trim = some (Text.trim text)

/-- The value of a text as text, without blanks around it. -/
def printed (text : String) : Option String :=
  (Lenient.text (value text).toJson).map Text.trim

/-- Tables apart, exactly those spellings are printed as they were written of which nothing is
    lost. -/
theorem isVerbatim_iff {text : String} (noTable : ∀ fields, read? text ≠ some (.table fields)) :
    IsVerbatim text ↔ printed text = some (Text.trim text) := by
  have first := reads text
  unfold IsVerbatim printed value
  generalize read? text = read at first noTable ⊢
  cases first with
  | none => exact iff_of_true trivial rfl
  | bool b spelled =>
    have word : Lenient.text (ConfigValue.bool b).toJson = some (Text.trim text) := by
      rw [Text.trim, spelled]
      cases b <;> rfl
    refine iff_of_true trivial ?_
    rw [Option.getD_some, word]
    exact congrArg some (Text.trim_trim text)
  | table fields => exact absurd rfl (noTable fields)
  | array items => exact Iff.rfl
  | @quoted s opens shorter =>
    refine iff_of_false (by simp [opens]) fun same => ?_
    -- Without its quotes the text is shorter than with them.
    have same : Text.trim s = Text.trim text := Option.some.inj same
    have fewer := Text.length_trimChars_le s.toList
    rw [Text.trim, Text.trim, String.ofList_inj] at same
    rw [same] at fewer
    omega
  | text unquoted => exact iff_of_true unquoted (congrArg some (Text.trim_trim text))
  | number number =>
    generalize plain (Text.trimChars text.toList) = v at number ⊢
    cases v with
    | integer n => exact Iff.rfl
    | double d => exact Iff.rfl
    | nonFinite => exact Iff.rfl
    | _ => cases number

variable {text : String}

theorem read?_ne_table (verbatim : IsVerbatim text) (fields : List (String × ConfigValue)) :
    read? text ≠ some (.table fields) := by
  intro table
  rw [IsVerbatim, table] at verbatim
  exact verbatim

theorem value_ne_table (noTable : ∀ fields, read? text ≠ some (.table fields))
    (fields : List (String × ConfigValue)) : value text ≠ .table fields := by
  intro table
  unfold value at table
  cases read : read? text with
  | none => simp [read] at table
  | some v =>
    rw [read, Option.getD_some] at table
    exact noTable fields (table ▸ read)

/-! ## Some such spellings -/

/-- The characters with which a text in quotes, a list or a table begins. -/
def openers : List Char := ['"', '\'', '[', '{']

/-- Nothing is lost of a text that does not begin as a text in quotes, a list or a table does,
    unless it is a number, and then nothing is where the number is printed in the same way. -/
theorem isVerbatim_of_bare (bare : ∀ c ∈ (skipSpace text.toList).head?, c ∉ openers)
    (number : (plain (Text.trimChars text.toList)).isNumber = true →
      Lenient.text (plain (Text.trimChars text.toList)).toJson = some (Text.trim text)) :
    IsVerbatim text := by
  have first := reads text
  unfold IsVerbatim
  generalize read? text = read at first ⊢
  cases first with
  | none => trivial
  | bool b spelled => trivial
  | table fields opens => exact absurd (bare _ opens) (by decide)
  | array items opens => exact absurd (bare _ opens) (by decide)
  | quoted opens shorter =>
    unfold opensQuote at opens
    cases head : (skipSpace text.toList).head? with
    | none => simp [head] at opens
    | some c =>
      have mark : c = '"' ∨ c = '\'' := by simpa [head] using opens
      rcases mark with rfl | rfl <;> exact absurd (bare _ head) (by decide)
  | text unquoted => exact unquoted
  | number isNumber =>
    have printed := number isNumber
    generalize plain (Text.trimChars text.toList) = v at isNumber printed ⊢
    have trimmed : (Lenient.text v.toJson).map Text.trim = some (Text.trim text) := by
      rw [printed, Option.map_some, Text.trim_trim]
    cases v with
    | integer n => exact trimmed
    | double d => exact trimmed
    | nonFinite => exact trimmed
    | _ => cases isNumber

theorem plain_intChars {n : Int} (low : -9223372036854775808 ≤ n) (high : n < longLimit) :
    plain (intChars n) = .integer n := by
  have noDouble : double? (intChars n) = none := by
    refine if_neg fun dot => ?_
    rcases mem_intChars (List.contains_iff_mem.mp dot) with minus | digit
    · cases minus
    · cases digit
  unfold plain
  rw [noDouble]
  dsimp only
  by_cases negative : n < 0
  · have unsigned : parseUnsigned? longLimit (intChars n) = none := by
      simp [intChars, negative, parseUnsigned?]
    have signed : parseSigned? (intChars n) = some n := by
      rw [parseSigned?, intOfChars?_intChars, Option.filter_some, if_pos]
      rw [fitsSigned_iff]
      omega
    rw [unsigned, signed]
  · have digits : intChars n = Nat.toDigits 10 n.natAbs := by simp [intChars, negative]
    have unsigned : parseUnsigned? longLimit (intChars n) = some n.toNat := by
      unfold parseUnsigned?
      split
      · next r minus =>
        have digit := List.all_eq_true.mp (Text.all_isAsciiDigit_toDigits n.natAbs) '-'
          (by rw [← digits, minus]; exact List.mem_cons_self)
        cases digit
      · rw [intOfChars?_intChars, Option.map_some, Option.filter_some, if_pos]
        simp only [decide_eq_true_eq]
        omega
    rw [unsigned]
    simp only [ConfigValue.integer.injEq]
    omega

/-- Nor is anything lost of an integer of 64 bits, signed or not, in its usual spelling. -/
theorem isVerbatim_intText {n : Int} (low : -9223372036854775808 ≤ n) (high : n < longLimit) :
    IsVerbatim (intText n) := by
  have trimmed : Text.trimChars (intText n).toList = intChars n := by
    rw [intText, String.toList_ofList, trimChars_intChars]
  refine isVerbatim_of_bare (fun c head opener => ?_) fun _ => ?_
  · have mem : c ∈ intChars n := by
      rw [intText, String.toList_ofList] at head
      exact (List.dropWhile_suffix _).subset (List.mem_of_mem_head? head)
    rcases mem_intChars mem with rfl | digit
    · exact absurd opener (by decide)
    · simp only [openers, List.mem_cons, List.not_mem_nil, or_false] at opener
      rcases opener with rfl | rfl | rfl | rfl <;> cases digit
  · rw [trimmed, plain_intChars low high, Text.trim, trimmed]
    rfl

end Variable

end OfferBook
