import OfferBook.Json.Printer
import OfferBook.Json.Reader
import OfferBook.Proofs.Json.Values
import OfferBook.Proofs.Text.Characters

/-! # Texts and numbers are read back

* `Json.readQuoted?_quote` — whatever stands in a text, it is read as it was before it was quoted.
* `Json.EndsNumber`, `Json.readNumber?_append` — a number is read the same with or without what
  stands behind it, unless that could go on with it.
* `Json.readNumber?_intChars` — integers of 64 bits are read as what they are.
* `Number.ReadsBack` — a number that is read as it is written.
-/

namespace OfferBook

namespace Json

/-! ## Texts -/

section Texts

variable {c d : Char} {fuel : Nat} {r : List Char}

theorem readUnit?_hexPair {n : Nat} (h : n < 0x20) (r : List Char) :
    readUnit? ('0' :: '0' :: (hexPair n ++ r)) = some (Char.ofNat n, r) := by
  have digits : ∀ n < 0x20, hexDigit? (Nat.digitChar (n / 16 % 16)) = some (n / 16) ∧
      hexDigit? (Nat.digitChar (n % 16)) = some (n % 16) := by decide +kernel
  obtain ⟨high, low⟩ := digits n h
  have zero : hexDigit? '0' = some 0 := by decide
  have read : readHex? ('0' :: '0' :: (hexPair n ++ r)) = some (n, r) := by
    simp [readHex?, hexPair, zero, high, low]
    omega
  simp only [readUnit?, read, Option.bind_eq_bind, Option.bind_some]
  rw [if_neg (by omega), if_neg (by omega)]

theorem readQuoted?_named (h : escaped? d = some c) (ne : d ≠ 'u') :
    readQuoted? (fuel + 1) ('\\' :: d :: r) =
      (readQuoted? fuel r).map fun (s, r) => (c :: s, r) := by
  rw [readQuoted?]
  · simp only [h, Option.bind_eq_bind, Option.bind_some]
    cases readQuoted? fuel r <;> rfl
  · exact fun h => ne h

theorem readQuoted?_plain (quote : c ≠ '"') (slash : c ≠ '\\') (shown : ¬ c.toNat < 0x20) :
    readQuoted? (fuel + 1) (c :: r) = (readQuoted? fuel r).map fun (s, r) => (c :: s, r) := by
  rw [readQuoted?]
  · rw [if_neg (by simp [shown, slash])]
    cases readQuoted? fuel r <;> rfl
  · exact quote
  · exact fun _ h _ => slash h
  · exact fun _ _ h _ => slash h

/-- One step of the reader takes one character, however it is escaped. -/
theorem readQuoted?_escape (c : Char) :
    readQuoted? (fuel + 1) (escape c ++ r) =
      (readQuoted? fuel r).map fun (s, r) => (c :: s, r) := by
  have named {d : Char} (h : escaped? d = some c) (ne : d ≠ 'u') :
      readQuoted? (fuel + 1) ('\\' :: d :: r) = _ := readQuoted?_named h ne
  unfold escape
  split
  · next h =>
    subst h
    exact named rfl (by decide)
  split
  · next h =>
    subst h
    exact named rfl (by decide)
  split
  · next h =>
    subst h
    exact named rfl (by decide)
  split
  · next h =>
    subst h
    exact named rfl (by decide)
  split
  · next h =>
    subst h
    exact named rfl (by decide)
  split
  · next h =>
    subst h
    exact named rfl (by decide)
  split
  · next h =>
    subst h
    exact named rfl (by decide)
  split
  · next control =>
    have read := readUnit?_hexPair control r
    rw [Char.ofNat_toNat] at read
    simp only [List.cons_append, List.nil_append, readQuoted?, read, Option.bind_eq_bind,
      Option.bind_some]
    cases readQuoted? fuel r <;> rfl
  · next quote slash _ _ _ _ _ shown => exact readQuoted?_plain quote slash shown

theorem length_le_flatMap_escape (s : List Char) : s.length ≤ (s.flatMap escape).length := by
  have some (c : Char) : 1 ≤ (escape c).length := by
    unfold escape
    repeat' split
    all_goals simp
  induction s with
  | nil => exact Nat.le_refl _
  | cons c s ih =>
    have := some c
    rw [List.flatMap_cons, List.length_append, List.length_cons]
    omega

/-- The reader takes a text up to its closing quote, with as much fuel as there are characters. -/
theorem readQuoted?_quote (s : List Char) (enough : s.length < fuel) :
    readQuoted? fuel (s.flatMap escape ++ '"' :: r) = some (s, r) := by
  induction s generalizing fuel with
  | nil =>
    cases fuel with
    | zero => exact absurd enough (Nat.lt_irrefl 0)
    | succ fuel => rfl
  | cons c s ih =>
    cases fuel with
    | zero => exact absurd enough (Nat.not_lt_zero _)
    | succ fuel =>
      rw [List.flatMap_cons, List.append_assoc, readQuoted?_escape,
        ih (Nat.lt_of_succ_lt_succ enough)]
      rfl

end Texts

/-! ## Where numbers end -/

/-- What no number goes on with. -/
structure EndsNumber (c : Char) : Prop where
  not_digit : isAsciiDigit c = false
  ne_point : c ≠ '.'
  ne_small : c ≠ 'e'
  ne_capital : c ≠ 'E'

/-- Behind a number there is nothing that could belong to it. -/
def Stops (rest : List Char) : Prop := ∀ c ∈ rest.head?, EndsNumber c

section Numbers

variable {cs r rest : List Char}

theorem Stops.not_digit (h : Stops rest) : ∀ c ∈ rest.head?, isAsciiDigit c = false :=
  fun c hc => (h c hc).not_digit

theorem takeSignificand_append (h : Stops rest) (acc : Nat) (cs : List Char) :
    takeSignificand acc (cs ++ rest) =
      ((takeSignificand acc cs).1, (takeSignificand acc cs).2.1,
        (takeSignificand acc cs).2.2 ++ rest) := by
  induction cs generalizing acc with
  | nil =>
    cases rest with
    | nil => rfl
    | cons c r => simp [takeSignificand, h.not_digit c rfl]
  | cons c cs ih =>
    rw [List.cons_append, takeSignificand, takeSignificand]
    split
    · rw [ih]
    · rfl

theorem spanDigits_append (h : Stops rest) (cs : List Char) :
    spanDigits (cs ++ rest) = ((spanDigits cs).1, (spanDigits cs).2 ++ rest) := by
  obtain ⟨taken, left⟩ := Text.span_append cs h.not_digit
  rw [spanDigits, taken, left, spanDigits]

theorem splitSign_append (some : cs ≠ []) :
    splitSign (cs ++ rest) = ((splitSign cs).1, (splitSign cs).2 ++ rest) := by
  obtain ⟨c, cs, rfl⟩ := List.exists_cons_of_ne_nil some
  rw [List.cons_append]
  unfold splitSign
  split <;> simp_all

/-- A result that only carries along what is left. -/
theorem map_append {d : Double} {o : Option Double}
    (h : o.map (·, cs) = some (d, r)) : o.map (·, cs ++ rest) = some (d, r ++ rest) := by
  obtain ⟨d, rfl, same⟩ := Option.map_eq_some_iff.mp h
  obtain ⟨rfl, rfl⟩ := Prod.mk.inj same
  rfl

section Parts

variable {significand : Nat} {start : Int} {d : Double}

theorem readExponent?_append (stops : Stops rest)
    (h : readExponent? significand start cs = some (d, r)) :
    readExponent? significand start (cs ++ rest) = some (d, r ++ rest) := by
  have some : cs ≠ [] := by
    rintro rfl
    simp [readExponent?, splitSign, spanDigits] at h
  simp only [readExponent?, splitSign_append some, spanDigits_append stops] at h ⊢
  split at h
  · cases h
  · next digits =>
    rw [if_neg digits]
    split at h
    · next small =>
      rw [if_pos small]
      exact map_append h
    · next large =>
      rw [if_neg large]
      exact map_append h

theorem readScale?_append (stops : Stops rest)
    (h : readScale? significand start cs = some (d, r)) :
    readScale? significand start (cs ++ rest) = some (d, r ++ rest) := by
  cases cs with
  | nil =>
    rw [List.nil_append]
    have same : readScale? significand start rest =
        (Double.ofJsonParts? significand start).map (·, rest) := by
      unfold readScale?
      split
      · exact absurd rfl (stops 'e' rfl).ne_small
      · exact absurd rfl (stops 'E' rfl).ne_capital
      · rfl
    rw [same]
    rw [← List.nil_append rest]
    exact map_append h
  | cons c cs =>
    unfold readScale? at h
    split at h
    · next same =>
      obtain ⟨rfl, rfl⟩ := List.cons.inj same
      exact readExponent?_append stops h
    · next same =>
      obtain ⟨rfl, rfl⟩ := List.cons.inj same
      exact readExponent?_append stops h
    · next small capital =>
      have same : readScale? significand start (c :: cs ++ rest) =
          (Double.ofJsonParts? significand start).map (·, c :: cs ++ rest) := by
        unfold readScale?
        split
        · next same => exact absurd (congrArg (· :: cs) (List.cons.inj same).1) (small cs)
        · next same => exact absurd (congrArg (· :: cs) (List.cons.inj same).1) (capital cs)
        · rfl
      rw [same]
      exact map_append h

theorem readFraction?_append (stops : Stops rest)
    (h : readFraction? significand start cs = some (d, r)) :
    readFraction? significand start (cs ++ rest) = some (d, r ++ rest) := by
  unfold readFraction? at h ⊢
  rw [spanDigits_append stops]
  split at h
  · exact absurd h nofun
  · next digits =>
    rw [if_neg digits, takeSignificand_append stops]
    simp only [spanDigits_append stops]
    exact readScale?_append stops h

end Parts

/-- A zero with another digit after it, with which no number begins. -/
def opensWithZero : List Char → Bool
  | '0' :: c :: _ => isAsciiDigit c
  | _ => false

theorem opensWithZero_append (stops : Stops rest) (some : cs ≠ []) :
    opensWithZero (cs ++ rest) = opensWithZero cs := by
  match cs with
  | [] => exact absurd rfl some
  | [c] =>
    have single : opensWithZero [c] = false := by
      unfold opensWithZero
      split <;> simp_all
    rw [single, List.singleton_append]
    unfold opensWithZero
    split
    · next same => exact stops.not_digit _ (by simp [(List.cons.inj same).2])
    · rfl
  | c :: d :: cs =>
    rw [List.cons_append, List.cons_append]
    unfold opensWithZero
    split <;> split <;> simp_all

/-- A number that has no point and no exponent. -/
def readWhole? (negative : Bool) (n : Nat) (dropped r : List Char) : Option (Number × List Char) :=
  if dropped ≠ [] then
    (readScale? n dropped.length r).map fun r => (.double (r.1.withSign negative), r.2)
  else if ¬ negative then some (.int n, r)
  else if n = 0 ∨ 9223372036854775808 < n then
    some (.double ((Double.ofInt n).withSign true), r)
  else some (.int (-(n : Int)), r)

/-- What follows the digits of a number before its point, some of which were dropped. -/
def readPart? (negative : Bool) (n : Nat) (dropped cs : List Char) : Option (Number × List Char) :=
  let sign (r : Double × List Char) : Number × List Char :=
    (.double (r.1.withSign negative), r.2)
  match cs with
  | '.' :: r => (readFraction? n dropped.length r).map sign
  | 'e' :: r | 'E' :: r => (readExponent? n dropped.length r).map sign
  | r => readWhole? negative n dropped r

theorem readMagnitude?_eq (negative : Bool) (cs : List Char) :
    readMagnitude? negative cs =
      let (n, count, r) := takeSignificand 0 cs
      let (dropped, r) := spanDigits r
      if count = 0 ∨ opensWithZero cs then none else readPart? negative n dropped r := rfl

section Parts

variable {negative : Bool} {n : Nat} {dropped : List Char} {m : Number}

theorem readPart?_of_whole (whole : ∀ c ∈ cs.head?, c ≠ '.' ∧ c ≠ 'e' ∧ c ≠ 'E') :
    readPart? negative n dropped cs = readWhole? negative n dropped cs := by
  unfold readPart?
  split
  · exact absurd rfl (whole '.' rfl).1
  · exact absurd rfl (whole 'e' rfl).2.1
  · exact absurd rfl (whole 'E' rfl).2.2
  · rfl

theorem signed_append {o : Option (Double × List Char)} {o' : Option (Double × List Char)}
    (more : ∀ d r, o = some (d, r) → o' = some (d, r ++ rest))
    (h : (o.map fun r => ((.double (r.1.withSign negative) : Number), r.2)) = some (m, r)) :
    (o'.map fun r => ((.double (r.1.withSign negative) : Number), r.2)) = some (m, r ++ rest) := by
  obtain ⟨⟨d, r⟩, found, same⟩ := Option.map_eq_some_iff.mp h
  obtain ⟨rfl, rfl⟩ := Prod.mk.inj same
  rw [more d r found]
  rfl

theorem readWhole?_append (stops : Stops rest)
    (h : readWhole? negative n dropped cs = some (m, r)) :
    readWhole? negative n dropped (cs ++ rest) = some (m, r ++ rest) := by
  unfold readWhole? at h ⊢
  split at h
  · next many =>
    rw [if_pos many]
    exact signed_append (fun _ _ found => readScale?_append stops found) h
  · next all =>
    rw [if_neg all]
    repeat' split at h
    all_goals
      obtain ⟨rfl, rfl⟩ := Prod.mk.inj (Option.some.inj h)
      simp_all

theorem readPart?_append (stops : Stops rest)
    (h : readPart? negative n dropped cs = some (m, r)) :
    readPart? negative n dropped (cs ++ rest) = some (m, r ++ rest) := by
  by_cases whole : ∀ c ∈ cs.head?, c ≠ '.' ∧ c ≠ 'e' ∧ c ≠ 'E'
  · have behind : ∀ c ∈ (cs ++ rest).head?, c ≠ '.' ∧ c ≠ 'e' ∧ c ≠ 'E' := by
      cases cs with
      | nil => exact fun c hc =>
          ⟨(stops c hc).ne_point, (stops c hc).ne_small, (stops c hc).ne_capital⟩
      | cons c cs => exact whole
    rw [readPart?_of_whole whole] at h
    rw [readPart?_of_whole behind]
    exact readWhole?_append stops h
  · obtain ⟨c, cs, rfl⟩ : ∃ c r, cs = c :: r :=
      List.exists_cons_of_ne_nil fun none => whole (by simp [none])
    have sign : c = '.' ∨ c = 'e' ∨ c = 'E' := by simpa [Decidable.or_iff_not_imp_left] using whole
    obtain rfl | rfl | rfl := sign
    · exact signed_append (fun _ _ found => readFraction?_append stops found) h
    · exact signed_append (fun _ _ found => readExponent?_append stops found) h
    · exact signed_append (fun _ _ found => readExponent?_append stops found) h

end Parts

theorem readMagnitude?_append {negative : Bool} {n : Number} (stops : Stops rest)
    (h : readMagnitude? negative cs = some (n, r)) :
    readMagnitude? negative (cs ++ rest) = some (n, r ++ rest) := by
  have some : cs ≠ [] := by
    rintro rfl
    simp [readMagnitude?, takeSignificand] at h
  rw [readMagnitude?_eq] at h ⊢
  simp only [takeSignificand_append stops, spanDigits_append stops,
    opensWithZero_append stops some] at h ⊢
  split at h
  · exact absurd h nofun
  · next digits =>
    rw [if_neg digits]
    exact readPart?_append stops h

theorem readNumber?_append {n : Number} (stops : Stops rest) (h : readNumber? cs = some (n, r)) :
    readNumber? (cs ++ rest) = some (n, r ++ rest) := by
  have some : cs ≠ [] := by
    rintro rfl
    simp [readNumber?, readMagnitude?, takeSignificand] at h
  obtain ⟨c, cs, rfl⟩ := List.exists_cons_of_ne_nil some
  unfold readNumber? at h
  split at h
  · next same =>
    obtain ⟨rfl, rfl⟩ := List.cons.inj same
    exact readMagnitude?_append stops h
  · next other =>
    have plain : readNumber? (c :: cs ++ rest) = readMagnitude? false (c :: cs ++ rest) := by
      unfold readNumber?
      split
      · next same => exact absurd (congrArg (· :: cs) (List.cons.inj same).1) (other cs)
      · rfl
    rw [plain]
    exact readMagnitude?_append stops h

end Numbers

/-! ## Integers -/

section Integers

/-- Only zero is written with a zero in front. -/
theorem eq_zero_of_head?_toDigits {n : Nat} (h : (Nat.toDigits 10 n).head? = some '0') : n = 0 := by
  induction n using Nat.strongRecOn with
  | _ n ih =>
    by_cases small : n < 10
    · have digits : ∀ n < 10, Nat.digitChar n = '0' → n = 0 := by decide
      rw [Nat.toDigits_of_lt_base small] at h
      exact digits n small (Option.some.inj h)
    · have large : 10 ≤ n := Nat.le_of_not_lt small
      obtain ⟨c, cs, digits⟩ : ∃ c cs, Nat.toDigits 10 (n / 10) = c :: cs :=
        List.exists_cons_of_ne_nil Nat.toDigits_ne_nil
      rw [Nat.toDigits_of_base_le (by decide) large, digits] at h
      have := ih (n / 10) (by omega) (by rw [digits]; exact h)
      omega

theorem not_opensWithZero_toDigits (n : Nat) : opensWithZero (Nat.toDigits 10 n) = false := by
  cases h : opensWithZero (Nat.toDigits 10 n) with
  | false => rfl
  | true =>
    unfold opensWithZero at h
    split at h
    · next same =>
      have zero : n = 0 := eq_zero_of_head?_toDigits (by rw [same]; rfl)
      rw [zero, show Nat.toDigits 10 0 = ['0'] from rfl] at same
      exact absurd (List.cons.inj same).2 nofun
    · exact absurd h nofun

theorem le_foldl_digits (cs : List Char) (acc : Nat) :
    acc ≤ cs.foldl (fun n c => 10 * n + digitValue c) acc := by
  induction cs generalizing acc with
  | nil => exact Nat.le_refl acc
  | cons c cs ih =>
    have := ih (10 * acc + digitValue c)
    rw [List.foldl_cons]
    omega

theorem takeSignificand_of_lt {cs : List Char} (acc : Nat) (digits : cs.all isAsciiDigit)
    (small : cs.foldl (fun n c => 10 * n + digitValue c) acc < longLimit) :
    takeSignificand acc cs = (cs.foldl (fun n c => 10 * n + digitValue c) acc, cs.length, []) := by
  induction cs generalizing acc with
  | nil => rfl
  | cons c cs ih =>
    rw [List.all_cons, Bool.and_eq_true] at digits
    rw [List.foldl_cons] at small ⊢
    have next := Nat.lt_of_le_of_lt (le_foldl_digits cs _) small
    rw [takeSignificand, if_pos ⟨digits.1, next⟩, ih _ digits.2 small]
    rfl

theorem readMagnitude?_toDigits {n : Nat} (small : n < longLimit) (negative : Bool) :
    readMagnitude? negative (Nat.toDigits 10 n) = readWhole? negative n [] [] := by
  have digits := Text.all_isAsciiDigit_toDigits n
  have value := Text.natOfDigits_toDigits n
  unfold natOfDigits at value
  have taken := takeSignificand_of_lt 0 digits (by rw [value]; exact small)
  rw [value] at taken
  have some : (Nat.toDigits 10 n).length ≠ 0 := fun h =>
    Nat.toDigits_ne_nil (List.length_eq_zero_iff.mp h)
  rw [readMagnitude?_eq, taken]
  simp [spanDigits, some, not_opensWithZero_toDigits, readPart?]

/-- Every integer of 64 bits is read as it is written. -/
theorem readNumber?_intChars {n : Int} (h : Number.IsWord (.int n)) :
    readNumber? (intChars n) = some (.int n, []) := by
  obtain ⟨low, high⟩ := h
  have small : n.natAbs < longLimit := by
    unfold longLimit at *
    omega
  by_cases negative : n < 0
  · have same : -((n.natAbs : Nat) : Int) = n := by omega
    rw [intChars, if_pos negative, List.singleton_append, readNumber?,
      readMagnitude?_toDigits small, readWhole?, if_neg (by simp), if_neg (by simp),
      if_neg (by omega), same]
  · have same : ((n.natAbs : Nat) : Int) = n := by omega
    rw [intChars, if_neg negative, List.nil_append]
    have plain : readNumber? (Nat.toDigits 10 n.natAbs) =
        readMagnitude? false (Nat.toDigits 10 n.natAbs) := by
      unfold readNumber?
      split
      · next r minus =>
        have digit := List.all_eq_true.mp (Text.all_isAsciiDigit_toDigits n.natAbs) '-' (by simp [minus])
        exact absurd digit (by decide)
      · rfl
    rw [plain, readMagnitude?_toDigits small, readWhole?, if_neg (by simp), if_pos (by simp), same]

end Integers

end Json

/-- A number is read as it is written. -/
def Number.ReadsBack (n : Number) : Prop := Json.readNumber? n.chars = some (n, [])

instance (n : Number) : Decidable n.ReadsBack :=
  inferInstanceAs (Decidable (Json.readNumber? n.chars = some (n, [])))

/-- If it is a double, it is read as it is written. -/
def Number.KeepsDouble : Number → Prop
  | .int _ => True
  | .double d => ReadsBack (.double d)

instance : DecidablePred Number.KeepsDouble
  | .int _ => isTrue trivial
  | .double d => inferInstanceAs (Decidable (Number.ReadsBack (.double d)))

theorem Number.IsWord.readsBack {n : Int} (h : IsWord (.int n)) : ReadsBack (.int n) :=
  Json.readNumber?_intChars h

theorem Number.readsBack_of_keepsDouble {n : Number} (word : n.IsWord) (double : n.KeepsDouble) :
    n.ReadsBack := by
  cases n with
  | int n => exact word.readsBack
  | double d => exact double

theorem Json.readsBack_of_keepsDouble {v : Json} (words : v.Numbers Number.IsWord)
    (doubles : v.Numbers Number.KeepsDouble) : v.Numbers Number.ReadsBack :=
  Numbers.and (fun _ => Number.readsBack_of_keepsDouble) v words doubles

end OfferBook
