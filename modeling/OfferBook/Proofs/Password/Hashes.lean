import OfferBook.Password.Hash
import OfferBook.Proofs.Text.Splitting

/-! # Written hashes

A hash that is made of a password is written as text, and only the text is stored.

* `Radix64.decode?_encode` — bytes are read back from their characters.
* `Hash.parse?_text` — so are hashes, at every cost at which they are made.
* `Hash.verify?_make?` — a password is held to be the one that its hash was made of.
-/

namespace OfferBook

namespace Password

/-! ## Bytes as characters -/

namespace Radix64

/-- The values of six bits that bytes are written as. -/
def sextets : List UInt8 → List Nat
  | a :: b :: c :: r =>
    let n := a.toNat * 65536 + b.toNat * 256 + c.toNat
    n / 262144 :: n / 4096 % 64 :: n / 64 % 64 :: n % 64 :: sextets r
  | [a, b] =>
    let n := (a.toNat * 256 + b.toNat) * 4
    [n / 4096, n / 64 % 64, n % 64]
  | [a] =>
    let n := a.toNat * 16
    [n / 64, n % 64]
  | [] => []

theorem encode_eq (bytes : List UInt8) : encode bytes = (sextets bytes).map charOf := by
  fun_induction sextets bytes with
  | case1 a b c r n ih => simp [encode, ih, n]
  | case2 | case3 | case4 => rfl

theorem sextets_lt (bytes : List UInt8) : ∀ n ∈ sextets bytes, n < 64 := by
  fun_induction sextets bytes with
  | case1 a b c r n ih =>
    have := a.toNat_lt
    have := b.toNat_lt
    have := c.toNat_lt
    simp only [List.forall_mem_cons]
    exact ⟨by omega, by omega, by omega, by omega, ih⟩
  | case2 a b n =>
    have := a.toNat_lt
    have := b.toNat_lt
    simp only [List.forall_mem_cons]
    exact ⟨by omega, by omega, by omega, List.forall_mem_nil _⟩
  | case3 a n =>
    have := a.toNat_lt
    simp only [List.forall_mem_cons]
    exact ⟨by omega, by omega, List.forall_mem_nil _⟩
  | case4 => exact List.forall_mem_nil _

theorem ofNat_eq {a : UInt8} {n : Nat} (h : n = a.toNat) : UInt8.ofNat n = a := by
  rw [h, UInt8.ofNat_toNat]

theorem pack?_sextets (bytes : List UInt8) : pack? (sextets bytes) = some bytes := by
  fun_induction sextets bytes with
  | case1 a b c r n ih =>
    have := a.toNat_lt
    have := b.toNat_lt
    have := c.toNat_lt
    have whole : ((n / 262144 * 64 + n / 4096 % 64) * 64 + n / 64 % 64) * 64 + n % 64 = n := by
      omega
    simp only [pack?, ih, Option.bind_eq_bind, Option.bind_some, whole]
    rw [ofNat_eq (a := a) (by omega), ofNat_eq (a := b) (by omega), ofNat_eq (a := c) (by omega)]
  | case2 a b n =>
    have := a.toNat_lt
    have := b.toNat_lt
    have whole : (n / 4096 * 64 + n / 64 % 64) * 64 + n % 64 = n := by omega
    simp only [pack?, whole]
    rw [if_pos (by omega), ofNat_eq (a := a) (by omega), ofNat_eq (a := b) (by omega)]
  | case3 a n =>
    have := a.toNat_lt
    have whole : n / 64 * 64 + n % 64 = n := by omega
    simp only [pack?, whole]
    rw [if_pos (by omega), ofNat_eq (a := a) (by omega)]
  | case4 => rfl

theorem valueOf?_charOf : ∀ n < 64, valueOf? (charOf n) = some n := by decide +kernel

theorem mapM_valueOf? {values : List Nat} (small : ∀ n ∈ values, n < 64) :
    (values.map charOf).mapM valueOf? = some values := by
  induction values with
  | nil => rfl
  | cons n rest ih =>
    obtain ⟨first, rest⟩ := List.forall_mem_cons.mp small
    simp [valueOf?_charOf n first, ih rest]

/-- Bytes are read back from their characters. -/
theorem decode?_encode (bytes : List UInt8) : decode? (encode bytes) = some bytes := by
  rw [decode?, encode_eq, mapM_valueOf? (sextets_lt bytes), Option.bind_some, pack?_sextets]

theorem length_encode (bytes : List UInt8) :
    (encode bytes).length = (bytes.length * 4 + 2) / 3 := by
  fun_induction encode bytes with
  | case1 a b c r n ih =>
    simp only [List.length_cons, ih]
    omega
  | case2 | case3 | case4 => simp

theorem charOf_ne : ∀ n < 64, charOf n ≠ '$' := by decide +kernel

theorem notMem_encode (bytes : List UInt8) : '$' ∉ encode bytes := by
  rw [encode_eq, List.mem_map]
  rintro ⟨n, mem, same⟩
  exact charOf_ne n (sextets_lt bytes n mem) same

end Radix64

/-! ## Hashes -/

namespace Hash

theorem length_digest (cost : Nat) (salt : Salt) (password : String) :
    (Password.digest cost salt password).length = 23 := by
  simp [Password.digest, magic, bytesOfWord]

theorem saltOfBytes?_toList (salt : Salt) : saltOfBytes? salt.toList = some salt := by
  obtain ⟨⟨bytes⟩, size⟩ := salt
  exact dif_pos size

theorem parseUnsigned?_costText :
    ∀ cost < 100, parseUnsigned? shortLimit (costText cost) = some cost := by decide +kernel

theorem notMem_costText : ∀ cost < 100, '$' ∉ costText cost := by decide +kernel

/-- The parts between the dollar signs; before the first of them is nothing. -/
theorem split_text {h : Hash} (cost : h.cost < 100) : Text.split '$' h.text.toList =
    [[], ['2', 'b'], costText h.cost,
      Radix64.encode h.salt.toList ++ Radix64.encode h.digest] := by
  have text : h.text.toList = [] ++ '$' :: (['2', 'b'] ++ '$' :: (costText h.cost ++
      '$' :: (Radix64.encode h.salt.toList ++ Radix64.encode h.digest))) := by
    have version : "$2b$".toList = ['$', '2', 'b', '$'] := by decide
    unfold Hash.text
    rw [String.toList_ofList, version]
    simp only [List.append_assoc, List.cons_append, List.nil_append]
  have body : '$' ∉ Radix64.encode h.salt.toList ++ Radix64.encode h.digest := by
    simp only [List.mem_append, Radix64.notMem_encode, or_self, not_false_eq_true]
  rw [text, Text.split_append List.not_mem_nil, Text.split_append (by decide),
    Text.split_append (notMem_costText _ cost), Text.split_of_notMem body]

/-- A hash is read back from its text. -/
theorem parse?_text {h : Hash} (cost : h.cost < 100) (length : h.digest.length = 23) :
    parse? h.text = some h := by
  have saltLength : (Radix64.encode h.salt.toList).length = 22 := by
    rw [Radix64.length_encode, Vector.length_toList]
  have digestLength : (Radix64.encode h.digest).length = 31 := by
    rw [Radix64.length_encode, length]
  have bodyLength : (Radix64.encode h.salt.toList ++ Radix64.encode h.digest).length = 53 := by
    rw [List.length_append, saltLength, digestLength]
  have filled : Radix64.encode h.salt.toList ++ Radix64.encode h.digest ≠ [] := by
    intro empty
    rw [empty] at bodyLength
    cases bodyLength
  have parts : (Text.split '$' h.text.toList).filter (· ≠ []) =
      [['2', 'b'], costText h.cost, Radix64.encode h.salt.toList ++ Radix64.encode h.digest] := by
    rw [split_text cost]
    simp only [List.filter, costText, ne_eq, not_true_eq_false, filled, not_false_eq_true,
      decide_true, decide_false, reduceCtorEq]
  have known : ¬ (¬ String.ofList ['2', 'b'] ∈ versions ∨
      (Radix64.encode h.salt.toList ++ Radix64.encode h.digest).length ≠ 53) := by
    rw [bodyLength]
    decide
  unfold parse?
  rw [parts]
  dsimp only
  rw [if_neg known, List.take_left' saltLength, List.drop_left' saltLength,
    Radix64.decode?_encode, Radix64.decode?_encode, parseUnsigned?_costText _ cost]
  simp only [Option.bind_eq_bind, Option.bind_some, saltOfBytes?_toList]

/-- A password is held to be the one that its hash was made of. -/
theorem verify?_make? {cost : Nat} {salt : Salt} {password : String} {h : Hash}
    (made : make? cost salt password = some h) : verify? h.text password = some true := by
  have made' := made
  unfold make? at made'
  split at made'
  · next allowed =>
    obtain rfl := Option.some.inj made'
    have small : cost < 100 := by
      simp only [allowsCost, Bool.and_eq_true, decide_eq_true_eq] at allowed
      omega
    unfold verify?
    rw [parse?_text small (length_digest cost salt password)]
    simp only [Option.bind_eq_bind, Option.bind_some, made, decide_true]
  · cases made'

end Hash

end Password

end OfferBook
