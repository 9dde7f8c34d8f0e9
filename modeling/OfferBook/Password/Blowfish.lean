import OfferBook.Password.PiBits

/-! # The expensive key schedule

A cipher with 18 subkeys and four boxes of 256 words, which start as the digits of pi and are
replaced by what the cipher makes of a password and a salt, as often as wanted.

* `Tables.encrypt` — one block of two words.
* `Tables.expand` — mix a key and a salt into all tables.
* `Tables.schedule` — the tables for a password, after `2 ^ cost` rounds.
-/

namespace OfferBook.Password

/-- The subkeys, and after them the boxes. -/
abbrev Tables := Vector UInt32 1042

/-- The words of a key, one for each subkey. -/
abbrev KeyWords := Vector UInt32 18

/-- The random part of a hash. -/
abbrev Salt := Vector UInt8 16

namespace Tables

/-- The tables before any key. -/
def initial : Tables := piWords 1042

/-- A word of the box that begins at `offset`. -/
@[inline] def box (t : Tables) (offset : Nat) (h : offset ≤ 786) (b : UInt8) : UInt32 :=
  t.get ⟨offset + b.toNat, by have := b.toNat_lt; omega⟩

/-- What half a block adds to the other half. -/
@[inline] def mix (t : Tables) (x : UInt32) : UInt32 :=
  ((t.box 18 (by decide) (x >>> 24).toUInt8 + t.box 274 (by decide) (x >>> 16).toUInt8)
    ^^^ t.box 530 (by decide) (x >>> 8).toUInt8) + t.box 786 (by decide) x.toUInt8

/-- The last `n` of the 16 rounds, and the two subkeys after them. -/
def encryptFrom (t : Tables) : (n : Nat) → n ≤ 16 → UInt32 → UInt32 → UInt32 × UInt32
  | 0, _, l, r => (r ^^^ t.get ⟨17, by decide⟩, l ^^^ t.get ⟨16, by decide⟩)
  | n + 1, h, l, r =>
    let l := l ^^^ t.get ⟨15 - n, by omega⟩
    encryptFrom t n (by omega) (r ^^^ t.mix l) l

/-- Encrypt one block. -/
def encrypt (t : Tables) (l r : UInt32) : UInt32 × UInt32 :=
  encryptFrom t 16 (by decide) l r

/-- Combine the subkeys with the words of a key. -/
def addKey (t : Tables) (key : KeyWords) : Tables :=
  (List.finRange 18).foldl (fun t i => t.set i.val (t.get ⟨i.val, by omega⟩ ^^^ key.get i)) t

/-- Replace the last `n` pairs of words by the blocks that follow from one another, the words of
    the salt added in turn. -/
def refill (t : Tables) (l r a b c d : UInt32) : (n : Nat) → n ≤ 521 → Tables
  | 0, _ => t
  | n + 1, h =>
    let (l, r) := t.encrypt (l ^^^ a) (r ^^^ b)
    let i := 2 * (520 - n)
    refill ((t.set i l (by omega)).set (i + 1) r (by omega)) l r c d a b n (by omega)

/-- Mix a key and the four words of a salt into the tables. -/
def expand (t : Tables) (key : KeyWords) (a b c d : UInt32) : Tables :=
  refill (t.addKey key) 0 0 a b c d 521 (by decide)

/-- Mix two keys into the tables, many times. -/
def repeatExpand (first second : KeyWords) : (rounds : Nat) → Tables → Tables
  | 0, t => t
  | n + 1, t =>
    repeatExpand first second n ((t.expand first 0 0 0 0).expand second 0 0 0 0)

end Tables

/-- Four bytes, the first the highest. -/
def wordOfBytes (a b c d : UInt8) : UInt32 :=
  a.toUInt32 <<< 24 ||| b.toUInt32 <<< 16 ||| c.toUInt32 <<< 8 ||| d.toUInt32

/-- The word at a place of bytes that are repeated without end. -/
def cyclicWord (bytes : Array UInt8) (i : Nat) : UInt32 :=
  let byte (j : Nat) := bytes.getD ((4 * i + j) % bytes.size) 0
  wordOfBytes (byte 0) (byte 1) (byte 2) (byte 3)

/-- The words of a key whose bytes are repeated as often as needed. -/
def KeyWords.ofBytes (bytes : Array UInt8) : KeyWords :=
  Vector.ofFn fun i => cyclicWord bytes i.val

/-- The tables for the bytes of a password. -/
def Tables.schedule (cost : Nat) (salt : Salt) (password : Array UInt8) : Tables :=
  let key := KeyWords.ofBytes password
  let saltKey := KeyWords.ofBytes salt.toArray
  let start := Tables.initial.expand key (saltKey.get 0) (saltKey.get 1) (saltKey.get 2)
    (saltKey.get 3)
  Tables.repeatExpand key saltKey (Nat.pow 2 cost) start

end OfferBook.Password
