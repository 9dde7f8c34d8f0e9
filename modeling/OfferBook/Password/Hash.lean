import OfferBook.Number.Reading
import OfferBook.Password.Blowfish
import OfferBook.Text.Blank

/-! # Hashes of passwords

A stored hash such as `$2b$12$` with 53 more characters holds the version, the cost, the salt and
the digest of a password:

* `Radix64` — bytes as characters, six bits each.
* `digest` — the 23 bytes made of a password, a salt and a cost.
* `Hash.parse?`, `Hash.text` — the written form.
* `Hash.make?`, `Hash.verify?` — make a hash, and hold a password against one.
-/

namespace OfferBook.Password

/-! ## Bytes as characters -/

namespace Radix64

/-- The characters for the values below 64. -/
def alphabet : List Char :=
  "./ABCDEFGHIJKLMNOPQRSTUVWXYZabcdefghijklmnopqrstuvwxyz0123456789".toList

def charOf (n : Nat) : Char := alphabet.getD n '.'

def valueOf? (c : Char) : Option Nat := alphabet.idxOf? c

/-- Three bytes are four characters; what remains at the end has as many as its bits need. -/
def encode : List UInt8 → List Char
  | a :: b :: c :: r =>
    let n := a.toNat * 65536 + b.toNat * 256 + c.toNat
    charOf (n / 262144) :: charOf (n / 4096 % 64) :: charOf (n / 64 % 64) :: charOf (n % 64)
      :: encode r
  | [a, b] =>
    let n := (a.toNat * 256 + b.toNat) * 4
    [charOf (n / 4096), charOf (n / 64 % 64), charOf (n % 64)]
  | [a] =>
    let n := a.toNat * 16
    [charOf (n / 64), charOf (n % 64)]
  | [] => []

/-- Whole bytes of some values of six bits; bits left over must be zero. -/
def pack? : List Nat → Option (List UInt8)
  | a :: b :: c :: d :: r => do
    let n := ((a * 64 + b) * 64 + c) * 64 + d
    let rest ← pack? r
    some (.ofNat (n / 65536) :: .ofNat (n / 256 % 256) :: .ofNat (n % 256) :: rest)
  | [a, b, c] =>
    let n := (a * 64 + b) * 64 + c
    if n % 4 = 0 then some [.ofNat (n / 1024), .ofNat (n / 4 % 256)] else none
  | [a, b] =>
    let n := a * 64 + b
    if n % 16 = 0 then some [.ofNat (n / 16)] else none
  | [_] => none
  | [] => some []

def decode? (cs : List Char) : Option (List UInt8) := (cs.mapM valueOf?).bind pack?

end Radix64

/-! ## The digest -/

/-- The bytes of a password: closed by a zero, and no more than 72. -/
def keyBytes (password : String) : Array UInt8 :=
  ((password.toUTF8.toList ++ [0]).take 72).toArray

/-- The words of "OrpheanBeholderScryDoubt", in blocks. -/
def magic : List (UInt32 × UInt32) :=
  [(0x4f727068, 0x65616e42), (0x65686f6c, 0x64657253), (0x63727944, 0x6f756274)]

/-- Encrypt a block several times. -/
def encryptRepeatedly (t : Tables) : Nat → UInt32 × UInt32 → UInt32 × UInt32
  | 0, block => block
  | n + 1, block => encryptRepeatedly t n (t.encrypt block.1 block.2)

def bytesOfWord (w : UInt32) : List UInt8 :=
  [(w >>> 24).toUInt8, (w >>> 16).toUInt8, (w >>> 8).toUInt8, w.toUInt8]

def digest (cost : Nat) (salt : Salt) (password : String) : List UInt8 :=
  let t := Tables.schedule cost salt (keyBytes password)
  (magic.flatMap fun block =>
    let (l, r) := encryptRepeatedly t 64 block
    bytesOfWord l ++ bytesOfWord r).take 23

/-! ## Hashes -/

structure Hash where
  cost : Nat
  salt : Salt
  digest : List UInt8
deriving DecidableEq

namespace Hash

/-- Costs at which passwords are hashed. -/
def allowsCost (cost : Nat) : Bool := 4 ≤ cost && cost ≤ 31

/-- Two digits. -/
def costText (cost : Nat) : List Char := [Nat.digitChar (cost / 10), Nat.digitChar (cost % 10)]

def text (h : Hash) : String :=
  String.ofList ("$2b$".toList ++ costText h.cost ++ '$' :: Radix64.encode h.salt.toList
    ++ Radix64.encode h.digest)

/-- The hash of a password; none at a cost that is not allowed. -/
def make? (cost : Nat) (salt : Salt) (password : String) : Option Hash :=
  if allowsCost cost then some ⟨cost, salt, Password.digest cost salt password⟩ else none

def versions : List String := ["2a", "2b", "2x", "2y"]

/-- Sixteen bytes. -/
def saltOfBytes? (bytes : List UInt8) : Option Salt :=
  if h : bytes.toArray.size = 16 then some ⟨bytes.toArray, h⟩ else none

/-- Read a hash: version, cost and 53 characters between dollar signs. -/
def parse? (s : String) : Option Hash := do
  match (Text.split '$' s.toList).filter (· ≠ []) with
  | [version, cost, body] =>
    if ¬ String.ofList version ∈ versions ∨ body.length ≠ 53 then none
    else
      let cost ← parseUnsigned? shortLimit cost
      let salt ← (Radix64.decode? (body.take 22)).bind saltOfBytes?
      let digest ← Radix64.decode? (body.drop 22)
      some ⟨cost, salt, digest⟩
  | _ => none

/-- Whether a stored text is the hash of a password; none where it is no hash at all. -/
def verify? (stored password : String) : Option Bool := do
  let h ← parse? stored
  let made ← make? h.cost h.salt password
  some (made.digest = h.digest)

end Hash

end OfferBook.Password
