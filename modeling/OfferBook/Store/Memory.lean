import OfferBook.Store.Medium

/-! # Documents kept in memory

A medium that can be told to fail: after a number of saves there is no room left, and what it
holds can be marked as unreadable.
-/

namespace OfferBook

structure Memory where
  stored : Option Document
  /-- Loading fails. -/
  unreadable : Bool
  /-- How many further saves succeed; none stands for no limit. -/
  allowance : Option Nat
  /-- How many saves have succeeded. -/
  saves : Nat
deriving DecidableEq

namespace Memory

def load (m : Memory) : Except StorageError (Option Document) :=
  if m.unreadable then .error .unreadable else .ok m.stored

def save (doc : Document) (m : Memory) : Except StorageError Unit × Memory :=
  match m.allowance with
  | some 0 => (.error .full, m)
  | some (n + 1) =>
    (.ok (), { m with stored := some doc, allowance := some n, saves := m.saves + 1 })
  | none => (.ok (), { m with stored := some doc, saves := m.saves + 1 })

instance : Medium Memory where
  load := load
  save := save

end Memory

end OfferBook
