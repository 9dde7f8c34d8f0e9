import OfferBook.Model.CostSheet
import OfferBook.Proofs.Query.Sorting

/-! # The order of items

* `GarmentItem.compare` — items compare as their numbers do in rows.
* `GarmentItem.StablySorted` — items in the order of their numbers, those with one number in the
  order that they had.
* `GarmentItem.stablySorted_mergeSort` — how items are sorted.
-/

namespace OfferBook.GarmentItem

def compare (a b : GarmentItem) : Ordering :=
  Json.compareValues (some (.int a.number)) (some (.int b.number))

/-- The items in the order of their numbers; those that compare equal keep their order. -/
structure StablySorted (items sorted : List GarmentItem) : Prop where
  perm : sorted.Perm items
  ordered : sorted.Pairwise fun a b => (compare a b).isLE = true
  stable : ∀ item, sorted.filter (compare · item == .eq) = items.filter (compare · item == .eq)

instance : Std.TransCmp compare where
  eq_swap := (Json.compareValues_swap _ _).symm
  isLE_trans := @fun a b c => @Std.TransCmp.isLE_trans _ Json.compareValues _
    (some (.int a.number)) (some (.int b.number)) (some (.int c.number))

theorem stablySorted_mergeSort (items : List GarmentItem) :
    StablySorted items (items.mergeSort fun a b => (compare a b).isLE) := by
  have trans (a b c : GarmentItem) (hab : (compare a b).isLE = true)
      (hbc : (compare b c).isLE = true) : (compare a c).isLE = true :=
    Std.TransCmp.isLE_trans hab hbc
  have total (a b : GarmentItem) : ((compare a b).isLE || (compare b a).isLE) = true := by
    rw [Bool.or_eq_true]
    exact Json.isLE_compareValues_total ..
  have perm := List.mergeSort_perm items fun a b => (compare a b).isLE
  refine ⟨perm, List.pairwise_mergeSort trans total items, fun item => ?_⟩
  -- Items that compare equal are in order already, so that sorting leaves them in it.
  have equal : (items.filter (compare · item == .eq)).Pairwise
      fun a b => (compare a b).isLE = true := by
    refine List.pairwise_iff_forall_sublist.mpr fun {a b} sub => ?_
    have ha := beq_iff_eq.mp (List.mem_filter.mp (sub.subset List.mem_cons_self)).2
    have hb := beq_iff_eq.mp
      (List.mem_filter.mp (sub.subset (List.mem_cons_of_mem _ List.mem_cons_self))).2
    rw [Std.TransCmp.eq_trans ha (Std.OrientedCmp.eq_symm hb)]
    rfl
  have kept := (List.sublist_mergeSort trans total equal List.filter_sublist).filter
    (compare · item == .eq)
  rw [List.filter_filter, List.filter_congr fun a _ => Bool.and_self _] at kept
  exact (kept.eq_of_length (perm.filter _).length_eq.symm).symm

end OfferBook.GarmentItem
