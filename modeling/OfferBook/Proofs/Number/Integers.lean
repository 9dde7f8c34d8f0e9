import Mathlib.Algebra.Group.Nat.Defs
import OfferBook.Number.Double
import OfferBook.Number.Word

/-! # Small integers as doubles

* `Double.nearestMagnitude_of_lt` — below the fifty-third power of two an integer is found
  exactly: its leading bit counts binades, the bits after it fill the last one.
* `Double.position_ofInt_lt` — there, doubles stand in the order of the integers.
* `Double.position_ofInt_lt_of_exact` — an integer found exactly stands before all that are greater.
-/

namespace OfferBook.Double

/-- What is read exactly: integers below the fifty-third power of two. -/
abbrev exactLimit : Nat := 2 ^ 53

theorem fitsSigned_of_le {k : Nat} (h : k ≤ exactLimit) : fitsSigned k = true := by
  simp only [exactLimit] at h
  simp only [fitsSigned, Bool.and_eq_true, decide_eq_true_eq]
  omega

theorem roundDiv_mul {q d : Nat} (h : 0 < d) : roundDiv (q * d) d = q := by
  simp [roundDiv, Nat.mul_div_cancel _ h, h]

theorem log2_mul_two_pow {n : Nat} (h : n ≠ 0) (k : Nat) : (n * 2 ^ k).log2 = n.log2 + k := by
  induction k with
  | zero => simp
  | succ k ih =>
    have : n * 2 ^ k ≠ 0 := Nat.mul_ne_zero h (by simp)
    rw [Nat.pow_succ, ← Nat.mul_assoc, Nat.mul_comm _ 2, Nat.log2_two_mul this, ih]
    rfl

theorem log2_le_of_lt {n : Nat} (pos : n ≠ 0) (h : n < exactLimit) : n.log2 ≤ 52 :=
  Nat.le_of_lt_succ ((Nat.log2_lt pos).mpr h)

theorem unit_eq : unit = 2 ^ 1074 := by decide +kernel

/-- The scale of doubles is a power of two, here with a name so that nothing computes it. -/
theorem roundDiv_scaled {n u e : Nat} (hu : u = 2 ^ e) (he : e = 1074) (pos : n ≠ 0)
    (small : n.log2 ≤ 52) :
    ((n * u).log2 - 52) * binade + roundDiv (n * u) (2 ^ ((n * u).log2 - 52)) =
      (n.log2 + 1022) * binade + n * 2 ^ (52 - n.log2) := by
  have whole : 52 - n.log2 + (n.log2 + 1022) = e := by omega
  have leading : (n * 2 ^ e).log2 - 52 = n.log2 + 1022 := by
    rw [log2_mul_two_pow pos]
    omega
  have scaled : n * 2 ^ e = n * 2 ^ (52 - n.log2) * 2 ^ (n.log2 + 1022) := by
    rw [Nat.mul_assoc, ← Nat.pow_add, whole]
  rw [hu, leading, scaled, roundDiv_mul (Nat.pow_pos (by decide))]

theorem nearestMagnitude_of_lt {n : Nat} (pos : n ≠ 0) (h : n < exactLimit) :
    nearestMagnitude n 1 = (n.log2 + 1022) * binade + n * 2 ^ (52 - n.log2) := by
  rw [← roundDiv_scaled unit_eq rfl pos (log2_le_of_lt pos h)]
  unfold nearestMagnitude
  generalize unit = u
  simp only [Nat.div_one, Nat.one_mul, Nat.pow_eq]

theorem mantissa_bounds {n : Nat} (pos : n ≠ 0) (h : n < exactLimit) :
    binade ≤ n * 2 ^ (52 - n.log2) ∧ n * 2 ^ (52 - n.log2) < 2 * binade := by
  have small := log2_le_of_lt pos h
  obtain ⟨low, high⟩ := (Nat.log2_eq_iff pos).mp rfl
  have hpow : 2 ^ n.log2 * 2 ^ (52 - n.log2) = binade := by
    rw [← Nat.pow_add, Nat.add_sub_of_le small]
  constructor
  · exact hpow ▸ Nat.mul_le_mul_right _ low
  · have := Nat.mul_lt_mul_of_pos_right high (Nat.pow_pos (n := 52 - n.log2) (Nat.two_pos))
    rwa [Nat.pow_succ, Nat.mul_right_comm, hpow, Nat.mul_comm binade] at this

theorem nearestMagnitude_zero : nearestMagnitude 0 1 = 0 := by
  have none_left (d : Nat) : roundDiv 0 d = 0 := by
    rcases Nat.eq_zero_or_pos d with rfl | h
    · rfl
    · simp [roundDiv, h]
  simp [nearestMagnitude, none_left]

theorem nearestMagnitude_lt {a b : Nat} (h : a < b) (hb : b < exactLimit) :
    nearestMagnitude a 1 < nearestMagnitude b 1 := by
  have posB : b ≠ 0 := Nat.ne_of_gt (Nat.zero_lt_of_lt h)
  obtain ⟨lowB, -⟩ := mantissa_bounds posB hb
  have positive : 0 < binade := by decide
  rw [nearestMagnitude_of_lt posB hb]
  rcases Nat.eq_zero_or_pos a with rfl | posA
  · rw [nearestMagnitude_zero]
    omega
  · have posA := Nat.ne_of_gt posA
    have ha := Nat.lt_trans h hb
    obtain ⟨-, highA⟩ := mantissa_bounds posA ha
    rw [nearestMagnitude_of_lt posA ha]
    rcases Nat.lt_or_ge a.log2 b.log2 with higher | same
    · -- A higher binade begins where the lower one ends.
      have := Nat.mul_le_mul_right binade higher
      rw [Nat.succ_mul] at this
      rw [Nat.add_mul, Nat.add_mul]
      omega
    · have same : a.log2 = b.log2 := by
        refine Nat.le_antisymm ?_ same
        refine Nat.le_of_lt_succ ((Nat.log2_lt posA).mpr (Nat.lt_trans h ?_))
        exact ((Nat.log2_eq_iff posB).mp rfl).2
      rw [same]
      exact Nat.add_lt_add_left (Nat.mul_lt_mul_of_pos_right h (Nat.pow_pos Nat.two_pos)) _

theorem position_ofInt {n : Nat} (h : n < exactLimit) :
    (ofInt n).position = nearestMagnitude n 1 := by
  have below : nearestMagnitude n 1 < magnitudes := by
    rcases Nat.eq_zero_or_pos n with rfl | pos
    · rw [nearestMagnitude_zero]
      decide
    · have pos := Nat.ne_of_gt pos
      have small := log2_le_of_lt pos h
      obtain ⟨-, high⟩ := mantissa_bounds pos h
      have := Nat.mul_le_mul_right binade (Nat.add_le_add_right small 1022)
      rw [nearestMagnitude_of_lt pos h]
      simp only [magnitudes, binade] at *
      omega
  have natural : ¬ (n : Int) < 0 := by omega
  simp [ofInt, ofRatio?, below, withSign, position, natural]

theorem position_ofInt_lt {a b : Nat} (h : a < b) (hb : b < exactLimit) :
    (ofInt a).position < (ofInt b).position := by
  rw [position_ofInt (Nat.lt_trans h hb), position_ofInt hb]
  exact Int.ofNat_lt.mpr (nearestMagnitude_lt h hb)

/-! ## Greater integers -/

theorem div_le_roundDiv (n d : Nat) : n / d ≤ roundDiv n d := by
  unfold roundDiv
  dsimp only
  split
  · exact Nat.le_refl _
  · split
    · exact Nat.le_succ _
    · split
      · exact Nat.le_refl _
      · exact Nat.le_succ _

/-- The leading bit of a quotient by the last binade is its fifty-third. -/
theorem le_roundDiv_scaled {n u e : Nat} (hu : u = 2 ^ e) (he : e = 1074) (h : exactLimit ≤ n) :
    1076 * binade ≤
      ((n * u).log2 - 52) * binade + roundDiv (n * u) (2 ^ ((n * u).log2 - 52)) := by
  have pos : n ≠ 0 := by
    rintro rfl
    exact absurd h (by decide)
  have leading : 53 ≤ n.log2 := (Nat.le_log2 pos).mpr h
  have filled : n * u ≠ 0 := Nat.mul_ne_zero pos (hu ▸ Nat.ne_of_gt (Nat.pow_pos Nat.two_pos))
  obtain ⟨k, hk⟩ : ∃ k, (n * u).log2 = k + 52 :=
    ⟨n.log2 + 1022, by rw [hu, log2_mul_two_pow pos]; omega⟩
  have leads : binade ≤ n * u / 2 ^ k := by
    rw [Nat.le_div_iff_mul_le (Nat.pow_pos Nat.two_pos)]
    have low := ((Nat.log2_eq_iff filled).mp hk).1
    rwa [Nat.add_comm, Nat.pow_add] at low
  have rounded := Nat.le_trans leads (div_le_roundDiv (n * u) (2 ^ k))
  have scale : 1075 ≤ k := by
    rw [hu, log2_mul_two_pow pos] at hk
    omega
  have := Nat.mul_le_mul_right binade scale
  rw [hk, Nat.add_sub_cancel]
  omega

theorem le_nearestMagnitude {n : Nat} (h : exactLimit ≤ n) :
    1076 * binade ≤ nearestMagnitude n 1 := by
  have scaled := le_roundDiv_scaled unit_eq rfl h
  unfold nearestMagnitude
  generalize unit = u at scaled ⊢
  simpa only [Nat.div_one, Nat.one_mul, Nat.pow_eq] using scaled

theorem le_largest : 1076 * binade ≤ largest.magnitude.val := by decide

theorem position_withSign_false (d : Double) :
    (d.withSign false).position = d.magnitude.val := rfl

theorem ofInt_natCast (n : Nat) : ofInt n = ((ofRatio? n 1).getD largest).withSign false := by
  have natural : decide ((n : Int) < 0) = false := decide_eq_false (by omega)
  rw [ofInt, natural, Int.natAbs_natCast]

theorem le_position_ofInt {n : Nat} (h : exactLimit ≤ n) :
    ((1076 * binade : Nat) : Int) ≤ (ofInt n).position := by
  have high := le_nearestMagnitude h
  rw [ofInt_natCast, position_withSign_false, Int.ofNat_le]
  unfold ofRatio?
  generalize nearestMagnitude n 1 = k at high ⊢
  dsimp only
  split
  · exact high
  · exact le_largest

theorem position_ofInt_lt_of_exact {a b : Nat} (h : a < b) (ha : a < exactLimit) :
    (ofInt a).position < (ofInt b).position := by
  rcases Nat.lt_or_ge b exactLimit with hb | hb
  · exact position_ofInt_lt h hb
  · refine Int.lt_of_lt_of_le ?_ (le_position_ofInt hb)
    rw [position_ofInt ha, Int.ofNat_lt]
    rcases Nat.eq_zero_or_pos a with rfl | pos
    · rw [nearestMagnitude_zero]
      decide
    · have pos := Nat.ne_of_gt pos
      have small := log2_le_of_lt pos ha
      obtain ⟨-, high⟩ := mantissa_bounds pos ha
      have := Nat.mul_le_mul_right binade (Nat.add_le_add_right small 1022)
      rw [nearestMagnitude_of_lt pos ha]
      omega

end OfferBook.Double
