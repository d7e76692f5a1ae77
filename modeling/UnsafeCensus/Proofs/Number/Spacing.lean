/-
**Hundredths keep apart at 64 bits.**

A rounded quotient is at most half a multiple of its grid away from the quotient. Of two quotients that are further
apart than a multiple of the coarser grid, the greater one is therefore rounded to more. Below `10 ^ 13` a hundredth
is more than that, so decimals with two places keep apart.

* `le_unitsOf`, `unitsOf_le`: a rounded quotient is near to the quotient;
* `unitsOf_lt`: quotients that are far enough apart are rounded to different numbers;
* `gridOf_hundredths`: a hundredth is more than a multiple of the grid up to `10 ^ 13`;
* `below_hundredths_iff`: the order of decimals with two places is that of the numbers they are rounded to;
* `below_ratio_congr`: a quotient has its place whichever way it is written;
* `ofDecimal_eq_ofRatio`: a decimal becomes the number nearest to a quotient.
-/

import Mathlib
import UnsafeCensus.Proofs.Number.Order

namespace UnsafeCensus

open Rounding

namespace Binary64

variable {numerator denominator numerator' denominator' hundredths hundredths' : Nat}

/-! ### How near a rounded quotient is -/

/-- A rounded quotient is at most half a multiple of its grid below the quotient. -/
theorem le_unitsOf (numerator : Nat) (positive : denominator ≠ 0) :
    2 * (numerator * 2 ^ unitPlaces)
      ≤ denominator * (2 * unitsOf numerator denominator + 2 ^ gridOf numerator denominator) := by
  have near := le_two_mul_roundDiv .toEven (numerator * 2 ^ unitPlaces)
    (denominator * 2 ^ gridOf numerator denominator)
    (Nat.mul_pos (Nat.pos_of_ne_zero positive) (Nat.two_pow_pos _))
  calc 2 * (numerator * 2 ^ unitPlaces)
      ≤ 2 * (denominator * 2 ^ gridOf numerator denominator) * multiplesOf numerator denominator
        + denominator * 2 ^ gridOf numerator denominator := near
    _ = denominator * (2 * unitsOf numerator denominator + 2 ^ gridOf numerator denominator) := by
      unfold unitsOf
      ring

/-- A rounded quotient is at most half a multiple of its grid above the quotient. -/
theorem unitsOf_le (numerator denominator : Nat) :
    2 * (denominator * unitsOf numerator denominator)
      ≤ 2 * (numerator * 2 ^ unitPlaces) + denominator * 2 ^ gridOf numerator denominator := by
  have near := two_mul_roundDiv_le .toEven (numerator * 2 ^ unitPlaces)
    (denominator * 2 ^ gridOf numerator denominator)
  calc 2 * (denominator * unitsOf numerator denominator)
      = 2 * (denominator * 2 ^ gridOf numerator denominator) * multiplesOf numerator denominator := by
        unfold unitsOf
        ring
    _ ≤ 2 * (numerator * 2 ^ unitPlaces) + denominator * 2 ^ gridOf numerator denominator := near

/-- **Quotients that are further apart than a multiple of the coarser grid** are rounded to different numbers. -/
theorem unitsOf_lt (positive : numerator ≠ 0) (positive' : denominator ≠ 0) (nonzero' : denominator' ≠ 0)
    (apart : numerator * denominator' * 2 ^ unitPlaces
        + denominator * denominator' * 2 ^ gridOf numerator' denominator'
      < numerator' * denominator * 2 ^ unitPlaces) :
    unitsOf numerator denominator < unitsOf numerator' denominator' := by
  have nonzero : numerator' ≠ 0 := by
    rintro rfl
    simp at apart
  have ordered : numerator * denominator' ≤ numerator' * denominator :=
    Nat.le_of_mul_le_mul_right (by omega) (Nat.two_pow_pos unitPlaces)
  have grids : 2 ^ gridOf numerator denominator ≤ 2 ^ gridOf numerator' denominator' :=
    Nat.pow_le_pow_right (by decide) (gridOf_mono positive positive' nonzero nonzero' ordered)
  have above := unitsOf_le numerator denominator
  have below := le_unitsOf numerator' nonzero'
  generalize 2 ^ gridOf numerator denominator = grid at above grids
  generalize 2 ^ gridOf numerator' denominator' = grid' at apart below grids
  generalize 2 ^ unitPlaces = unit at *
  by_contra notLess
  refine Nat.lt_irrefl (2 * (numerator' * denominator * unit)) ?_
  calc 2 * (numerator' * denominator * unit) = denominator * (2 * (numerator' * unit)) := by ring
    _ ≤ denominator * (denominator' * (2 * unitsOf numerator' denominator' + grid')) :=
      Nat.mul_le_mul_left _ below
    _ ≤ denominator * (denominator' * (2 * unitsOf numerator denominator + grid')) := by
      gcongr
      omega
    _ = denominator' * (2 * (denominator * unitsOf numerator denominator))
        + denominator * denominator' * grid' := by ring
    _ ≤ denominator' * (2 * (numerator * unit) + denominator * grid')
        + denominator * denominator' * grid' := by
      gcongr
      exact above.trans (by gcongr)
    _ = 2 * (numerator * denominator' * unit + denominator * denominator' * grid') := by ring
    _ < 2 * (numerator' * denominator * unit) := by omega

/-! ### Hundredths -/

/-- Up to `10 ^ 13` a hundredth is more than a multiple of the grid. -/
theorem gridOf_hundredths (positive : hundredths ≠ 0) (small : hundredths ≤ 10 ^ 15) :
    100 * 2 ^ gridOf hundredths 100 < 2 ^ unitPlaces := by
  rcases Nat.eq_zero_or_pos (gridOf hundredths 100) with fine | coarse
  · have places : 2 ^ 7 ≤ 2 ^ unitPlaces := by
      refine Nat.pow_le_pow_right (by decide) ?_
      unfold unitPlaces
      decide
    rw [fine]
    omega
  · have low := (gridOf_bounds positive (by decide)).2 coarse
    rw [Nat.pow_add] at low
    have high : hundredths * 2 ^ unitPlaces ≤ 10 ^ 15 * 2 ^ unitPlaces := Nat.mul_le_mul_right _ small
    have unit := Nat.two_pow_pos unitPlaces
    generalize 2 ^ unitPlaces = unit at *
    generalize 2 ^ gridOf hundredths 100 = grid at *
    omega

theorem unitsOf_zero (positive : denominator ≠ 0) : unitsOf 0 denominator = 0 := by
  have none : multiplesOf 0 denominator = 0 := by
    refine Nat.le_zero.mp (roundDiv_le _ (Nat.mul_pos (Nat.pos_of_ne_zero positive) (Nat.two_pow_pos _)) ?_)
    rw [Nat.zero_mul, Nat.zero_mul]
  unfold unitsOf
  rw [none, Nat.zero_mul]

/-- **Different hundredths up to `10 ^ 13`** are rounded to different numbers. -/
theorem unitsOf_hundredths_lt (less : hundredths < hundredths') (small : hundredths' ≤ 10 ^ 15) :
    unitsOf hundredths 100 < unitsOf hundredths' 100 := by
  have nonzero' := Nat.ne_zero_of_lt less
  have fine := gridOf_hundredths nonzero' small
  rcases Nat.eq_zero_or_pos hundredths with rfl | positive
  -- A hundredth is not rounded to zero.
  · have near := le_unitsOf hundredths' (show 100 ≠ 0 by decide)
    have some_units : 1 * 2 ^ unitPlaces ≤ hundredths' * 2 ^ unitPlaces := Nat.mul_le_mul_right _ less
    rw [unitsOf_zero (by decide)]
    omega
  · refine unitsOf_lt positive.ne' (by decide) (by decide) ?_
    have next : (hundredths + 1) * 2 ^ unitPlaces ≤ hundredths' * 2 ^ unitPlaces :=
      Nat.mul_le_mul_right _ less
    rw [Nat.add_mul] at next
    calc hundredths * 100 * 2 ^ unitPlaces + 100 * 100 * 2 ^ gridOf hundredths' 100
        = 100 * (hundredths * 2 ^ unitPlaces + 100 * 2 ^ gridOf hundredths' 100) := by ring
      _ < 100 * (hundredths * 2 ^ unitPlaces + 1 * 2 ^ unitPlaces) := by omega
      _ ≤ 100 * (hundredths' * 2 ^ unitPlaces) := Nat.mul_le_mul_left _ next
      _ = hundredths' * 100 * 2 ^ unitPlaces := by ring

/-- Hundredths up to `10 ^ 13` are finite. -/
theorem unitsOf_hundredths_within (small : hundredths ≤ 10 ^ 15) :
    unitsOf hundredths 100 < 2 ^ (53 + coarsest) := by
  rcases Nat.eq_zero_or_pos hundredths with rfl | positive
  · rw [unitsOf_zero (by decide)]
    exact Nat.two_pow_pos _
  · have most : unitsOf hundredths 100 ≤ unitsOf (10 ^ 13) 1 :=
      unitsOf_mono positive.ne' (by decide) (by decide) (by decide) (by omega)
    have whole : unitsOf (10 ^ 13) 1 = 10 ^ 13 * 2 ^ unitPlaces := unitsOf_whole (by decide) (by decide)
    have places : unitPlaces ≤ coarsest := by
      unfold unitPlaces coarsest
      decide
    calc unitsOf hundredths 100 ≤ 10 ^ 13 * 2 ^ unitPlaces := most.trans_eq whole
      _ ≤ 10 ^ 13 * 2 ^ coarsest := Nat.mul_le_mul_left _ (Nat.pow_le_pow_right (by decide) places)
      _ < 2 ^ 53 * 2 ^ coarsest := Nat.mul_lt_mul_of_pos_right (by decide) (Nat.two_pow_pos _)
      _ = 2 ^ (53 + coarsest) := by rw [← Nat.pow_add]

/-- The place of hundredths is their number of units. -/
theorem place?_hundredths (small : hundredths ≤ 10 ^ 15) :
    (Amount.real (ofRatio false hundredths 100)).place? = some (0, (unitsOf hundredths 100 : Int)) := by
  have within := unitsOf_hundredths_within small
  rcases Nat.eq_zero_or_pos hundredths with rfl | positive
  · rw [place?_ofRatio_zero, if_neg (Nat.not_le.mpr (Nat.two_pow_pos _)), unitsOf_zero (by decide)]
  · rw [place?_ofRatio positive.ne' (by decide), if_neg (Nat.not_le.mpr within)]

theorem below_of_hundredths_lt (less : hundredths < hundredths') (small : hundredths' ≤ 10 ^ 15) :
    (Amount.real (ofRatio false hundredths 100)).below (.real (ofRatio false hundredths' 100)) = true := by
  have units := unitsOf_hundredths_lt less small
  unfold Amount.below
  rw [place?_hundredths (less.le.trans small), place?_hundredths small]
  simp [units]

/-- **The order of decimals with two places** is that of the numbers they are rounded to, when the lesser one is
below `10 ^ 13`. -/
theorem below_hundredths_iff (small : hundredths < 10 ^ 15) :
    (Amount.real (ofRatio false hundredths 100)).below (.real (ofRatio false hundredths' 100)) = true
      ↔ hundredths < hundredths' := by
  constructor
  · intro below
    by_contra notLess
    have atMost : (Amount.real (ofRatio false hundredths' 100)).AtMost (.real (ofRatio false hundredths 100)) :=
      ofRatio_atMost (by decide) (by decide) (by omega)
    rw [Amount.below_eq_false_of_atMost atMost] at below
    cases below
  · intro less
    rcases Nat.le_total hundredths' (10 ^ 15) with small' | large
    · exact below_of_hundredths_lt less small'
    -- A greater number is not below the decimal `10 ^ 13`.
    · exact Amount.below_of_below_of_atMost (below_of_hundredths_lt small le_rfl)
        (ofRatio_atMost (by decide) (by decide) (by omega))

/-- **A quotient is below the same numbers** whichever way it is written. -/
theorem below_ratio_congr (positive : denominator ≠ 0) (positive' : denominator' ≠ 0)
    (same : numerator * denominator' = numerator' * denominator) (amount : Amount) :
    (Amount.real (ofRatio false numerator denominator)).below amount = true
      ↔ (Amount.real (ofRatio false numerator' denominator')).below amount = true :=
  ⟨Amount.below_of_atMost_of_below (ofRatio_atMost positive' positive same.ge),
    Amount.below_of_atMost_of_below (ofRatio_atMost positive positive' same.le)⟩

/-! ### Decimals -/

theorem digitCount_le {digits count : Nat} (few : digits < 10 ^ count) (positive : 0 < count) :
    digitCount digits ≤ count := by
  unfold digitCount
  split
  · exact Nat.zero_le count
  · exact (Nat.length_toDigits_le_iff (by decide) positive).mpr few

/-- **A decimal becomes the number nearest to a quotient**, as a percentage does. -/
theorem ofDecimal_eq_ofRatio {digits places : Nat} (few : digits < 10 ^ 200) (short : places ≤ 300) :
    ofDecimal false digits (-(places : Int)) = ofRatio false digits (10 ^ places) := by
  have count := digitCount_le few (by decide)
  unfold ofDecimal
  dsimp only
  by_cases zero : digits = 0
  · rw [if_pos zero, zero]
    rfl
  · rw [if_neg zero, if_neg (by omega), if_neg (by omega)]
    rcases Nat.eq_zero_or_pos places with rfl | positive
    · rw [if_neg (by decide), show Nat.pow 10 (-((0 : Nat) : Int)).toNat = 1 from rfl, Nat.mul_one, pow_zero]
    · rw [if_pos (by omega), Int.natAbs_neg, Int.natAbs_natCast, Nat.pow_eq]

end Binary64

end UnsafeCensus
