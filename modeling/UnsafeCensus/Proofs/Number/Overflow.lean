/-
**Integers beyond the numbers of 64 bits.**

The greatest finite number of 64 bits is `2 ^ 1024 - 2 ^ 971`. An integer at least half a unit above it is
rounded to infinity, the half itself too, since the significand there is odd.

* `leastOverflow`: the least natural number that is rounded to infinity;
* `order_one`: the order of a natural number is its binary logarithm;
* `ofRatio_eq_infinite_iff`: a natural number is rounded to infinity exactly from this one on.
-/

import Mathlib
import UnsafeCensus.Number.Binary64

namespace UnsafeCensus.Binary64

open Rounding

/-- The exponent of half a unit of the greatest finite numbers. -/
def halfExponent : Nat := 970

/-- The least natural number beyond the numbers of 64 bits, `2 ^ 1024 - 2 ^ 970`. -/
def leastOverflow : Nat :=
  (2 ^ 54 - 1) * 2 ^ halfExponent

variable {negative : Bool} {number : Nat}

/-- The order of a natural number is its binary logarithm. -/
theorem order_one (positive : number ≠ 0) : order number 1 = Nat.log2 number := by
  have below : belowPower number 1 ((Nat.log2 number : Int) - Nat.log2 1) = false := by
    have least := Nat.log2_self_le positive
    have one : Nat.log2 1 = 0 := rfl
    simp [belowPower, one, least]
  unfold order
  simp only [below]
  rfl

/-- A number with a significand is infinite when its exponent is too great. -/
theorem ofSignificand_eq_infinite_iff {significand : Nat} {exponent : Int} :
    ofSignificand negative significand exponent = infinite negative ↔
      greatestExponent < if significand = 2 ^ 53 then exponent + 1 else exponent := by
  have power : Nat.pow 2 53 = 2 ^ 53 := rfl
  unfold ofSignificand
  rw [power]
  by_cases full : significand = 2 ^ 53
  · rw [if_pos full, if_pos full]
    simp
  · rw [if_neg full, if_neg full]
    simp

/-- A quotient that is rounded to infinity keeps its sign. -/
theorem ofRatio_ne_infinite (negative : Bool) (numerator denominator : Nat) :
    ofRatio negative numerator denominator ≠ infinite (!negative) := by
  have kept (significand : Nat) (exponent : Int) :
      ofSignificand negative significand exponent ≠ infinite (!negative) := by
    unfold ofSignificand
    generalize (if significand = Nat.pow 2 53 then (Nat.pow 2 52, exponent + 1)
      else (significand, exponent)) = pair
    dsimp only
    split
    · cases negative <;> nofun
    · nofun
  unfold ofRatio
  split
  · nofun
  · exact kept _ _

/-- A number of units is rounded to a full significand of two units each exactly from half of one below it on,
since the significand there is odd. -/
theorem roundDiv_eq_full_iff {unit : Nat} (below : number < 2 ^ 54 * unit) :
    roundDiv .toEven number (2 * unit) = 2 ^ 53 ↔ (2 ^ 54 - 1) * unit ≤ number := by
  have positive : 0 < unit := by
    rcases Nat.eq_zero_or_pos unit with rfl | positive
    · omega
    · exact positive
  constructor
  · intro full
    have high := two_mul_roundDiv_le .toEven number (2 * unit)
    rw [full] at high
    omega
  · intro enough
    have whole : number / (2 * unit) = 2 ^ 53 - 1 :=
      Nat.div_eq_of_lt_le (by omega) (by omega)
    have parts := Nat.div_add_mod number (2 * unit)
    rw [whole] at parts
    unfold roundDiv
    simp only [whole]
    rw [if_neg (by omega)]
    split <;> rfl

/-- The whole number of the greatest units that is nearest to a number. -/
theorem scaled_halfExponent :
    scaled .toEven number 1 ((halfExponent + 1 : Nat) : Int)
      = roundDiv .toEven number (2 * 2 ^ halfExponent) := by
  unfold scaled
  rw [if_neg (by omega), Int.toNat_natCast, Nat.one_mul, Nat.pow_eq, Nat.pow_succ, Nat.mul_comm]

/-- A natural number is infinite when its order is too great, after it was rounded. -/
theorem ofRatio_one_eq_infinite_iff (positive : number ≠ 0) :
    ofRatio negative number 1 = infinite negative ↔
      ((halfExponent + 1 : Nat) : Int)
        < if scaled .toEven number 1 ((Nat.log2 number : Int) - 52) = 2 ^ 53
          then (Nat.log2 number : Int) - 52 + 1 else (Nat.log2 number : Int) - 52 := by
  have exponent : max ((Nat.log2 number : Int) - 52) leastExponent = (Nat.log2 number : Int) - 52 := by
    unfold leastExponent
    omega
  unfold ofRatio
  rw [if_neg positive, order_one positive, ofSignificand_eq_infinite_iff, exponent]
  rfl

theorem lt_leastOverflow_of_log2_lt (less : Nat.log2 number < 53 + halfExponent) :
    number < leastOverflow := by
  have most : number < 2 ^ (Nat.log2 number + 1) := Nat.lt_log2_self
  have bound : 2 ^ (Nat.log2 number + 1) ≤ 2 ^ 53 * 2 ^ halfExponent := by
    rw [← Nat.pow_add]
    exact Nat.pow_le_pow_right (by decide) less
  unfold leastOverflow
  omega

theorem leastOverflow_le_of_lt_log2 (more : 53 + halfExponent < Nat.log2 number) :
    leastOverflow ≤ number := by
  have zero : Nat.log2 0 = 0 := Nat.log2_zero
  have positive : number ≠ 0 := by
    rintro rfl
    omega
  have least := Nat.log2_self_le positive
  have bound : 2 ^ 54 * 2 ^ halfExponent ≤ 2 ^ Nat.log2 number := by
    rw [← Nat.pow_add]
    exact Nat.pow_le_pow_right (by decide) (by omega)
  unfold leastOverflow
  omega

/-- **A natural number is rounded to infinity** exactly from the least overflow on. -/
theorem ofRatio_eq_infinite_iff :
    ofRatio negative number 1 = infinite negative ↔ leastOverflow ≤ number := by
  by_cases zero : number = 0
  · have above : ¬ leastOverflow ≤ number := by
      rw [zero]
      decide +kernel
    unfold ofRatio
    rw [if_pos zero]
    exact ⟨nofun, fun beyond => absurd beyond above⟩
  rw [ofRatio_one_eq_infinite_iff zero]
  rcases Nat.lt_trichotomy (Nat.log2 number) (53 + halfExponent) with less | same | more
  · have below := lt_leastOverflow_of_log2_lt less
    constructor
    · intro above
      split at above <;> omega
    · intro above
      omega
  -- Of this order, the numbers from half a unit below the next order on are rounded up to it.
  · have unit : (Nat.log2 number : Int) - 52 = (halfExponent + 1 : Nat) := by omega
    have below : number < 2 ^ 54 * 2 ^ halfExponent := by
      have most : number < 2 ^ (Nat.log2 number + 1) := Nat.lt_log2_self
      rw [← Nat.pow_add]
      rwa [same, show 53 + halfExponent + 1 = 54 + halfExponent by omega] at most
    rw [unit, scaled_halfExponent, leastOverflow, ← roundDiv_eq_full_iff below]
    by_cases full : roundDiv .toEven number (2 * 2 ^ halfExponent) = 2 ^ 53
    · rw [if_pos full]
      exact ⟨fun _ => full, fun _ => by omega⟩
    · rw [if_neg full]
      exact ⟨fun above => absurd above (by omega), fun holds => absurd holds full⟩
  · have beyond := leastOverflow_le_of_lt_log2 more
    constructor
    · intro above
      exact beyond
    · intro above
      split <;> omega

end UnsafeCensus.Binary64
