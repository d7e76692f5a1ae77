/-
**Rounding to 64 bits keeps the order.**

A quotient is rounded to a multiple of a power of two, which grows with the quotient so that 53 bits are enough.
In units of the least positive number all these are whole numbers, and the greater quotient has no fewer of
them: on one grid since rounding keeps the order, and on two grids since a number of 54 bits stands between.

* `order_bounds`: a quotient lies between two powers of two;
* `gridOf`, `gridOf_bounds`: the grid on which a quotient is rounded has as few places as 53 bits allow;
* `unitsOf`: a rounded quotient in units of the least positive number;
* `unitsOf_mono`: quotients in order are rounded to numbers in order;
* `place?_ofRatio`: the place of a rounded quotient in the order of amounts;
* `Amount.AtMost`, `Amount.atMost_iff`: one amount is not above another, when both are numbers;
* `place?_ofRatio_whole`: a whole number of 53 bits keeps its place;
* `ofRatio_atMost`: quotients in order become amounts in order.
-/

import Mathlib
import UnsafeCensus.Number.Binary64
import UnsafeCensus.Proofs.Number.Rounding

namespace UnsafeCensus

open Rounding

namespace Binary64

variable {numerator denominator numerator' denominator' : Nat}

/-! ### The order of a quotient -/

theorem belowPower_iff (exponent : Int) :
    belowPower numerator denominator exponent = true ↔ (numerator : ℚ) < denominator * 2 ^ exponent := by
  unfold belowPower
  by_cases negative : exponent < 0
  · have power : (2 : ℚ) ^ exponent = (2 ^ exponent.natAbs)⁻¹ := by
      rw [← zpow_natCast, ← zpow_neg]
      congr 1
      omega
    have positive : (0 : ℚ) < 2 ^ exponent.natAbs := by positivity
    rw [if_pos negative, decide_eq_true_eq, power, ← div_eq_mul_inv, lt_div_iff₀ positive, Nat.pow_eq]
    exact_mod_cast Iff.rfl
  · have power : (2 : ℚ) ^ exponent = 2 ^ exponent.toNat := by
      rw [← zpow_natCast]
      congr 1
      omega
    rw [if_neg negative, decide_eq_true_eq, power, Nat.pow_eq]
    exact_mod_cast Iff.rfl

/-- The difference of two binary logarithms is the order of a quotient or one more. -/
theorem log2_bounds (positive : numerator ≠ 0) (positive' : denominator ≠ 0) :
    (denominator : ℚ) * 2 ^ ((Nat.log2 numerator : Int) - Nat.log2 denominator - 1) ≤ numerator
      ∧ (numerator : ℚ) < denominator * 2 ^ ((Nat.log2 numerator : Int) - Nat.log2 denominator + 1) := by
  have least : (2 : ℚ) ^ (Nat.log2 numerator : Int) ≤ numerator := by
    rw [zpow_natCast]
    exact_mod_cast Nat.log2_self_le positive
  have most : (numerator : ℚ) < 2 ^ ((Nat.log2 numerator : Int) + 1) := by
    exact_mod_cast @Nat.lt_log2_self numerator
  have least' : (2 : ℚ) ^ (Nat.log2 denominator : Int) ≤ denominator := by
    rw [zpow_natCast]
    exact_mod_cast Nat.log2_self_le positive'
  have most' : (denominator : ℚ) < 2 ^ ((Nat.log2 denominator : Int) + 1) := by
    exact_mod_cast @Nat.lt_log2_self denominator
  constructor
  · calc (denominator : ℚ) * 2 ^ ((Nat.log2 numerator : Int) - Nat.log2 denominator - 1)
        ≤ 2 ^ ((Nat.log2 denominator : Int) + 1)
          * 2 ^ ((Nat.log2 numerator : Int) - Nat.log2 denominator - 1) := by gcongr
      _ = 2 ^ (Nat.log2 numerator : Int) := by
          rw [← zpow_add₀ two_ne_zero]
          congr 1
          ring
      _ ≤ numerator := least
  · calc (numerator : ℚ) < 2 ^ ((Nat.log2 numerator : Int) + 1) := most
      _ = 2 ^ (Nat.log2 denominator : Int)
          * 2 ^ ((Nat.log2 numerator : Int) - Nat.log2 denominator + 1) := by
          rw [← zpow_add₀ two_ne_zero]
          congr 1
          ring
      _ ≤ denominator * 2 ^ ((Nat.log2 numerator : Int) - Nat.log2 denominator + 1) := by gcongr

/-- **A quotient lies between two powers of two**, that of its order and the next one. -/
theorem order_bounds (positive : numerator ≠ 0) (positive' : denominator ≠ 0) :
    (denominator : ℚ) * 2 ^ order numerator denominator ≤ numerator
      ∧ (numerator : ℚ) < denominator * 2 ^ (order numerator denominator + 1) := by
  obtain ⟨low, high⟩ := log2_bounds positive positive'
  unfold order
  dsimp only
  by_cases below : belowPower numerator denominator
      ((Nat.log2 numerator : Int) - Nat.log2 denominator) = true
  · rw [if_pos below, sub_add_cancel]
    exact ⟨low, (belowPower_iff _).mp below⟩
  · rw [if_neg below]
    exact ⟨not_lt.mp (mt (belowPower_iff _).mpr below), high⟩

/-! ### The grid of a quotient -/

/-- How many places the least positive number has after the binary point. -/
@[irreducible] def unitPlaces : Nat := 1074

theorem leastExponent_eq : leastExponent = -(unitPlaces : Int) := by
  unfold leastExponent unitPlaces
  rfl

/-- The power of two, in units of the least positive number, to whose multiples a quotient is rounded. -/
def gridOf (numerator denominator : Nat) : Nat :=
  (max (order numerator denominator - 52) leastExponent - leastExponent).toNat

theorem exponent_eq (numerator denominator : Nat) :
    max (order numerator denominator - 52) leastExponent
      = (gridOf numerator denominator : Int) - unitPlaces := by
  unfold gridOf
  rw [leastExponent_eq]
  omega

/-- **On its grid a quotient has 53 bits at most**, and on a coarse grid it has all of them. -/
theorem gridOf_bounds (positive : numerator ≠ 0) (positive' : denominator ≠ 0) :
    numerator * 2 ^ unitPlaces < denominator * 2 ^ (gridOf numerator denominator + 53)
      ∧ (0 < gridOf numerator denominator →
          denominator * 2 ^ (gridOf numerator denominator + 52) ≤ numerator * 2 ^ unitPlaces) := by
  obtain ⟨low, high⟩ := order_bounds positive positive'
  have exponent := exponent_eq numerator denominator
  have scale (places : Nat) : (2 : ℚ) ^ ((places : Int) - unitPlaces) * 2 ^ unitPlaces = 2 ^ places := by
    rw [← zpow_natCast 2 unitPlaces, ← zpow_add₀ two_ne_zero, sub_add_cancel, zpow_natCast]
  have least := leastExponent_eq
  constructor
  · have above : order numerator denominator + 1
        ≤ ((gridOf numerator denominator + 53 : Nat) : Int) - unitPlaces := by omega
    have grown : (numerator : ℚ) * 2 ^ unitPlaces
        < denominator * 2 ^ (gridOf numerator denominator + 53) :=
      calc (numerator : ℚ) * 2 ^ unitPlaces
          < denominator * 2 ^ (order numerator denominator + 1) * 2 ^ unitPlaces := by gcongr
        _ ≤ denominator * 2 ^ (((gridOf numerator denominator + 53 : Nat) : Int) - unitPlaces)
            * 2 ^ unitPlaces := by
          gcongr
          exact one_le_two
        _ = denominator * 2 ^ (gridOf numerator denominator + 53) := by rw [mul_assoc, scale]
    exact_mod_cast grown
  · intro coarse
    have same : order numerator denominator
        = ((gridOf numerator denominator + 52 : Nat) : Int) - unitPlaces := by omega
    have grown : (denominator : ℚ) * 2 ^ (gridOf numerator denominator + 52)
        ≤ numerator * 2 ^ unitPlaces :=
      calc (denominator : ℚ) * 2 ^ (gridOf numerator denominator + 52)
          = denominator * 2 ^ order numerator denominator * 2 ^ unitPlaces := by
            rw [same, mul_assoc, scale]
        _ ≤ numerator * 2 ^ unitPlaces := by gcongr
    exact_mod_cast grown

/-- A quotient rounded on its grid, as a multiple of the grid. -/
def multiplesOf (numerator denominator : Nat) : Nat :=
  roundDiv .toEven (numerator * 2 ^ unitPlaces) (denominator * 2 ^ gridOf numerator denominator)

/-- A rounded quotient in units of the least positive number. -/
def unitsOf (numerator denominator : Nat) : Nat :=
  multiplesOf numerator denominator * 2 ^ gridOf numerator denominator

theorem multiplesOf_le (positive : numerator ≠ 0) (positive' : denominator ≠ 0) :
    multiplesOf numerator denominator ≤ 2 ^ 53 := by
  have bound := (gridOf_bounds positive positive').1
  refine roundDiv_le _ (Nat.mul_pos (Nat.pos_of_ne_zero positive') (Nat.two_pow_pos _)) ?_
  calc numerator * 2 ^ unitPlaces
      ≤ denominator * 2 ^ (gridOf numerator denominator + 53) := bound.le
    _ = 2 ^ 53 * (denominator * 2 ^ gridOf numerator denominator) := by ring

theorem le_multiplesOf (positive : numerator ≠ 0) (positive' : denominator ≠ 0)
    (coarse : 0 < gridOf numerator denominator) : 2 ^ 52 ≤ multiplesOf numerator denominator := by
  have bound := (gridOf_bounds positive positive').2 coarse
  refine le_roundDiv _ (Nat.mul_pos (Nat.pos_of_ne_zero positive') (Nat.two_pow_pos _)) ?_
  calc 2 ^ 52 * (denominator * 2 ^ gridOf numerator denominator)
      = denominator * 2 ^ (gridOf numerator denominator + 52) := by ring
    _ ≤ numerator * 2 ^ unitPlaces := bound

/-- A greater quotient has no finer grid. -/
theorem gridOf_mono (positive : numerator ≠ 0) (positive' : denominator ≠ 0) (nonzero : numerator' ≠ 0)
    (nonzero' : denominator' ≠ 0) (ordered : numerator * denominator' ≤ numerator' * denominator) :
    gridOf numerator denominator ≤ gridOf numerator' denominator' := by
  by_contra finer
  have low := (gridOf_bounds positive positive').2 (Nat.zero_lt_of_lt (Nat.lt_of_not_le finer))
  have high := (gridOf_bounds nonzero nonzero').1
  have powers : 2 ^ (gridOf numerator' denominator' + 53) ≤ 2 ^ (gridOf numerator denominator + 52) :=
    Nat.pow_le_pow_right (by decide) (by omega)
  generalize 2 ^ (gridOf numerator' denominator' + 53) = power' at high powers
  generalize 2 ^ (gridOf numerator denominator + 52) = power at low powers
  generalize 2 ^ unitPlaces = unit at low high
  refine Nat.lt_irrefl (denominator * power * denominator') ?_
  calc denominator * power * denominator'
      ≤ numerator * unit * denominator' := Nat.mul_le_mul_right _ low
    _ = numerator * denominator' * unit := by ring
    _ ≤ numerator' * denominator * unit := Nat.mul_le_mul_right _ ordered
    _ = numerator' * unit * denominator := by ring
    _ < denominator' * power' * denominator :=
      Nat.mul_lt_mul_of_pos_right high (Nat.pos_of_ne_zero positive')
    _ ≤ denominator' * power * denominator := Nat.mul_le_mul_right _ (Nat.mul_le_mul_left _ powers)
    _ = denominator * power * denominator' := by ring

/-- **Quotients in order are rounded to numbers in order.** -/
theorem unitsOf_mono (positive : numerator ≠ 0) (positive' : denominator ≠ 0) (nonzero : numerator' ≠ 0)
    (nonzero' : denominator' ≠ 0) (ordered : numerator * denominator' ≤ numerator' * denominator) :
    unitsOf numerator denominator ≤ unitsOf numerator' denominator' := by
  unfold unitsOf
  rcases Nat.lt_or_eq_of_le (gridOf_mono positive positive' nonzero nonzero' ordered) with coarser | same
  -- The power of two between the two grids is a multiple of both.
  · calc multiplesOf numerator denominator * 2 ^ gridOf numerator denominator
        ≤ 2 ^ 53 * 2 ^ gridOf numerator denominator :=
          Nat.mul_le_mul_right _ (multiplesOf_le positive positive')
      _ = 2 ^ 52 * 2 ^ (gridOf numerator denominator + 1) := by ring
      _ ≤ 2 ^ 52 * 2 ^ gridOf numerator' denominator' :=
          Nat.mul_le_mul_left _ (Nat.pow_le_pow_right (by decide) coarser)
      _ ≤ multiplesOf numerator' denominator' * 2 ^ gridOf numerator' denominator' :=
          Nat.mul_le_mul_right _ (le_multiplesOf nonzero nonzero' (Nat.zero_lt_of_lt coarser))
  · unfold multiplesOf
    rw [← same]
    have power_pos : 0 < 2 ^ gridOf numerator denominator := Nat.two_pow_pos _
    generalize 2 ^ gridOf numerator denominator = power at power_pos
    generalize 2 ^ unitPlaces = unit
    refine Nat.mul_le_mul_right _ (roundDiv_mono _ (Nat.mul_pos (Nat.pos_of_ne_zero positive') power_pos)
      (Nat.mul_pos (Nat.pos_of_ne_zero nonzero') power_pos) ?_)
    calc numerator * unit * (denominator' * power)
        = numerator * denominator' * (unit * power) := by ring
      _ ≤ numerator' * denominator * (unit * power) := Nat.mul_le_mul_right _ ordered
      _ = numerator' * unit * (denominator * power) := by ring

/-! ### The place of a rounded quotient -/

/-- The coarsest grid of finite numbers. -/
def coarsest : Nat := 2045

theorem scaled_gridOf (positive' : denominator ≠ 0) :
    scaled .toEven numerator denominator ((gridOf numerator denominator : Int) - unitPlaces)
      = multiplesOf numerator denominator := by
  have positive := Nat.pos_of_ne_zero positive'
  unfold scaled multiplesOf
  generalize gridOf numerator denominator = grid
  by_cases negative : (grid : Int) - unitPlaces < 0
  · have split : 2 ^ unitPlaces = 2 ^ grid * 2 ^ ((grid : Int) - unitPlaces).natAbs := by
      rw [← Nat.pow_add]
      congr 1
      omega
    rw [if_pos negative, Nat.pow_eq, split, Nat.mul_comm denominator,
      show numerator * (2 ^ grid * 2 ^ ((grid : Int) - unitPlaces).natAbs)
        = 2 ^ grid * (numerator * 2 ^ ((grid : Int) - unitPlaces).natAbs) by ring,
      roundDiv_scale _ positive (Nat.two_pow_pos _)]
  · have split : 2 ^ grid = 2 ^ unitPlaces * 2 ^ ((grid : Int) - unitPlaces).toNat := by
      rw [← Nat.pow_add]
      congr 1
      omega
    rw [if_neg negative, Nat.pow_eq, split, Nat.mul_comm numerator,
      show denominator * (2 ^ unitPlaces * 2 ^ ((grid : Int) - unitPlaces).toNat)
        = 2 ^ unitPlaces * (denominator * 2 ^ ((grid : Int) - unitPlaces).toNat) by ring,
      roundDiv_scale _ (Nat.mul_pos positive (Nat.two_pow_pos _)) (Nat.two_pow_pos _)]

theorem units_grid (significand grid : Nat) :
    units false significand ((grid : Int) - unitPlaces) = ((significand * 2 ^ grid : Nat) : Int) := by
  have places : ((grid : Int) - unitPlaces - leastExponent).toNat = grid := by
    rw [leastExponent_eq]
    omega
  unfold units
  rw [places, Nat.pow_eq]
  push_cast
  rfl

/-- A significand on a grid is finite exactly when it is below what the coarsest grid holds. -/
theorem place?_grid {significand grid : Nat} (most : significand < 2 ^ 53)
    (least : 0 < grid → 2 ^ 52 ≤ significand) :
    (Amount.real (if greatestExponent < (grid : Int) - unitPlaces then infinite false
        else finite false significand ((grid : Int) - unitPlaces))).place?
      = some (if 2 ^ (53 + coarsest) ≤ significand * 2 ^ grid then (1, 0)
          else (0, ((significand * 2 ^ grid : Nat) : Int))) := by
  have limit : greatestExponent = (coarsest : Int) - unitPlaces := by
    unfold greatestExponent coarsest unitPlaces
    rfl
  rw [limit]
  by_cases coarse : coarsest < grid
  · have beyond : 2 ^ (53 + coarsest) ≤ significand * 2 ^ grid :=
      calc 2 ^ (53 + coarsest) = 2 ^ 52 * 2 ^ (coarsest + 1) := by ring
        _ ≤ 2 ^ 52 * 2 ^ grid := Nat.mul_le_mul_left _ (Nat.pow_le_pow_right (by decide) coarse)
        _ ≤ significand * 2 ^ grid := Nat.mul_le_mul_right _ (least (Nat.zero_lt_of_lt coarse))
    rw [if_pos beyond, if_pos (by omega)]
    rfl
  · have within : significand * 2 ^ grid < 2 ^ (53 + coarsest) :=
      calc significand * 2 ^ grid < 2 ^ 53 * 2 ^ grid :=
          Nat.mul_lt_mul_of_pos_right most (Nat.two_pow_pos _)
        _ ≤ 2 ^ 53 * 2 ^ coarsest :=
          Nat.mul_le_mul_left _ (Nat.pow_le_pow_right (by decide) (Nat.not_lt.mp coarse))
        _ = 2 ^ (53 + coarsest) := by ring
    rw [if_neg (Nat.not_le.mpr within), if_neg (by omega), ← units_grid]
    rfl

/-- A significand of 54 bits is one of the next grid. -/
theorem place?_ofSignificand {significand grid : Nat} (most : significand ≤ 2 ^ 53)
    (least : 0 < grid → 2 ^ 52 ≤ significand) :
    (Amount.real (ofSignificand false significand ((grid : Int) - unitPlaces))).place?
      = some (if 2 ^ (53 + coarsest) ≤ significand * 2 ^ grid then (1, 0)
          else (0, ((significand * 2 ^ grid : Nat) : Int))) := by
  unfold ofSignificand
  rw [Nat.pow_eq, Nat.pow_eq]
  rcases Nat.lt_or_eq_of_le most with below | full
  · rw [if_neg below.ne]
    exact place?_grid below least
  · have next : (grid : Int) - unitPlaces + 1 = ((grid + 1 : Nat) : Int) - unitPlaces := by omega
    have same : 2 ^ 53 * 2 ^ grid = 2 ^ 52 * 2 ^ (grid + 1) := by ring
    rw [if_pos full, full, same, next]
    exact place?_grid (by decide) (fun _ => le_rfl)

/-- **The place of a rounded quotient** is its number of units, or beyond all of them. -/
theorem place?_ofRatio (positive : numerator ≠ 0) (positive' : denominator ≠ 0) :
    (Amount.real (ofRatio false numerator denominator)).place?
      = some (if 2 ^ (53 + coarsest) ≤ unitsOf numerator denominator then (1, 0)
          else (0, (unitsOf numerator denominator : Int))) := by
  unfold ofRatio
  rw [if_neg positive, exponent_eq]
  dsimp only
  rw [scaled_gridOf positive']
  exact place?_ofSignificand (multiplesOf_le positive positive') (le_multiplesOf positive positive')

end Binary64

/-! ### The order of amounts -/

namespace Amount

variable {first second third : Amount}

/-- One amount is below another, or in the same place; what is no number is in a place of its own. -/
def AtMost (first second : Amount) : Prop :=
  first.below second = true ∨ first.place? = second.place?

theorem below_of_atMost_of_below (left : first.AtMost second) (right : second.below third = true) :
    first.below third = true := by
  rcases left with less | same
  · exact below_trans less right
  · unfold below at right ⊢
    rwa [same]

theorem below_of_below_of_atMost (left : first.below second = true) (right : second.AtMost third) :
    first.below third = true := by
  rcases right with less | same
  · exact below_trans left less
  · unfold below at left ⊢
    rwa [← same]

theorem below_eq_false_of_atMost (atMost : first.AtMost second) : second.below first = false := by
  by_contra below
  have less := below_of_atMost_of_below atMost (Bool.eq_true_of_not_eq_false below)
  rw [below_self] at less
  cases less

/-- Of two amounts that are numbers one is at most the other when it is not above it. -/
theorem atMost_iff (number : first.place?.isSome = true) (number' : second.place?.isSome = true) :
    first.AtMost second ↔ second.below first = false := by
  refine ⟨below_eq_false_of_atMost, fun notAbove => ?_⟩
  obtain ⟨⟨rank, value⟩, place⟩ := Option.isSome_iff_exists.mp number
  obtain ⟨⟨rank', value'⟩, place'⟩ := Option.isSome_iff_exists.mp number'
  unfold AtMost below at *
  rw [place, place'] at notAbove ⊢
  simp only [Bool.or_eq_false_iff, Bool.and_eq_false_iff, decide_eq_false_iff_not, beq_eq_false_iff_ne]
    at notAbove
  simp only [Bool.or_eq_true, Bool.and_eq_true, decide_eq_true_eq, beq_iff_eq, Option.some.injEq,
    Prod.mk.injEq]
  omega

theorem isSome_place?_real {value : Binary64} (number : value ≠ .nan) :
    (real value).place?.isSome = true := by
  cases value with
  | nan => exact absurd rfl number
  | infinite negative | finite negative significand exponent => rfl

theorem atMost_congr (same : second.place? = third.place?) : first.AtMost second ↔ first.AtMost third := by
  unfold AtMost below
  rw [same]

/-- Finite amounts in order, with all that are too large in one place beyond them. -/
theorem atMost_of_place? {bound units units' : Nat} (ordered : units ≤ units')
    (place : first.place? = some (if bound ≤ units then (1, 0) else (0, (units : Int))))
    (place' : second.place? = some (if bound ≤ units' then (1, 0) else (0, (units' : Int)))) :
    first.AtMost second := by
  unfold AtMost below
  rw [place, place']
  by_cases beyond : bound ≤ units
  · rw [if_pos beyond, if_pos (beyond.trans ordered)]
    exact .inr rfl
  · rw [if_neg beyond]
    by_cases beyond' : bound ≤ units'
    · rw [if_pos beyond']
      exact .inl rfl
    · rw [if_neg beyond']
      rcases Nat.lt_or_eq_of_le ordered with less | same
      · exact .inl (by simp [less])
      · exact .inr (by rw [same])

end Amount

namespace Binary64

theorem place?_ofRatio_zero (denominator : Nat) :
    (Amount.real (ofRatio false 0 denominator)).place?
      = some (if 2 ^ (53 + coarsest) ≤ 0 then (1, 0) else (0, ((0 : Nat) : Int))) := by
  rw [if_neg (Nat.not_le.mpr (Nat.two_pow_pos _))]
  rfl

/-- A whole number of 53 bits is a multiple of its grid, so nothing is rounded. -/
theorem unitsOf_whole {number : Nat} (positive : number ≠ 0) (small : number < 2 ^ 53) :
    unitsOf number 1 = number * 2 ^ unitPlaces := by
  have fine : gridOf number 1 ≤ unitPlaces := by
    by_contra coarse
    have low := (gridOf_bounds positive one_ne_zero).2 (by omega)
    have powers : 2 ^ (53 + unitPlaces) ≤ 2 ^ (gridOf number 1 + 52) :=
      Nat.pow_le_pow_right (by decide) (by omega)
    have high : number * 2 ^ unitPlaces < 2 ^ 53 * 2 ^ unitPlaces :=
      Nat.mul_lt_mul_of_pos_right small (Nat.two_pow_pos _)
    rw [← Nat.pow_add] at high
    omega
  have split : 2 ^ unitPlaces = 2 ^ (unitPlaces - gridOf number 1) * 2 ^ gridOf number 1 := by
    rw [← Nat.pow_add, Nat.sub_add_cancel fine]
  unfold unitsOf multiplesOf
  generalize gridOf number 1 = grid at split
  rw [Nat.one_mul, split, ← Nat.mul_assoc, roundDiv_mul_self _ (Nat.two_pow_pos grid)]

/-- **A whole number of 53 bits is a number of 64 bits.** -/
theorem place?_ofRatio_whole {number : Nat} (small : number < 2 ^ 53) :
    (Amount.real (ofRatio false number 1)).place? = (Amount.whole number).place? := by
  have whole : (Amount.whole number).place? = some (0, ((number * 2 ^ unitPlaces : Nat) : Int)) := by
    have places : unitPlaces = 1074 := by
      unfold unitPlaces
      rfl
    show some ((0 : Int), (number : Int) * ((Nat.pow 2 1074 : Nat) : Int)) = _
    rw [← places, Nat.pow_eq, Nat.cast_mul]
  rcases Nat.eq_zero_or_pos number with rfl | positive
  · rw [place?_ofRatio_zero, if_neg (Nat.not_le.mpr (Nat.two_pow_pos _)), whole, Nat.zero_mul]
  · have within : number * 2 ^ unitPlaces < 2 ^ (53 + coarsest) :=
      calc number * 2 ^ unitPlaces < 2 ^ 53 * 2 ^ unitPlaces :=
          Nat.mul_lt_mul_of_pos_right small (Nat.two_pow_pos _)
        _ ≤ 2 ^ 53 * 2 ^ coarsest := by
          refine Nat.mul_le_mul_left _ (Nat.pow_le_pow_right (by decide) ?_)
          unfold unitPlaces coarsest
          decide
        _ = 2 ^ (53 + coarsest) := by ring
    rw [place?_ofRatio positive.ne' one_ne_zero, unitsOf_whole positive.ne' small,
      if_neg (Nat.not_le.mpr within), whole]

/-- **Quotients in order become amounts in order.** -/
theorem ofRatio_atMost {numerator denominator numerator' denominator' : Nat} (positive : denominator ≠ 0)
    (positive' : denominator' ≠ 0) (ordered : numerator * denominator' ≤ numerator' * denominator) :
    (Amount.real (ofRatio false numerator denominator)).AtMost
      (.real (ofRatio false numerator' denominator')) := by
  by_cases zero : numerator = 0
  · rw [zero]
    by_cases zero' : numerator' = 0
    · rw [zero']
      exact .inr ((place?_ofRatio_zero _).trans (place?_ofRatio_zero _).symm)
    · exact Amount.atMost_of_place? (Nat.zero_le _) (place?_ofRatio_zero _) (place?_ofRatio zero' positive')
  · have nonzero' : numerator' ≠ 0 := by
      rintro rfl
      rw [Nat.zero_mul, Nat.le_zero, Nat.mul_eq_zero] at ordered
      exact ordered.elim zero positive'
    exact Amount.atMost_of_place? (unitsOf_mono zero positive nonzero' positive' ordered)
      (place?_ofRatio zero positive) (place?_ofRatio nonzero' positive')

/-- No whole number is rounded to one below zero. -/
theorem whole_zero_atMost_ofRatio (numerator : Nat) :
    (Amount.whole 0).AtMost (.real (ofRatio false numerator 1)) := by
  have ordered : (Amount.real (ofRatio false 0 1)).AtMost (.real (ofRatio false numerator 1)) :=
    ofRatio_atMost one_ne_zero one_ne_zero (by omega)
  have zero : (Amount.real (ofRatio false 0 1)).place? = (Amount.whole 0).place? :=
    place?_ofRatio_whole (by decide)
  unfold Amount.AtMost Amount.below at *
  rwa [zero] at ordered

end Binary64

end UnsafeCensus
