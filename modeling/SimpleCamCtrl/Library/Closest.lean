import SimpleCamCtrl.Library.Approximation
import Mathlib.NumberTheory.DiophantineApproximation.Basic

/-!
# Closest points

The point of a set that is closest to a value.  Whatever the set, closest points are in the
order of their values.  For the fractions with bounded numerator and denominator, Dirichlet's
theorem says how close the closest one is.
-/

namespace Approximation

section Closest

variable {K : Type*} [Field K] [LinearOrder K]

/-- The point belongs to the set, and no other point of it is closer to the value. -/
structure IsClosest (points : Set K) (value point : K) : Prop where
  mem : point ∈ points
  le : ∀ other ∈ points, |value - point| ≤ |value - other|

variable [IsStrictOrderedRing K] {points : Set K} {value value' point point' : K}

/-- The value is on the side of the point that it is closer to. -/
theorem add_le_two_mul (ordered : point' < point) (closer : |value - point| ≤ |value - point'|) :
    point + point' ≤ 2 * value := by
  have squares := sq_le_sq.mpr closer
  have factored : (point - point') * (point + point' - 2 * value) ≤ 0 := by
    calc (point - point') * (point + point' - 2 * value)
        = (value - point) ^ 2 - (value - point') ^ 2 := by ring
      _ ≤ 0 := sub_nonpos.mpr squares
  have side := nonpos_of_mul_nonpos_right factored (sub_pos.mpr ordered)
  linarith

theorem two_mul_le_add (ordered : point' < point) (closer : |value - point'| ≤ |value - point|) :
    2 * value ≤ point + point' := by
  have squares := sq_le_sq.mpr closer
  have factored : 0 ≤ (point - point') * (point + point' - 2 * value) := by
    calc 0 ≤ (value - point) ^ 2 - (value - point') ^ 2 := sub_nonneg.mpr squares
      _ = (point - point') * (point + point' - 2 * value) := by ring
  have side := nonneg_of_mul_nonneg_right factored (sub_pos.mpr ordered)
  linarith

/-- Closest points are in the order of their values. -/
theorem IsClosest.le_of_lt (closest : IsClosest points value point)
    (closest' : IsClosest points value' point') (ordered : value < value') : point ≤ point' := by
  by_contra reversed
  have left := add_le_two_mul (not_le.mp reversed) (closest.le _ closest'.mem)
  have right := two_mul_le_add (not_le.mp reversed) (closest'.le _ closest.mem)
  linarith

/-- A function that picks closest points is monotone where it does. -/
theorem monotoneOn_of_isClosest {pick : K → K} {values : Set K}
    (picks : ∀ value ∈ values, IsClosest points value (pick value)) : MonotoneOn pick values := by
  intro value inside value' inside' ordered
  rcases ordered.eq_or_lt with rfl | less
  · exact le_rfl
  · exact (picks value inside).le_of_lt (picks value' inside') less

end Closest

/-- The fractions with numerator and denominator up to a limit each. -/
def boundedFractions (limit bound : ℕ) : Set ℚ :=
  {point | ∃ numerator denominator : ℕ, (1 ≤ numerator ∧ numerator ≤ limit) ∧
    (1 ≤ denominator ∧ denominator ≤ bound) ∧ point = numerator / denominator}

/-- Dirichlet's theorem for rational values and natural denominators. -/
theorem exists_round_near (value : ℚ) {bound : ℕ} (boundPos : 1 ≤ bound) :
    ∃ denominator : ℕ, 1 ≤ denominator ∧ denominator ≤ bound ∧
      |value * denominator - round (value * denominator)| ≤ 1 / (bound + 1) := by
  rcases Real.exists_nat_abs_mul_sub_round_le (value : ℝ) boundPos with
    ⟨denominator, positive, atMost, near⟩
  refine ⟨denominator, positive, atMost, ?_⟩
  have same : (denominator : ℝ) * (value : ℝ) = ((value * denominator : ℚ) : ℝ) := by
    push_cast
    ring
  rw [same, Rat.round_cast] at near
  have cast : ((|value * denominator - round (value * denominator)| : ℚ) : ℝ) ≤
      ((1 / (bound + 1) : ℚ) : ℝ) := by
    push_cast at near ⊢
    exact near
  exact Rat.cast_le.mp cast

/-- A close rounding that fits gives a bounded fraction, as close as that. -/
theorem exists_mem_boundedFractions_of_near {value slack : ℚ} {limit bound denominator : ℕ}
    (denominatorPos : 1 ≤ denominator) (denominatorLe : denominator ≤ bound)
    (fits : value * denominator ≤ limit) (slackNonneg : 0 ≤ slack) (atLeast : slack < value)
    (near : |value * denominator - round (value * denominator)| ≤ slack) :
    1 - slack ≤ value * denominator ∧
      ∃ point ∈ boundedFractions limit bound, |value - point| ≤ slack / denominator := by
  have denominatorPos' : (1 : ℚ) ≤ denominator := by exact_mod_cast denominatorPos
  have grows : value ≤ value * denominator :=
    le_mul_of_one_le_right (slackNonneg.trans atLeast.le) denominatorPos'
  rcases abs_le.mp near with ⟨notAbove, notBelow⟩
  have roundPos : 1 ≤ round (value * denominator) := by
    have positive : (0 : ℚ) < round (value * denominator) := by linarith
    exact_mod_cast positive
  have roundPos' : (1 : ℚ) ≤ round (value * denominator) := by exact_mod_cast roundPos
  have roundLe : round (value * denominator) ≤ limit := by
    rw [← not_lt, lt_round_iff]
    linarith
  refine ⟨by linarith, _, ⟨(round (value * denominator)).toNat, denominator,
    ⟨by omega, by omega⟩, ⟨denominatorPos, denominatorLe⟩, rfl⟩, ?_⟩
  have cast : ((round (value * denominator)).toNat : ℚ) = round (value * denominator) := by
    exact_mod_cast Int.toNat_of_nonneg (zero_le_one.trans roundPos)
  have asError := error_eq_div value (round (value * denominator)) denominatorPos
  rw [error] at asError
  rw [cast, asError]
  exact div_le_div_of_nonneg_right near (zero_le_one.trans denominatorPos')

/-- Between the smallest and the largest bounded fraction every value has one within a relative
error of the reciprocal of the largest denominator. -/
theorem exists_mem_boundedFractions_near {value : ℚ} {limit bound : ℕ} (boundPos : 1 ≤ bound)
    (balanced : bound ≤ limit) (low : 1 / bound ≤ value) (high : value ≤ limit) :
    ∃ point ∈ boundedFractions limit bound, |value - point| ≤ value / bound := by
  have boundPos' : (1 : ℚ) ≤ bound := by exact_mod_cast boundPos
  have balanced' : (bound : ℚ) ≤ limit := by exact_mod_cast balanced
  have valuePos : 0 < value := lt_of_lt_of_le (by positivity) low
  -- the largest denominator with which the numerator still fits
  have denominators : ∃ most : ℕ, 1 ≤ most ∧ most ≤ bound ∧ value * most ≤ limit ∧
      (most = bound ∨ limit < value * (most + 1)) := by
    rcases le_or_gt (value * bound) limit with small | large
    · exact ⟨bound, boundPos, le_rfl, small, Or.inl rfl⟩
    · have floorLe := Nat.floor_le (show 0 ≤ limit / value by positivity)
      have ltFloor := Nat.lt_floor_add_one (limit / value)
      rw [le_div_iff₀ valuePos] at floorLe
      rw [div_lt_iff₀ valuePos] at ltFloor
      refine ⟨⌊limit / value⌋₊, ?_, ?_, by linarith, Or.inr (by linarith)⟩
      · rw [Nat.one_le_floor_iff, le_div_iff₀ valuePos]
        linarith
      · have below : (limit / value : ℚ) ≤ bound := by
          rw [div_le_iff₀ valuePos]
          linarith
        exact Nat.floor_le_of_le below
  rcases denominators with ⟨most, mostPos, mostLe, fits, reach⟩
  have mostPos' : (1 : ℚ) ≤ most := by exact_mod_cast mostPos
  have mostLe' : (most : ℚ) ≤ bound := by exact_mod_cast mostLe
  rcases exists_round_near value mostPos with ⟨denominator, denominatorPos, denominatorLe, near⟩
  have denominatorPos' : (1 : ℚ) ≤ denominator := by exact_mod_cast denominatorPos
  have denominatorLe' : (denominator : ℚ) ≤ most := by exact_mod_cast denominatorLe
  have slackLt : 1 / ((most : ℚ) + 1) < value := by
    rw [div_lt_iff₀ (by positivity)]
    rcases reach with rfl | beyond
    · rw [div_le_iff₀ (by positivity)] at low
      linarith
    · linarith
  have fitsDenominator : value * denominator ≤ limit :=
    (mul_le_mul_of_nonneg_left denominatorLe' valuePos.le).trans fits
  rcases exists_mem_boundedFractions_of_near denominatorPos (denominatorLe.trans mostLe)
    fitsDenominator (by positivity) slackLt near with ⟨atLeast, point, inside, close⟩
  refine ⟨point, inside, close.trans ?_⟩
  rw [div_div, div_le_div_iff₀ (by positivity) (by positivity), one_mul]
  rcases reach with rfl | beyond
  · have rest : (1 : ℚ) - 1 / (most + 1) = most / (most + 1) := by
      rw [eq_div_iff (by positivity), sub_mul, one_mul, div_mul_cancel₀ _ (by positivity)]
      ring
    rw [rest, div_le_iff₀ (by positivity)] at atLeast
    linarith
  · have grows : value * (most + 1) ≤ value * ((most + 1) * denominator) :=
      mul_le_mul_of_nonneg_left (le_mul_of_one_le_right (by positivity) denominatorPos') valuePos.le
    linarith

end Approximation
