import Mathlib.Algebra.Order.Round
import Mathlib.Algebra.Order.Field.Basic
import Mathlib.Data.Int.GCD
import Mathlib.Data.Nat.Cast.Field
import Mathlib.Data.Nat.Prime.Basic
import Mathlib.Tactic.FieldSimp
import Mathlib.Tactic.Linarith
import Mathlib.Tactic.Ring

/-!
# Approximation by bounded fractions

How close a fraction with bounded numerator and denominator can come to a value.  Rounding
gives the best numerator for a denominator; a denominator whose rounded numerator is out of
range is never needed, because a fraction with a smaller denominator is at least as close.
-/

namespace Approximation

variable {K : Type*} [Field K] [LinearOrder K]

/-- The distance of a value from a fraction. -/
def error (value : K) (numerator : ℤ) (denominator : ℕ) : K :=
  |value - numerator / denominator|

variable [IsStrictOrderedRing K]

theorem error_eq_div (value : K) (numerator : ℤ) {denominator : ℕ} (positive : 0 < denominator) :
    error value numerator denominator = |value * denominator - numerator| / denominator := by
  have denominatorPos : (0 : K) < denominator := by exact_mod_cast positive
  rw [error, ← abs_of_pos denominatorPos, ← abs_div, abs_of_pos denominatorPos, sub_div,
    mul_div_cancel_right₀ _ denominatorPos.ne']

/-- Cancelling a common factor does not move the fraction. -/
theorem error_mul (value : K) (numerator : ℤ) (denominator : ℕ) {factor : ℕ}
    (positive : 0 < factor) :
    error value (factor * numerator) (factor * denominator) =
      error value numerator denominator := by
  have factorNe : (factor : K) ≠ 0 := by exact_mod_cast positive.ne'
  rw [error, error]
  push_cast
  rw [mul_div_mul_left _ _ factorNe]

section Equal

variable {a b c d : ℕ}

theorem fraction_eq_iff (bPos : 1 ≤ b) (dPos : 1 ≤ d) :
    (a / b : K) = c / d ↔ a * d = c * b := by
  have bNe : (b : K) ≠ 0 := by exact_mod_cast Nat.ne_of_gt bPos
  have dNe : (d : K) ≠ 0 := by exact_mod_cast Nat.ne_of_gt dPos
  rw [div_eq_div_iff bNe dNe]
  exact_mod_cast Iff.rfl

theorem fraction_reduced (c d : ℕ) :
    ((c / c.gcd d : ℕ) : K) / (d / c.gcd d : ℕ) = c / d :=
  Nat.cast_div_div_div_cancel_right (Nat.gcd_dvd_right c d) (Nat.gcd_dvd_left c d)

/-- The reduced denominator of a fraction divides the denominator of every equal one. -/
theorem reduced_denominator_dvd (same : a * d = c * b) (dPos : 1 ≤ d) : d / c.gcd d ∣ b := by
  have gcdPos : 0 < c.gcd d := Nat.gcd_pos_of_pos_right _ dPos
  have coprime : (d / c.gcd d).Coprime (c / c.gcd d) :=
    (Nat.coprime_div_gcd_div_gcd gcdPos).symm
  apply coprime.dvd_of_dvd_mul_left
  refine ⟨a, ?_⟩
  rw [Nat.div_mul_right_comm (Nat.gcd_dvd_left _ _), ← same, mul_comm a,
    Nat.div_mul_right_comm (Nat.gcd_dvd_right _ _)]

/-- Equal fractions in lowest terms are the same. -/
theorem eq_of_coprime (same : a * d = c * b) (bPos : 1 ≤ b) (dPos : 1 ≤ d)
    (left : a.Coprime b) (right : c.Coprime d) : a = c ∧ b = d := by
  have dvd := reduced_denominator_dvd same dPos
  have dvd' := reduced_denominator_dvd same.symm bPos
  rw [right.gcd_eq_one, Nat.div_one] at dvd
  rw [left.gcd_eq_one, Nat.div_one] at dvd'
  have denominators : b = d := Nat.dvd_antisymm dvd' dvd
  subst denominators
  exact ⟨Nat.eq_of_mul_eq_mul_right bPos same, rfl⟩

end Equal

variable [FloorRing K] {value : K} {denominator : ℕ}

/-- The rounded numerator is the best one for its denominator. -/
theorem error_round_le (positive : 0 < denominator) (numerator : ℤ) :
    error value (round (value * denominator)) denominator ≤ error value numerator denominator := by
  rw [error_eq_div _ _ positive, error_eq_div _ _ positive]
  exact div_le_div_of_nonneg_right (round_le _ _) (Nat.cast_nonneg _)

/-- The rounded numerator is off by half a unit of the denominator at most. -/
theorem error_round_le_half (positive : 0 < denominator) :
    error value (round (value * denominator)) denominator ≤ 1 / (2 * denominator) := by
  rw [error_eq_div _ _ positive, ← div_div]
  exact div_le_div_of_nonneg_right (abs_sub_round _) (Nat.cast_nonneg _)

theorem round_lt_one_iff : round (value * denominator) < 1 ↔ value * denominator < 1 / 2 := by
  rw [round_eq, Int.floor_lt, Int.cast_one]
  constructor
  · intro small
    linarith
  · intro small
    linarith

theorem lt_round_iff {limit : ℕ} :
    (limit : ℤ) < round (value * denominator) ↔ limit + 1 / 2 ≤ value * denominator := by
  rw [round_eq, ← Int.add_one_le_iff, Int.le_floor]
  push_cast
  constructor
  · intro large
    linarith
  · intro large
    linarith

/-- A rounded numerator that has a factor in common with its denominator is, without the
factor, the rounded numerator of the smaller denominator. -/
theorem round_of_common_factor {factor : ℕ} {numerator : ℤ} (more : 1 < factor)
    (rounded : round (value * (factor * denominator : ℕ)) = factor * numerator) :
    round (value * denominator) = numerator := by
  have near := abs_sub_round (value * (factor * denominator : ℕ))
  have factorPos : (0 : K) < factor := by exact_mod_cast Nat.zero_lt_of_lt more
  have more' : (1 : K) < factor := by exact_mod_cast more
  have scaled : value * (factor * denominator : ℕ) - ((factor * numerator : ℤ) : K) =
      factor * (value * denominator - numerator) := by
    push_cast
    ring
  rw [rounded, scaled, abs_mul, abs_of_pos factorPos] at near
  have close : |value * denominator - numerator| < 1 / 2 := by
    by_contra far
    have product := mul_le_mul_of_nonneg_left (not_lt.mp far) factorPos.le
    linarith
  rcases abs_lt.mp close with ⟨lower, upper⟩
  rw [round_eq, Int.floor_eq_iff]
  constructor
  · linarith
  · linarith

/-- The rounded numerator is a positive one within the limit. -/
def RoundsInto (limit : ℕ) (value : K) (denominator : ℕ) : Prop :=
  1 ≤ round (value * denominator) ∧ round (value * denominator) ≤ limit

/-- Between two neighbouring fractions of one denominator lies a fraction with a smaller
denominator, whose numerator is no larger. -/
theorem exists_fraction_between {limit denominator : ℕ} (limitLarge : 1 < limit)
    (denominatorLarge : 1 < denominator) :
    ∃ a b : ℕ, 1 ≤ a ∧ a ≤ limit ∧ 1 ≤ b ∧ b < denominator ∧
      limit * b ≤ a * denominator ∧ a * denominator ≤ (limit + 1) * b := by
  by_cases coprime : Nat.Coprime denominator limit
  · -- the fraction whose cross product with `limit / denominator` is one
    rcases Nat.exists_mul_mod_eq_one_of_coprime coprime limitLarge with ⟨a, smaller, unit⟩
    have cross := Nat.div_add_mod (denominator * a) limit
    rw [unit] at cross
    generalize denominator * a / limit = b at cross
    have aPos : 1 ≤ a := by
      rcases Nat.eq_zero_or_pos a with rfl | positive
      · simp at unit
      · exact positive
    have bPos : 1 ≤ b := by
      rcases Nat.eq_zero_or_pos b with rfl | positive
      · have large : denominator ≤ denominator * a := Nat.le_mul_of_pos_right _ aPos
        omega
      · exact positive
    have bLt : b < denominator := by
      by_contra large
      have left : denominator * a ≤ denominator * limit := Nat.mul_le_mul_left _ smaller.le
      have right : limit * denominator ≤ limit * b := Nat.mul_le_mul_left _ (not_lt.mp large)
      rw [mul_comm] at right
      omega
    refine ⟨a, b, aPos, smaller.le, bPos, bLt, ?_, ?_⟩
    · rw [mul_comm a]
      omega
    · rw [mul_comm a, add_mul, one_mul]
      omega
  · -- `limit / denominator` itself, reduced by a common prime
    rcases Nat.Prime.not_coprime_iff_dvd.mp coprime with ⟨p, prime, ⟨b, rfl⟩, ⟨a, rfl⟩⟩
    have aPos : 1 ≤ a := Nat.pos_of_ne_zero (by rintro rfl; simp at limitLarge)
    have bPos : 1 ≤ b := Nat.pos_of_ne_zero (by rintro rfl; simp at denominatorLarge)
    have same : p * a * b = a * (p * b) := by ring
    refine ⟨a, b, aPos, Nat.le_mul_of_pos_left _ prime.pos, bPos, ?_, same.le, ?_⟩
    · exact lt_mul_of_one_lt_left bPos prime.one_lt
    · rw [← same]
      exact Nat.mul_le_mul_right _ (Nat.le_succ _)

/-- A value above the largest numerator's fraction is approximated as well by a fraction
with a smaller denominator. -/
theorem exists_smaller_denominator {limit : ℕ} (limitLarge : 1 < limit)
    (denominatorLarge : 1 < denominator) (above : limit + 1 / 2 ≤ value * denominator) :
    ∃ a b : ℕ, 1 ≤ a ∧ a ≤ limit ∧ 1 ≤ b ∧ b < denominator ∧
      error value a b ≤ error value limit denominator := by
  rcases exists_fraction_between limitLarge denominatorLarge with
    ⟨a, b, aPos, aLe, bPos, bLt, lower, upper⟩
  refine ⟨a, b, aPos, aLe, bPos, bLt, ?_⟩
  have denominatorPos : (0 : K) < denominator := by exact_mod_cast Nat.zero_lt_of_lt bLt
  have bPos' : (0 : K) < b := by exact_mod_cast bPos
  have lower' : (limit / denominator : K) ≤ a / b := by
    rw [div_le_div_iff₀ denominatorPos bPos']
    exact_mod_cast lower
  have upper' : (a / b : K) ≤ (limit + 1) / denominator := by
    rw [div_le_div_iff₀ bPos' denominatorPos]
    exact_mod_cast upper
  have middle : ((limit : K) + 1 / 2) / denominator ≤ value := by
    rwa [div_le_iff₀ denominatorPos]
  rw [add_div] at upper' middle
  have half : (1 / 2 / denominator : K) + 1 / 2 / denominator = 1 / denominator := by ring
  have halfPos : (0 : K) < 1 / 2 / denominator := by positivity
  have nonneg : 0 ≤ value - limit / denominator := by linarith
  rw [error, error, Int.cast_natCast, Int.cast_natCast, abs_of_nonneg nonneg, abs_le]
  constructor
  · linarith
  · linarith

/-- Below half a unit of every denominator, the largest denominator is the best. -/
theorem error_le_of_round_lt_one {bound numerator : ℕ} (positive : 0 < denominator)
    (numeratorPos : 1 ≤ numerator) (boundPos : 0 < bound) (low : 1 / 2 ≤ value * bound)
    (small : value * denominator < 1 / 2) :
    error value (round (value * bound)) bound ≤ error value numerator denominator := by
  have denominatorPos : (0 : K) < denominator := by exact_mod_cast positive
  have boundPos' : (0 : K) < bound := by exact_mod_cast boundPos
  have numeratorPos' : (1 : K) ≤ numerator := by exact_mod_cast numeratorPos
  have unit : (1 / denominator : K) ≤ numerator / denominator :=
    div_le_div_of_nonneg_right numeratorPos' denominatorPos.le
  have double : value + value ≤ 1 / denominator := by
    rw [le_div_iff₀ denominatorPos]
    linarith
  calc error value (round (value * bound)) bound
      ≤ 1 / (2 * bound) := error_round_le_half boundPos
    _ ≤ value := by
        rw [← div_div]
        exact (div_le_iff₀ boundPos').mpr low
    _ ≤ -(value - numerator / denominator) := by linarith
    _ ≤ error value numerator denominator := by
        rw [error, Int.cast_natCast]
        exact neg_le_abs _

/-- Above the limit for its denominator, the largest numerator is the best. -/
theorem error_limit_le {limit numerator : ℕ} (positive : 0 < denominator)
    (numeratorLe : numerator ≤ limit) (above : limit + 1 / 2 ≤ value * denominator) :
    error value limit denominator ≤ error value numerator denominator := by
  have denominatorPos : (0 : K) < denominator := by exact_mod_cast positive
  have numeratorLe' : (numerator : K) ≤ limit := by exact_mod_cast numeratorLe
  have smaller : (numerator / denominator : K) ≤ limit / denominator :=
    div_le_div_of_nonneg_right numeratorLe' denominatorPos.le
  have below : (limit / denominator : K) ≤ value := by
    rw [div_le_iff₀ denominatorPos]
    linarith
  rw [error, error, Int.cast_natCast, Int.cast_natCast, abs_of_nonneg (sub_nonneg.mpr below),
    abs_of_nonneg (sub_nonneg.mpr (smaller.trans below))]
  linarith

/-- Between the two ends of the range, the best rounded fraction is as close as any fraction
within the bounds. -/
theorem exists_round_error_le {limit bound : ℕ} (limitLarge : 1 < limit) (boundPos : 0 < bound)
    (balanced : bound ≤ 2 * limit) (low : 1 / 2 ≤ value * bound) (high : value < limit + 1 / 2)
    {numerator : ℕ} (numeratorPos : 1 ≤ numerator) (numeratorLe : numerator ≤ limit)
    (positive : 1 ≤ denominator) (denominatorLe : denominator ≤ bound) :
    ∃ better, 1 ≤ better ∧ better ≤ bound ∧ RoundsInto limit value better ∧
      error value (round (value * better)) better ≤ error value numerator denominator := by
  induction denominator using Nat.strong_induction_on generalizing numerator with
  | _ denominator ih =>
      have positive' : (1 : K) ≤ denominator := by exact_mod_cast positive
      rcases lt_or_ge (round (value * denominator)) 1 with small | atLeast
      · rw [round_lt_one_iff] at small
        refine ⟨bound, boundPos, le_rfl, ⟨?_, ?_⟩,
          error_le_of_round_lt_one positive numeratorPos boundPos low small⟩
        · rw [← not_lt, round_lt_one_iff]
          exact not_lt.mpr low
        · rw [← not_lt, lt_round_iff, not_le]
          have balanced' : (bound : K) ≤ 2 * limit := by exact_mod_cast balanced
          have boundPos' : (0 : K) < bound := by exact_mod_cast boundPos
          have valuePos : 0 < value := by
            by_contra nonpos
            have product := mul_nonpos_of_nonpos_of_nonneg (not_lt.mp nonpos) boundPos'.le
            linarith
          have valueLt : value < 1 / 2 := by
            have grows := le_mul_of_one_le_right valuePos.le positive'
            linarith
          have product : value * bound ≤ 1 / 2 * bound :=
            mul_le_mul_of_nonneg_right valueLt.le boundPos'.le
          linarith
      · rcases lt_or_ge (limit : ℤ) (round (value * denominator)) with large | atMost
        · rw [lt_round_iff] at large
          have denominatorLarge : 1 < denominator := by
            rcases Nat.lt_or_ge 1 denominator with more | one
            · exact more
            · have same : denominator = 1 := le_antisymm one positive
              rw [same, Nat.cast_one, mul_one] at large
              exact absurd high (not_lt.mpr large)
          rcases exists_smaller_denominator limitLarge denominatorLarge large with
            ⟨a, b, aPos, aLe, bPos, bLt, closer⟩
          rcases ih b bLt aPos aLe bPos (bLt.le.trans denominatorLe) with
            ⟨better, betterPos, betterLe, into, best⟩
          exact ⟨better, betterPos, betterLe, into,
            best.trans (closer.trans (error_limit_le positive numeratorLe large))⟩
        · exact ⟨denominator, positive, denominatorLe, ⟨atLeast, atMost⟩,
            error_round_le positive numerator⟩

end Approximation
