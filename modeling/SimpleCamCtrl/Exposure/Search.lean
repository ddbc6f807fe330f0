import SimpleCamCtrl.Exposure.Codec
import SimpleCamCtrl.Library.Approximation

/-!
# The search for a shutter fraction

The loop over the denominators keeps the first fraction with the least error.  Denominators
whose rounded numerator does not fit are skipped, which is harmless unless all of them are:
then the fraction that the search started from is the answer.
-/

namespace SimpleCamCtrl.Exposure

open Approximation (RoundsInto)

section Search

variable [Llround]

/-- The candidate for a denominator. -/
def candidate (shutterSeconds : ℚ) (denominator : ℕ) : Best :=
  ⟨(llround (shutterSeconds * denominator)).toNat, denominator,
    |shutterSeconds - llround (shutterSeconds * denominator) / denominator|⟩

/-- The candidate has a numerator that fits. -/
def InRange (shutterSeconds : ℚ) (denominator : ℕ) : Prop :=
  1 ≤ llround (shutterSeconds * denominator) ∧ llround (shutterSeconds * denominator) ≤ 65535

/-- One round of the loop takes a candidate that is better, and stops if it is exact. -/
theorem searchDenominators_succ (shutterSeconds : ℚ) (remaining denominator : ℕ) (best : Best) :
    (¬(InRange shutterSeconds denominator ∧
        (candidate shutterSeconds denominator).error < best.error) ∧
      searchDenominators shutterSeconds (remaining + 1) denominator best =
        searchDenominators shutterSeconds remaining (denominator + 1) best) ∨
    (InRange shutterSeconds denominator ∧
      (candidate shutterSeconds denominator).error < best.error ∧
      searchDenominators shutterSeconds (remaining + 1) denominator best =
        if (candidate shutterSeconds denominator).error = 0 then
          candidate shutterSeconds denominator
        else searchDenominators shutterSeconds remaining (denominator + 1)
          (candidate shutterSeconds denominator)) := by
  rw [searchDenominators]
  simp only
  split
  · rename_i outOfRange
    refine Or.inl ⟨?_, rfl⟩
    rintro ⟨⟨lower, upper⟩, _⟩
    omega
  · rename_i inRange
    have fits : InRange shutterSeconds denominator := by
      rw [not_or, not_lt, not_lt] at inRange
      exact inRange
    split
    · rename_i better
      exact Or.inr ⟨fits, better, rfl⟩
    · rename_i worse
      exact Or.inl ⟨fun both => worse both.2, rfl⟩

/-- The result of a search from `denominator` on: no candidate is better, and the candidate
that it is, if it is one, is better than all that came before. -/
structure FirstBest (shutterSeconds : ℚ) (remaining denominator : ℕ) (best result : Best) :
    Prop where
  le_best : result.error ≤ best.error
  le_candidate : ∀ other, denominator ≤ other → other < denominator + remaining →
    InRange shutterSeconds other → result.error ≤ (candidate shutterSeconds other).error
  origin : result = best ∨
    result.error < best.error ∧ ∃ found, denominator ≤ found ∧
      found < denominator + remaining ∧ InRange shutterSeconds found ∧
      result = candidate shutterSeconds found ∧
      ∀ earlier, denominator ≤ earlier → earlier < found → InRange shutterSeconds earlier →
        result.error < (candidate shutterSeconds earlier).error

namespace FirstBest

variable {shutterSeconds : ℚ} {remaining denominator : ℕ} {best result : Best}

theorem stop : FirstBest shutterSeconds 0 denominator best best := by
  refine ⟨le_rfl, ?_, Or.inl rfl⟩
  intro other lower upper
  omega

/-- A candidate that is skipped or no better does not count. -/
theorem skip
    (rest : FirstBest shutterSeconds remaining (denominator + 1) best result)
    (worse : ¬(InRange shutterSeconds denominator ∧
      (candidate shutterSeconds denominator).error < best.error)) :
    FirstBest shutterSeconds (remaining + 1) denominator best result := by
  have first (inRange : InRange shutterSeconds denominator) :
      best.error ≤ (candidate shutterSeconds denominator).error :=
    not_lt.mp fun better => worse ⟨inRange, better⟩
  refine ⟨rest.le_best, ?_, rest.origin.imp id ?_⟩
  · intro other lower upper inRange
    rcases lower.eq_or_lt with rfl | later
    · exact rest.le_best.trans (first inRange)
    · exact rest.le_candidate other later (by omega) inRange
  · intro found
    rcases found with ⟨better, found, lower, upper, inRange, same, before⟩
    refine ⟨better, found, by omega, by omega, inRange, same, ?_⟩
    intro earlier earlierLower earlierUpper earlierInRange
    rcases earlierLower.eq_or_lt with rfl | later
    · exact better.trans_le (first earlierInRange)
    · exact before earlier later earlierUpper earlierInRange

/-- A candidate that is taken is the result, unless a later one is better still. -/
theorem take
    (inRange : InRange shutterSeconds denominator)
    (better : (candidate shutterSeconds denominator).error < best.error)
    (rest : FirstBest shutterSeconds remaining (denominator + 1)
      (candidate shutterSeconds denominator) result) :
    FirstBest shutterSeconds (remaining + 1) denominator best result := by
  refine ⟨rest.le_best.trans better.le, ?_, Or.inr ⟨rest.le_best.trans_lt better, ?_⟩⟩
  · intro other lower upper otherInRange
    rcases lower.eq_or_lt with rfl | later
    · exact rest.le_best
    · exact rest.le_candidate other later (by omega) otherInRange
  · rcases rest.origin with same | ⟨stillBetter, found, lower, upper, foundInRange, same, before⟩
    · refine ⟨denominator, le_rfl, by omega, inRange, same, ?_⟩
      intro earlier earlierLower earlierUpper
      omega
    · refine ⟨found, by omega, by omega, foundInRange, same, ?_⟩
      intro earlier earlierLower earlierUpper earlierInRange
      rcases earlierLower.eq_or_lt with rfl | later
      · exact stillBetter
      · exact before earlier later earlierUpper earlierInRange

/-- An exact candidate may end the search. -/
theorem of_exact (exact : (candidate shutterSeconds denominator).error = 0) :
    FirstBest shutterSeconds remaining (denominator + 1) (candidate shutterSeconds denominator)
      (candidate shutterSeconds denominator) := by
  refine ⟨le_rfl, ?_, Or.inl rfl⟩
  intro other _ _ _
  rw [exact]
  exact abs_nonneg _

end FirstBest

/-- The loop finds the first best candidate. -/
theorem searchDenominators_firstBest (shutterSeconds : ℚ) (remaining denominator : ℕ)
    (best : Best) :
    FirstBest shutterSeconds remaining denominator best
      (searchDenominators shutterSeconds remaining denominator best) := by
  induction remaining generalizing denominator best with
  | zero => exact .stop
  | succ remaining ih =>
      rcases searchDenominators_succ shutterSeconds remaining denominator best with
        ⟨worse, onward⟩ | ⟨inRange, better, onward⟩
      · rw [onward]
        exact (ih _ _).skip worse
      · rw [onward]
        split
        · rename_i exact
          exact .take inRange better (.of_exact exact)
        · exact .take inRange better (ih _ _)

section BestFraction

variable {shutterSeconds : ℚ}

theorem inRange_iff (positive : 0 < shutterSeconds) {denominator : ℕ} :
    InRange shutterSeconds denominator ↔ RoundsInto 65535 shutterSeconds denominator := by
  rw [InRange, llround_mem_iff (by positivity)]
  rfl

/-- A numerator in range is the nearest integer. -/
theorem llround_eq_of_inRange (positive : 0 < shutterSeconds) {denominator : ℕ}
    (inRange : InRange shutterSeconds denominator) :
    llround (shutterSeconds * denominator) = round (shutterSeconds * denominator) := by
  have into := (inRange_iff positive).mp inRange
  refine llround_eq_round (by positivity) (lt_of_le_of_lt into.2 ?_)
  norm_num

theorem candidate_error (positive : 0 < shutterSeconds) {denominator : ℕ}
    (inRange : InRange shutterSeconds denominator) :
    (candidate shutterSeconds denominator).error =
      Approximation.error shutterSeconds (round (shutterSeconds * denominator)) denominator := by
  rw [candidate, llround_eq_of_inRange positive inRange]
  rfl

theorem candidate_numerator {denominator : ℕ} (inRange : InRange shutterSeconds denominator) :
    ((candidate shutterSeconds denominator).numerator : ℤ) =
      llround (shutterSeconds * denominator) :=
  Int.toNat_of_nonneg (zero_le_one.trans inRange.1)

theorem bestFraction_firstBest (shutterSeconds : ℚ) :
    FirstBest shutterSeconds 10000 1 ⟨1, 1, |shutterSeconds - 1|⟩ (bestFraction shutterSeconds) :=
  searchDenominators_firstBest _ _ _ _

/-- The error that the loop keeps is the error of the fraction that it keeps. -/
theorem bestFraction_error (shutterSeconds : ℚ) :
    (bestFraction shutterSeconds).error =
      Approximation.error shutterSeconds (bestFraction shutterSeconds).numerator
        (bestFraction shutterSeconds).denominator := by
  rcases (bestFraction_firstBest shutterSeconds).origin with
    same | ⟨_, found, _, _, inRange, same, _⟩
  · rw [same]
    simp [Approximation.error]
  · rw [same, candidate_numerator inRange]
    rfl

/-- Inside the range no fraction within the bounds is closer. -/
theorem bestFraction_error_le (low : 1 / 20000 ≤ shutterSeconds)
    (high : shutterSeconds < 131071 / 2) {numerator denominator : ℕ}
    (numeratorPos : 1 ≤ numerator) (numeratorLe : numerator ≤ 65535)
    (denominatorPos : 1 ≤ denominator) (denominatorLe : denominator ≤ 10000) :
    (bestFraction shutterSeconds).error ≤
      Approximation.error shutterSeconds numerator denominator := by
  have positive : 0 < shutterSeconds := lt_of_lt_of_le (by norm_num) low
  have lowBound : 1 / 2 ≤ shutterSeconds * (10000 : ℕ) := by
    push_cast
    linarith
  have highBound : shutterSeconds < (65535 : ℕ) + 1 / 2 := by
    push_cast
    linarith
  rcases Approximation.exists_round_error_le (by norm_num) (by norm_num) (by norm_num) lowBound
    highBound numeratorPos numeratorLe denominatorPos denominatorLe with
    ⟨better, betterPos, betterLe, into, closer⟩
  have inRange := (inRange_iff positive).mpr into
  refine le_trans ?_ closer
  rw [← candidate_error positive inRange]
  exact (bestFraction_firstBest shutterSeconds).le_candidate better betterPos (by omega) inRange

/-- Outside the range every denominator is skipped. -/
theorem not_inRange (positive : 0 < shutterSeconds)
    (outside : ¬(1 / 20000 ≤ shutterSeconds ∧ shutterSeconds < 131071 / 2)) {denominator : ℕ}
    (denominatorPos : 1 ≤ denominator) (denominatorLe : denominator ≤ 10000) :
    ¬InRange shutterSeconds denominator := by
  have denominatorPos' : (1 : ℚ) ≤ denominator := by exact_mod_cast denominatorPos
  have denominatorLe' : (denominator : ℚ) ≤ 10000 := by exact_mod_cast denominatorLe
  rw [inRange_iff positive]
  intro into
  have atLeast := not_lt.mpr into.1
  have atMost := not_lt.mpr into.2
  rw [Approximation.round_lt_one_iff, not_lt] at atLeast
  rw [Approximation.lt_round_iff, not_le] at atMost
  refine outside ⟨?_, ?_⟩
  · have product := mul_le_mul_of_nonneg_left denominatorLe' positive.le
    linarith
  · have product := mul_le_mul_of_nonneg_left denominatorPos' positive.le
    push_cast at atMost
    linarith

/-- If every denominator is skipped, the answer is one second. -/
theorem bestFraction_of_outside (positive : 0 < shutterSeconds)
    (outside : ¬(1 / 20000 ≤ shutterSeconds ∧ shutterSeconds < 131071 / 2)) :
    bestFraction shutterSeconds = ⟨1, 1, |shutterSeconds - 1|⟩ := by
  rcases (bestFraction_firstBest shutterSeconds).origin with
    same | ⟨_, found, foundPos, foundLt, inRange, _⟩
  · exact same
  · exact absurd inRange (not_inRange positive outside foundPos (by omega))

/-- The raw value is a fraction within the bounds, and none within them is closer. -/
def ClosestRepresentable (shutterSeconds : ℚ) (raw : UInt32) : Prop :=
  ∃ numerator denominator : ℕ, (1 ≤ numerator ∧ numerator ≤ 65535) ∧
    (1 ≤ denominator ∧ denominator ≤ 10000) ∧
    raw = (UInt32.ofNat numerator <<< 16) ||| UInt32.ofNat denominator ∧
    ∀ numerator' denominator' : ℕ, 1 ≤ numerator' → numerator' ≤ 65535 →
      1 ≤ denominator' → denominator' ≤ 10000 →
      |shutterSeconds - numerator / denominator| ≤ |shutterSeconds - numerator' / denominator'|

theorem closestRepresentable_of_inside (low : 1 / 20000 ≤ shutterSeconds)
    (high : shutterSeconds < 131071 / 2) :
    ClosestRepresentable shutterSeconds (encodeShutterSpeedRawFromSeconds shutterSeconds) := by
  have positive : 0 < shutterSeconds := lt_of_lt_of_le (by norm_num) low
  have fits := bestFraction_fits shutterSeconds
  refine ⟨_, _, ⟨fits.numerator_pos, fits.numerator_le⟩,
    ⟨fits.denominator_pos, fits.denominator_le⟩, encodeShutterSpeedRawFromSeconds_eq positive, ?_⟩
  intro numerator denominator numeratorPos numeratorLe denominatorPos denominatorLe
  have closest := bestFraction_error_le low high numeratorPos numeratorLe denominatorPos
    denominatorLe
  rw [bestFraction_error] at closest
  exact closest

omit [Llround] in
/-- A packed fraction determines its numerator and its denominator. -/
theorem pack_injective {numerator denominator numerator' denominator' : ℕ}
    (numeratorLt : numerator < 65536) (denominatorLt : denominator < 65536)
    (numeratorLt' : numerator' < 65536) (denominatorLt' : denominator' < 65536)
    (same : (UInt32.ofNat numerator <<< 16) ||| UInt32.ofNat denominator =
      (UInt32.ofNat numerator' <<< 16) ||| UInt32.ofNat denominator') :
    numerator = numerator' ∧ denominator = denominator' := by
  have packed := congrArg UInt32.toNat same
  rw [toNat_pack numeratorLt denominatorLt, toNat_pack numeratorLt' denominatorLt'] at packed
  omega

/-- One second is not the closest fraction outside the range. -/
theorem not_closestRepresentable_of_outside (positive : 0 < shutterSeconds)
    (outside : ¬(1 / 20000 ≤ shutterSeconds ∧ shutterSeconds < 131071 / 2)) :
    ¬ClosestRepresentable shutterSeconds (encodeShutterSpeedRawFromSeconds shutterSeconds) := by
  intro closest
  rcases closest with ⟨numerator, denominator, numeratorFits, denominatorFits, encoded, best⟩
  rw [encodeShutterSpeedRawFromSeconds_eq positive, bestFraction_of_outside positive outside]
    at encoded
  rcases pack_injective (by norm_num) (by norm_num) (by omega) (by omega) encoded with ⟨rfl, rfl⟩
  rw [not_and_or, not_le, not_lt] at outside
  rcases outside with fast | slow
  · have shortest := best 1 10000 (by norm_num) (by norm_num) (by norm_num) (by norm_num)
    push_cast at shortest
    rw [abs_of_neg (by linarith), abs_of_neg (by linarith)] at shortest
    linarith
  · have longest := best 65535 1 (by norm_num) (by norm_num) (by norm_num) (by norm_num)
    push_cast at longest
    rw [abs_of_pos (by linarith), abs_of_pos (by linarith)] at longest
    linarith

/-- The encoder picks a closest fraction exactly for the times from 1/20000 s on and below
65535.5 s, where some denominator is not skipped. -/
theorem closestRepresentable_iff (positive : 0 < shutterSeconds) :
    ClosestRepresentable shutterSeconds (encodeShutterSpeedRawFromSeconds shutterSeconds) ↔
      1 / 20000 ≤ shutterSeconds ∧ shutterSeconds < 131071 / 2 := by
  constructor
  · intro closest
    by_contra outside
    exact not_closestRepresentable_of_outside positive outside closest
  · intro inside
    exact closestRepresentable_of_inside inside.1 inside.2

end BestFraction

end Search

theorem closestRepresentable_third :
    ClosestRepresentable (1 / 3) (encodeShutterSpeedRawFromSeconds (1 / 3)) :=
  (closestRepresentable_iff (by norm_num)).mpr ⟨by norm_num, by norm_num⟩

/-- An electronic shutter's 1/32000 s is sent as one second. -/
theorem encode_fastest_not_closest :
    encodeShutterSpeedRawFromSeconds (1 / 32000) = 0x00010001 ∧
      ¬ClosestRepresentable (1 / 32000) (encodeShutterSpeedRawFromSeconds (1 / 32000)) := by
  have outside : ¬((1 : ℚ) / 20000 ≤ 1 / 32000 ∧ (1 : ℚ) / 32000 < 131071 / 2) := by norm_num
  refine ⟨?_, not_closestRepresentable_of_outside (by norm_num) outside⟩
  rw [encodeShutterSpeedRawFromSeconds_eq (by norm_num),
    bestFraction_of_outside (by norm_num) outside]
  rfl

end SimpleCamCtrl.Exposure
