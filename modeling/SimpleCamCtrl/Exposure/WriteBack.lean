import SimpleCamCtrl.Exposure.Search
import Mathlib.Logic.Function.Iterate

/-!
# Shutter speeds that are read and written back

The encoder sends fractions in lowest terms, and sends a fraction in lowest terms that it
can reach as it is.  So what it has sent once it sends again, and what it has read it can
send back exactly if the reduced denominator is one that it tries.
-/

namespace SimpleCamCtrl.Exposure

open Approximation (RoundsInto)

section WriteBack

variable [Llround] {shutterSeconds : ℚ}

/-- A candidate that is not in lowest terms has been met earlier, with the same error. -/
theorem exists_earlier_candidate (positive : 0 < shutterSeconds) {found : ℕ}
    (foundPos : 1 ≤ found) (inRange : InRange shutterSeconds found)
    (common : ¬(candidate shutterSeconds found).numerator.Coprime found) :
    ∃ earlier, 1 ≤ earlier ∧ earlier < found ∧ InRange shutterSeconds earlier ∧
      (candidate shutterSeconds earlier).error = (candidate shutterSeconds found).error := by
  have rounded := candidate_numerator inRange
  rw [llround_eq_of_inRange positive inRange] at rounded
  have into := (inRange_iff positive).mp inRange
  rcases Nat.Prime.not_coprime_iff_dvd.mp common with ⟨p, prime, ⟨a, numeratorEq⟩, ⟨b, rfl⟩⟩
  rw [numeratorEq, Nat.cast_mul] at rounded
  have reduced : round (shutterSeconds * b) = (a : ℤ) :=
    Approximation.round_of_common_factor prime.one_lt rounded.symm
  have bPos : 1 ≤ b := Nat.pos_of_mul_pos_left foundPos
  have earlier : InRange shutterSeconds b := by
    rw [inRange_iff positive, RoundsInto, reduced]
    rw [RoundsInto, ← rounded] at into
    have aPos : a ≠ 0 := by
      rintro rfl
      simp at into
    have aLe : a ≤ p * a := Nat.le_mul_of_pos_left _ prime.pos
    have productLe : p * a ≤ 65535 := by exact_mod_cast into.2
    exact ⟨by exact_mod_cast Nat.pos_of_ne_zero aPos, by exact_mod_cast aLe.trans productLe⟩
  refine ⟨b, bPos, lt_mul_of_one_lt_left bPos prime.one_lt, earlier, ?_⟩
  rw [candidate_error positive earlier, candidate_error positive inRange, ← rounded, reduced,
    Approximation.error_mul _ _ _ prime.pos]

/-- The fraction found is in lowest terms. -/
theorem bestFraction_coprime (positive : 0 < shutterSeconds) :
    (bestFraction shutterSeconds).numerator.Coprime (bestFraction shutterSeconds).denominator := by
  rcases (bestFraction_firstBest shutterSeconds).origin with
    same | ⟨_, found, foundPos, foundLt, inRange, same, before⟩
  · rw [same]
    exact Nat.coprime_one_left 1
  · rw [same]
    by_contra common
    rcases exists_earlier_candidate positive foundPos inRange common with
      ⟨earlier, earlierPos, earlierLt, earlierInRange, sameError⟩
    have better := before earlier earlierPos earlierLt earlierInRange
    rw [same, sameError] at better
    exact lt_irrefl _ better

variable {numerator denominator : ℕ}

/-- A fraction within the bounds is found without error. -/
theorem bestFraction_error_of_fraction (numeratorPos : 1 ≤ numerator)
    (numeratorLe : numerator ≤ 65535) (denominatorPos : 1 ≤ denominator)
    (denominatorLe : denominator ≤ 10000) :
    (bestFraction (numerator / denominator)).error = 0 := by
  have denominatorPos' : (0 : ℚ) < denominator := by exact_mod_cast denominatorPos
  have numeratorPos' : (0 : ℚ) < numerator := by exact_mod_cast numeratorPos
  have positive : (0 : ℚ) < numerator / denominator := div_pos numeratorPos' denominatorPos'
  have rounded : round ((numerator / denominator : ℚ) * denominator) = numerator := by
    rw [div_mul_cancel₀ _ denominatorPos'.ne', round_natCast]
  have inRange : InRange (numerator / denominator) denominator := by
    rw [inRange_iff positive, RoundsInto, rounded]
    exact ⟨by exact_mod_cast numeratorPos, by exact_mod_cast numeratorLe⟩
  have least := (bestFraction_firstBest (numerator / denominator)).le_candidate denominator
    denominatorPos (by omega) inRange
  rw [candidate_error positive inRange, rounded, Approximation.error, Int.cast_natCast, sub_self,
    abs_zero] at least
  refine le_antisymm least ?_
  rw [bestFraction_error]
  exact abs_nonneg _

/-- The fraction found without error is equal to the value. -/
theorem bestFraction_eq_iff (shutterSeconds : ℚ) :
    ((bestFraction shutterSeconds).numerator : ℚ) / (bestFraction shutterSeconds).denominator =
        shutterSeconds ↔
      (bestFraction shutterSeconds).error = 0 := by
  rw [bestFraction_error, Approximation.error, abs_eq_zero, sub_eq_zero, Int.cast_natCast]
  exact eq_comm

/-- A fraction in lowest terms within the bounds is found as it is. -/
theorem bestFraction_of_coprime (numeratorPos : 1 ≤ numerator) (numeratorLe : numerator ≤ 65535)
    (denominatorPos : 1 ≤ denominator) (denominatorLe : denominator ≤ 10000)
    (coprime : numerator.Coprime denominator) :
    (bestFraction (numerator / denominator)).numerator = numerator ∧
      (bestFraction (numerator / denominator)).denominator = denominator := by
  have denominatorPos' : (0 : ℚ) < denominator := by exact_mod_cast denominatorPos
  have numeratorPos' : (0 : ℚ) < numerator := by exact_mod_cast numeratorPos
  have lowest := bestFraction_coprime (div_pos numeratorPos' denominatorPos')
  have fits := bestFraction_fits (numerator / denominator)
  have same := (bestFraction_eq_iff (numerator / denominator)).mpr
    (bestFraction_error_of_fraction numeratorPos numeratorLe denominatorPos denominatorLe)
  rw [Approximation.fraction_eq_iff fits.denominator_pos denominatorPos] at same
  exact Approximation.eq_of_coprime same fits.denominator_pos denominatorPos lowest coprime

/-- Writing back a fraction in lowest terms within the bounds does not change it. -/
theorem encode_decode_of_coprime (numeratorPos : 1 ≤ numerator) (numeratorLe : numerator ≤ 65535)
    (denominatorPos : 1 ≤ denominator) (denominatorLe : denominator ≤ 10000)
    (coprime : numerator.Coprime denominator) :
    encodeShutterSpeedRaw (decodeShutterSpeedReciprocal
        ((UInt32.ofNat numerator <<< 16) ||| UInt32.ofNat denominator)) =
      (UInt32.ofNat numerator <<< 16) ||| UInt32.ofNat denominator := by
  have denominatorPos' : (0 : ℚ) < denominator := by exact_mod_cast denominatorPos
  have numeratorPos' : (0 : ℚ) < numerator := by exact_mod_cast numeratorPos
  rcases bestFraction_of_coprime numeratorPos numeratorLe denominatorPos denominatorLe coprime with
    ⟨sameNumerator, sameDenominator⟩
  rw [decodeShutterSpeedReciprocal_pack numeratorPos (by omega) (by omega) denominatorPos,
    encodeShutterSpeedRaw_eq (div_pos denominatorPos' numeratorPos'), one_div_div,
    encodeShutterSpeedRawFromSeconds_eq (div_pos numeratorPos' denominatorPos'), sameNumerator,
    sameDenominator]

/-- What has been written is written back as it is. -/
theorem encode_decode_encode (reciprocal : ℚ) :
    encodeShutterSpeedRaw (decodeShutterSpeedReciprocal (encodeShutterSpeedRaw reciprocal)) =
      encodeShutterSpeedRaw reciprocal := by
  rcases le_or_gt reciprocal 0 with nonpos | positive
  · rcases decode_encodeShutterSpeed_of_nonpos nonpos with ⟨encoded, decoded⟩
    rw [decoded, encoded]
    exact (decode_encodeShutterSpeed_of_nonpos le_rfl).1
  · have seconds : 0 < 1 / reciprocal := one_div_pos.mpr positive
    have fits := bestFraction_fits (1 / reciprocal)
    rw [encodeShutterSpeedRaw_eq positive, encodeShutterSpeedRawFromSeconds_eq seconds]
    exact encode_decode_of_coprime fits.numerator_pos fits.numerator_le fits.denominator_pos
      fits.denominator_le (bestFraction_coprime seconds)

/-- Encoding a positive shutter speed gives a fraction in lowest terms, and reading it and
writing it back any number of times sends the same raw value. -/
theorem encodeShutterSpeed_stable {reciprocal : ℚ} (positive : 0 < reciprocal) :
    (∃ numerator denominator : ℕ, (1 ≤ numerator ∧ numerator ≤ 65535) ∧
      (1 ≤ denominator ∧ denominator ≤ 10000) ∧ numerator.Coprime denominator ∧
      encodeShutterSpeedRaw reciprocal =
        (UInt32.ofNat numerator <<< 16) ||| UInt32.ofNat denominator) ∧
      ∀ cycles : ℕ,
        (fun raw => encodeShutterSpeedRaw (decodeShutterSpeedReciprocal raw))^[cycles]
          (encodeShutterSpeedRaw reciprocal) = encodeShutterSpeedRaw reciprocal := by
  have seconds : 0 < 1 / reciprocal := one_div_pos.mpr positive
  have fits := bestFraction_fits (1 / reciprocal)
  have coprime := bestFraction_coprime seconds
  have encoded := encodeShutterSpeedRaw_eq positive
  rw [encodeShutterSpeedRawFromSeconds_eq seconds] at encoded
  refine ⟨⟨_, _, ⟨fits.numerator_pos, fits.numerator_le⟩,
    ⟨fits.denominator_pos, fits.denominator_le⟩, coprime, encoded⟩, ?_⟩
  intro cycles
  exact Function.iterate_fixed (encode_decode_encode reciprocal) cycles

/-- An aperture that was read is written back as it is. -/
theorem encode_decodeFNumber (rawFNumber : UInt16) :
    encodeFNumberRaw (decodeFNumber rawFNumber) = rawFNumber := by
  have fits := rawFNumber.toNat_lt
  have scaled : decodeFNumber rawFNumber * 100 = (rawFNumber.toNat : ℤ) := by
    rw [decodeFNumber, div_mul_cancel₀ _ (by norm_num), Int.cast_natCast]
  have nonneg : (0 : ℚ) ≤ ((rawFNumber.toNat : ℤ) : ℚ) := by positivity
  have rounded : llround (decodeFNumber rawFNumber * 100) = rawFNumber.toNat := by
    rw [scaled, llround_eq_round nonneg (by rw [round_intCast]; omega), round_intCast]
  rw [encodeFNumberRaw]
  split
  · rename_i nonpos
    have zero : (rawFNumber.toNat : ℤ) = 0 := by
      have atMost : ((rawFNumber.toNat : ℤ) : ℚ) ≤ 0 := by
        rw [← scaled]
        linarith [not_lt.mp nonpos]
      exact_mod_cast le_antisymm atMost nonneg
    exact UInt16.toNat.inj (by simpa using (Int.natCast_eq_zero.mp zero).symm)
  · simp only [rounded]
    rw [if_neg (by omega), if_neg (by omega), Int.toNat_natCast, UInt16.ofNat_toNat]

/-- The numerator and the denominator of a raw value. -/
def rawNumerator (raw : UInt32) : ℕ := ((raw >>> 16) &&& 0xFFFF).toNat

def rawDenominator (raw : UInt32) : ℕ := (raw &&& 0xFFFF).toNat

section Read

variable {raw : UInt32}

omit [Llround] in
theorem rawNumerator_le (raw : UInt32) : rawNumerator raw ≤ 65535 := by
  have bound := raw.toNat_lt
  rw [rawNumerator, (toNat_halves raw).1]
  omega

omit [Llround] in
/-- A raw value that is not reserved denotes the quotient of its halves. -/
theorem decodeShutterSpeedSeconds_eq (notReserved : raw ≠ 0xFFFFFFFF)
    (denominatorPos : 1 ≤ rawDenominator raw) :
    decodeShutterSpeedSeconds raw = rawNumerator raw / rawDenominator raw := by
  have rawNe : raw ≠ 0 := by
    rintro rfl
    exact absurd denominatorPos (by decide)
  have denominatorNe : raw &&& 0xFFFF ≠ 0 := by
    intro zero
    rw [rawDenominator, zero] at denominatorPos
    exact absurd denominatorPos (by decide)
  rw [decodeShutterSpeedSeconds, if_neg (not_or.mpr ⟨rawNe, notReserved⟩)]
  simp only [denominatorNe, if_false]
  rfl

/-- A raw value is written back as the encoding of the time that it denotes. -/
theorem encode_decode_eq (notReserved : raw ≠ 0xFFFFFFFF) (numeratorPos : 1 ≤ rawNumerator raw)
    (denominatorPos : 1 ≤ rawDenominator raw) :
    (0 : ℚ) < rawNumerator raw / rawDenominator raw ∧
      encodeShutterSpeedRaw (decodeShutterSpeedReciprocal raw) =
        encodeShutterSpeedRawFromSeconds (rawNumerator raw / rawDenominator raw) := by
  have numeratorPos' : (0 : ℚ) < rawNumerator raw := by exact_mod_cast numeratorPos
  have denominatorPos' : (0 : ℚ) < rawDenominator raw := by exact_mod_cast denominatorPos
  have positive : (0 : ℚ) < rawNumerator raw / rawDenominator raw :=
    div_pos numeratorPos' denominatorPos'
  refine ⟨positive, ?_⟩
  rw [decodeShutterSpeedReciprocal, decodeShutterSpeedSeconds_eq notReserved denominatorPos]
  simp only [positive, not_true_eq_false, if_false]
  rw [encodeShutterSpeedRaw_eq (one_div_pos.mpr positive), one_div_one_div]

/-- What is written back denotes the same time exactly when the search can reach it. -/
theorem decode_writeBack_eq_iff (notReserved : raw ≠ 0xFFFFFFFF)
    (numeratorPos : 1 ≤ rawNumerator raw) (denominatorPos : 1 ≤ rawDenominator raw) :
    decodeShutterSpeedSeconds (encodeShutterSpeedRaw (decodeShutterSpeedReciprocal raw)) =
        rawNumerator raw / rawDenominator raw ↔
      rawDenominator raw / (rawNumerator raw).gcd (rawDenominator raw) ≤ 10000 := by
  rcases encode_decode_eq notReserved numeratorPos denominatorPos with ⟨positive, encoded⟩
  have fits := bestFraction_fits (rawNumerator raw / rawDenominator raw)
  have numeratorLe := fits.numerator_le
  have denominatorLe := fits.denominator_le
  rw [encoded, encodeShutterSpeedRawFromSeconds_eq positive,
    decodeShutterSpeedSeconds_pack (by omega) (by omega) fits.denominator_pos]
  constructor
  · intro same
    rw [Approximation.fraction_eq_iff fits.denominator_pos denominatorPos] at same
    have divides := Approximation.reduced_denominator_dvd same denominatorPos
    exact (Nat.le_of_dvd fits.denominator_pos divides).trans denominatorLe
  · intro small
    have gcdPos : 0 < (rawNumerator raw).gcd (rawDenominator raw) :=
      Nat.gcd_pos_of_pos_right _ denominatorPos
    have exact := bestFraction_error_of_fraction
      (Nat.div_pos (Nat.gcd_le_left _ numeratorPos) gcdPos)
      ((Nat.div_le_self _ _).trans (rawNumerator_le raw))
      (Nat.div_pos (Nat.gcd_le_right _ denominatorPos) gcdPos) small
    rw [Approximation.fraction_reduced] at exact
    exact (bestFraction_eq_iff _).mpr exact

/-- A raw value is written back as the same time exactly when its reduced denominator is one
that the search tries; otherwise, if the time is not too short, as the closest fraction. -/
theorem writeBack_keeps_time_iff (notReserved : raw ≠ 0xFFFFFFFF)
    (numeratorPos : 1 ≤ rawNumerator raw) (denominatorPos : 1 ≤ rawDenominator raw) :
    (decodeShutterSpeedSeconds (encodeShutterSpeedRaw (decodeShutterSpeedReciprocal raw)) =
        rawNumerator raw / rawDenominator raw ↔
      rawDenominator raw / (rawNumerator raw).gcd (rawDenominator raw) ≤ 10000) ∧
    (1 / 20000 ≤ (rawNumerator raw : ℚ) / rawDenominator raw →
      ClosestRepresentable (rawNumerator raw / rawDenominator raw)
        (encodeShutterSpeedRaw (decodeShutterSpeedReciprocal raw))) := by
  refine ⟨decode_writeBack_eq_iff notReserved numeratorPos denominatorPos, ?_⟩
  intro low
  have denominatorPos' : (1 : ℚ) ≤ rawDenominator raw := by exact_mod_cast denominatorPos
  have numeratorLe : (rawNumerator raw : ℚ) ≤ 65535 := by exact_mod_cast rawNumerator_le raw
  have quotientLe : (rawNumerator raw : ℚ) / rawDenominator raw ≤ rawNumerator raw :=
    div_le_self (Nat.cast_nonneg _) denominatorPos'
  rw [(encode_decode_eq notReserved numeratorPos denominatorPos).2]
  exact closestRepresentable_of_inside low (by linarith)

end Read

end WriteBack

theorem encodeShutterSpeed_stable_third :
    encodeShutterSpeedRaw (decodeShutterSpeedReciprocal (encodeShutterSpeedRaw (1 / 3))) =
      encodeShutterSpeedRaw (1 / 3) :=
  (encodeShutterSpeed_stable (by norm_num)).2 1

/-- A shutter speed of 1/250 s, unreduced, and one of 1/16000 s. -/
def unreducedRaw : UInt32 := 0x000203E8

def fastRaw : UInt32 := 0x00013E80

theorem unreducedRaw_keeps_time :
    decodeShutterSpeedSeconds (encodeShutterSpeedRaw (decodeShutterSpeedReciprocal unreducedRaw)) =
      rawNumerator unreducedRaw / rawDenominator unreducedRaw := by
  have notReserved : unreducedRaw ≠ 0xFFFFFFFF := by decide
  exact (writeBack_keeps_time_iff notReserved (by decide) (by decide)).1.mpr (by decide)

/-- A shutter speed of 1/16000 s that was read is written back as another one. -/
theorem fastRaw_loses_time :
    rawNumerator fastRaw = 1 ∧ rawDenominator fastRaw = 16000 ∧ fastRaw ≠ 0xFFFFFFFF ∧
      decodeShutterSpeedSeconds (encodeShutterSpeedRaw (decodeShutterSpeedReciprocal fastRaw)) ≠
        1 / 16000 := by
  have numerator : rawNumerator fastRaw = 1 := by decide
  have denominator : rawDenominator fastRaw = 16000 := by decide
  have notReserved : fastRaw ≠ 0xFFFFFFFF := by decide
  refine ⟨numerator, denominator, notReserved, ?_⟩
  intro keeps
  have reachable := decode_writeBack_eq_iff notReserved (by decide) (by decide)
  rw [numerator, denominator, Nat.cast_one, Nat.cast_ofNat] at reachable
  exact absurd (reachable.mp keeps) (by decide)

end SimpleCamCtrl.Exposure
