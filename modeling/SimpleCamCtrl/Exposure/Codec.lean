import SimpleCamCtrl.Commons
import Mathlib.Algebra.Order.Round
import Mathlib.Data.Nat.Bitwise
import Mathlib.Data.Rat.Floor
import Mathlib.Tactic.Linarith
import Mathlib.Tactic.NormNum
import Mathlib.Tactic.Positivity

/-!
# Exposure value encodings

The encoders and decoders of `SonyPTP3_Impl.cpp` between exposure values and the raw
values of the camera, with exact rationals for `double`.  A raw shutter speed packs a
numerator and a denominator of the exposure time into the two halves of 32 bits.
-/

namespace SimpleCamCtrl.Exposure

variable [Llround]

/-- `std::llround`: the nearest integer, halves away from zero, if it is a `long long`. -/
def llround (value : ℚ) : ℤ :=
  let rounded := if 0 ≤ value then ⌊value + 1 / 2⌋ else ⌈value - 1 / 2⌉
  if -2 ^ 63 ≤ rounded ∧ rounded < 2 ^ 63 then rounded else Llround.outOfRange value

def decodeShutterSpeedSeconds (rawShutter : UInt32) : ℚ :=
  if rawShutter = 0 ∨ rawShutter = 0xFFFFFFFF then 0
  else
    let numerator := (rawShutter >>> 16) &&& 0xFFFF
    let denominator := rawShutter &&& 0xFFFF
    if denominator = 0 then 0
    else numerator.toNat / denominator.toNat

def decodeShutterSpeedReciprocal (rawShutter : UInt32) : ℚ :=
  let shutterSeconds := decodeShutterSpeedSeconds rawShutter
  if ¬0 < shutterSeconds then 0 else 1 / shutterSeconds

/-- The closest fraction found so far. -/
structure Best where
  numerator : ℕ
  denominator : ℕ
  error : ℚ
  deriving DecidableEq

/-- The loop over the denominators from `denominator` on, by recursion on the number
of denominators left.  An exact fraction ends it. -/
def searchDenominators (shutterSeconds : ℚ) : (remaining denominator : ℕ) → Best → Best
  | 0, _, best => best
  | remaining + 1, denominator, best =>
      let numeratorRounded := llround (shutterSeconds * denominator)
      if numeratorRounded < 1 ∨ numeratorRounded > 65535 then
        searchDenominators shutterSeconds remaining (denominator + 1) best
      else
        let candidate : ℚ := numeratorRounded / denominator
        let error := |shutterSeconds - candidate|
        if error < best.error then
          let best : Best := ⟨numeratorRounded.toNat, denominator, error⟩
          if best.error = 0 then best
          else searchDenominators shutterSeconds remaining (denominator + 1) best
        else
          searchDenominators shutterSeconds remaining (denominator + 1) best

/-- The best fraction for a positive exposure time. -/
def bestFraction (shutterSeconds : ℚ) : Best :=
  searchDenominators shutterSeconds 10000 1 ⟨1, 1, |shutterSeconds - 1|⟩

def encodeShutterSpeedRawFromSeconds (shutterSeconds : ℚ) : UInt32 :=
  if ¬0 < shutterSeconds then 0
  else
    let best := bestFraction shutterSeconds
    (UInt32.ofNat best.numerator <<< 16) ||| UInt32.ofNat best.denominator

def encodeShutterSpeedRaw (shutterSpeedReciprocal : ℚ) : UInt32 :=
  if ¬0 < shutterSpeedReciprocal then 0
  else encodeShutterSpeedRawFromSeconds (1 / shutterSpeedReciprocal)

def decodeFNumber (rawFNumber : UInt16) : ℚ :=
  rawFNumber.toNat / 100

def encodeFNumberRaw (fNumber : ℚ) : UInt16 :=
  if ¬0 < fNumber then 0
  else
    let raw := llround (fNumber * 100)
    if raw < 0 then 0
    else if raw > 65535 then 65535
    else UInt16.ofNat raw.toNat

/-- For positive values `llround` is Mathlib's `round`, as far as it fits. -/
theorem llround_of_nonneg {value : ℚ} (nonneg : 0 ≤ value) :
    llround value = if round value < 2 ^ 63 then round value else Llround.outOfRange value := by
  have roundedNonneg : 0 ≤ round value := by
    rw [round_eq, Int.floor_nonneg]
    linarith
  simp only [llround, if_pos nonneg, ← round_eq]
  have low : -2 ^ 63 ≤ round value := le_trans (by norm_num) roundedNonneg
  simp only [low, true_and]

/-- A result between one and 65535 is the nearest integer. -/
theorem llround_mem_iff {value : ℚ} (nonneg : 0 ≤ value) :
    (1 ≤ llround value ∧ llround value ≤ 65535) ↔ 1 ≤ round value ∧ round value ≤ 65535 := by
  rw [llround_of_nonneg nonneg]
  split
  · exact Iff.rfl
  · have extreme := Llround.outOfRange_cases value
    omega

theorem llround_eq_round {value : ℚ} (nonneg : 0 ≤ value) (fits : round value < 2 ^ 63) :
    llround value = round value := by
  rw [llround_of_nonneg nonneg, if_pos fits]

/-- The fraction found always fits the two halves of the raw value. -/
structure Best.Fits (best : Best) : Prop where
  numerator_pos : 1 ≤ best.numerator
  numerator_le : best.numerator ≤ 65535
  denominator_pos : 1 ≤ best.denominator
  denominator_le : best.denominator ≤ 10000

theorem searchDenominators_fits (shutterSeconds : ℚ) (remaining denominator : ℕ) (best : Best)
    (fits : best.Fits) (positive : 1 ≤ denominator) (bound : denominator + remaining ≤ 10001) :
    (searchDenominators shutterSeconds remaining denominator best).Fits := by
  induction remaining generalizing denominator best with
  | zero => exact fits
  | succ remaining ih =>
      have onward (best : Best) (fits : best.Fits) :=
        ih (denominator + 1) best fits (by omega) (by omega)
      rw [searchDenominators]
      simp only
      split
      · exact onward best fits
      · rename_i inRange
        have found : Best.Fits ⟨(llround (shutterSeconds * denominator)).toNat, denominator,
            |shutterSeconds - llround (shutterSeconds * denominator) / denominator|⟩ :=
          ⟨by simp only; omega, by simp only; omega, positive, by simp only; omega⟩
        split
        · split
          · exact found
          · exact onward _ found
        · exact onward best fits

theorem bestFraction_fits (shutterSeconds : ℚ) : (bestFraction shutterSeconds).Fits :=
  searchDenominators_fits _ _ _ _ ⟨by simp, by simp, by simp, by simp⟩ (by simp) (by simp)

omit [Llround] in
/-- A packed fraction is its numerator above sixteen bits of denominator. -/
theorem toNat_pack {numerator denominator : ℕ} (numeratorFits : numerator < 65536)
    (denominatorFits : denominator < 65536) :
    ((UInt32.ofNat numerator <<< 16) ||| UInt32.ofNat denominator).toNat =
      numerator * 65536 + denominator := by
  have shifted : (UInt32.ofNat numerator <<< 16).toNat = numerator <<< 16 := by
    rw [UInt32.toNat_shiftLeft, UInt32.toNat_ofNat_of_lt' (by simp [UInt32.size]; omega)]
    simp [Nat.shiftLeft_eq]
    omega
  rw [UInt32.toNat_or, shifted, UInt32.toNat_ofNat_of_lt' (by simp [UInt32.size]; omega),
    ← Nat.shiftLeft_add_eq_or_of_lt denominatorFits, Nat.shiftLeft_eq]

omit [Llround] in
theorem toNat_halves (raw : UInt32) :
    ((raw >>> 16) &&& 0xFFFF).toNat = raw.toNat / 65536 ∧
      (raw &&& 0xFFFF).toNat = raw.toNat % 65536 := by
  constructor
  · have bound := raw.toNat_lt
    rw [UInt32.toNat_and, UInt32.toNat_shiftRight]
    change (raw.toNat >>> 16) &&& (2 ^ 16 - 1) = _
    rw [Nat.and_two_pow_sub_one_eq_mod, Nat.shiftRight_eq_div_pow]
    omega
  · rw [UInt32.toNat_and]
    change raw.toNat &&& (2 ^ 16 - 1) = _
    rw [Nat.and_two_pow_sub_one_eq_mod]

omit [Llround] in
/-- A packed fraction denotes its quotient; only the two reserved values do not. -/
theorem decodeShutterSpeedSeconds_pack {numerator denominator : ℕ}
    (numeratorFits : numerator < 65536) (denominatorFits : denominator < 65535)
    (positive : 1 ≤ denominator) :
    decodeShutterSpeedSeconds
        ((UInt32.ofNat numerator <<< 16) ||| UInt32.ofNat denominator) =
      numerator / denominator := by
  have packed := toNat_pack numeratorFits (Nat.lt_succ_of_lt denominatorFits)
  generalize (UInt32.ofNat numerator <<< 16) ||| UInt32.ofNat denominator = raw at packed ⊢
  rcases toNat_halves raw with ⟨high, low⟩
  have highEq : ((raw >>> 16) &&& 0xFFFF).toNat = numerator := by
    rw [high, packed]
    omega
  have lowEq : (raw &&& 0xFFFF).toNat = denominator := by
    rw [low, packed]
    omega
  have notReserved : ¬(raw = 0 ∨ raw = 0xFFFFFFFF) := by
    intro reserved
    rcases reserved with rfl | rfl
    · change 0 = _ at packed
      omega
    · change 4294967295 = _ at packed
      omega
  have denominatorNe : raw &&& 0xFFFF ≠ 0 := by
    intro zero
    rw [zero] at lowEq
    change 0 = _ at lowEq
    omega
  rw [decodeShutterSpeedSeconds, if_neg notReserved]
  simp only [denominatorNe, if_false, highEq, lowEq]

omit [Llround] in
/-- A packed fraction of a positive time is read as its reciprocal. -/
theorem decodeShutterSpeedReciprocal_pack {numerator denominator : ℕ}
    (numeratorPos : 1 ≤ numerator) (numeratorFits : numerator < 65536)
    (denominatorFits : denominator < 65535) (positive : 1 ≤ denominator) :
    decodeShutterSpeedReciprocal
        ((UInt32.ofNat numerator <<< 16) ||| UInt32.ofNat denominator) =
      denominator / numerator := by
  have seconds := decodeShutterSpeedSeconds_pack numeratorFits denominatorFits positive
  have numeratorPos' : (0 : ℚ) < numerator := by exact_mod_cast numeratorPos
  have denominatorPos : (0 : ℚ) < denominator := by exact_mod_cast positive
  have quotientPos : (0 : ℚ) < numerator / denominator := div_pos numeratorPos' denominatorPos
  rw [decodeShutterSpeedReciprocal, seconds]
  simp only [quotientPos, not_true_eq_false, if_false, one_div_div]

theorem encodeShutterSpeedRawFromSeconds_eq {shutterSeconds : ℚ}
    (positive : 0 < shutterSeconds) :
    encodeShutterSpeedRawFromSeconds shutterSeconds =
      (UInt32.ofNat (bestFraction shutterSeconds).numerator <<< 16) |||
        UInt32.ofNat (bestFraction shutterSeconds).denominator := by
  rw [encodeShutterSpeedRawFromSeconds, if_neg (not_not.mpr positive)]

theorem encodeShutterSpeedRaw_eq {reciprocal : ℚ} (positive : 0 < reciprocal) :
    encodeShutterSpeedRaw reciprocal = encodeShutterSpeedRawFromSeconds (1 / reciprocal) := by
  rw [encodeShutterSpeedRaw, if_neg (not_not.mpr positive)]

/-- Encoding a shutter speed and decoding it again gives the fraction that was sent. -/
theorem decode_encodeShutterSpeed {reciprocal : ℚ} (positive : 0 < reciprocal) :
    ∃ numerator denominator : ℕ, 1 ≤ numerator ∧ numerator ≤ 65535 ∧
      1 ≤ denominator ∧ denominator ≤ 10000 ∧
      encodeShutterSpeedRaw reciprocal =
        (UInt32.ofNat numerator <<< 16) ||| UInt32.ofNat denominator ∧
      decodeShutterSpeedReciprocal (encodeShutterSpeedRaw reciprocal) =
        denominator / numerator := by
  have fits := bestFraction_fits (1 / reciprocal)
  have encoded := encodeShutterSpeedRaw_eq positive
  rw [encodeShutterSpeedRawFromSeconds_eq (one_div_pos.mpr positive)] at encoded
  generalize bestFraction (1 / reciprocal) = best at fits encoded
  refine ⟨best.numerator, best.denominator, fits.numerator_pos, fits.numerator_le,
    fits.denominator_pos, fits.denominator_le, encoded, ?_⟩
  have denominatorLe := fits.denominator_le
  rw [encoded]
  exact decodeShutterSpeedReciprocal_pack fits.numerator_pos (Nat.lt_succ_of_le fits.numerator_le)
    (by omega) fits.denominator_pos

/-- A shutter speed that is not positive is sent as zero and read back as zero. -/
theorem decode_encodeShutterSpeed_of_nonpos {reciprocal : ℚ} (nonpos : reciprocal ≤ 0) :
    encodeShutterSpeedRaw reciprocal = 0 ∧
      decodeShutterSpeedReciprocal (encodeShutterSpeedRaw reciprocal) = 0 := by
  have encoded : encodeShutterSpeedRaw reciprocal = 0 := by
    rw [encodeShutterSpeedRaw, if_pos (not_lt.mpr nonpos)]
  refine ⟨encoded, ?_⟩
  rw [encoded]
  simp [decodeShutterSpeedReciprocal, decodeShutterSpeedSeconds]

/-- The raw value of an aperture is within the range of `std::llround`, or the implementation
leaves it above. -/
def ApertureFits (fNumber : ℚ) : Prop :=
  100 * fNumber < 2 ^ 63 - 1 / 2 ∨ 65535 < Llround.outOfRange (fNumber * 100)

instance (fNumber : ℚ) : Decidable (ApertureFits fNumber) := inferInstanceAs (Decidable (_ ∨ _))

omit [Llround] in
theorem round_lt_iff {value : ℚ} : round value < 2 ^ 63 ↔ value < 2 ^ 63 - 1 / 2 := by
  rw [round_eq, Int.floor_lt, ← lt_sub_iff_add_lt]
  norm_num

omit [Llround] in
/-- A hundredth that fits is decoded as it is. -/
theorem decodeFNumber_ofNat {raw : ℤ} (nonneg : 0 ≤ raw) (fits : raw ≤ 65535) :
    decodeFNumber (UInt16.ofNat raw.toNat) = (raw : ℚ) / 100 := by
  have stored : (UInt16.ofNat raw.toNat).toNat = raw.toNat :=
    UInt16.toNat_ofNat_of_lt' (by simp [UInt16.size]; omega)
  have same : ((raw.toNat : ℤ) : ℚ) = (raw : ℤ) := by
    rw [Int.toNat_of_nonneg nonneg]
  rw [decodeFNumber, stored, ← same, Int.cast_natCast]

theorem encodeFNumberRaw_eq {fNumber : ℚ} (positive : 0 < fNumber) :
    encodeFNumberRaw fNumber =
      UInt16.ofNat (max 0 (min 65535 (llround (fNumber * 100)))).toNat := by
  rw [encodeFNumberRaw, if_neg (not_not.mpr positive)]
  simp only
  split
  · rw [max_eq_left (by omega)]
    rfl
  · split
    · rw [min_eq_left (by omega)]
      rfl
    · rw [min_eq_right (by omega), max_eq_right (by omega)]

/-- An aperture comes back rounded to hundredths and clamped to 16 bits, unless its raw value
overflows to nothing. -/
theorem decode_encodeFNumber (fNumber : ℚ) :
    decodeFNumber (encodeFNumberRaw fNumber) =
      if fNumber ≤ 0 ∨ ¬ApertureFits fNumber then 0
      else ((min 65535 (round (100 * fNumber)) : ℤ) : ℚ) / 100 := by
  rcases le_or_gt fNumber 0 with nonpos | positive
  · rw [encodeFNumberRaw, if_pos (not_lt.mpr nonpos), if_pos (Or.inl nonpos)]
    simp [decodeFNumber]
  · have roundedNonneg : 0 ≤ round (100 * fNumber) := by
      rw [round_eq, Int.floor_nonneg]
      positivity
    have rounded := llround_of_nonneg (mul_nonneg positive.le (by norm_num) : 0 ≤ fNumber * 100)
    rw [encodeFNumberRaw_eq positive, decodeFNumber_ofNat (by omega) (by omega), rounded,
      mul_comm fNumber]
    by_cases fits : round (100 * fNumber) < 2 ^ 63
    · have apertureFits : ApertureFits fNumber := Or.inl (round_lt_iff.mp fits)
      rw [if_pos fits, if_neg (not_or.mpr ⟨not_le.mpr positive, not_not.mpr apertureFits⟩),
        max_eq_right (by omega)]
    · rw [if_neg fits]
      by_cases above : 65535 < Llround.outOfRange (100 * fNumber)
      · have apertureFits : ApertureFits fNumber := Or.inr (by rwa [mul_comm])
        rw [if_neg (not_or.mpr ⟨not_le.mpr positive, not_not.mpr apertureFits⟩),
          min_eq_left above.le, min_eq_left (by omega)]
        rfl
      · have overflows : ¬ApertureFits fNumber := by
          rw [ApertureFits, not_or, ← round_lt_iff, mul_comm fNumber]
          exact ⟨fits, above⟩
        have extreme := Llround.outOfRange_cases (100 * fNumber)
        rw [if_pos (Or.inr overflows), max_eq_left (by omega), Int.cast_zero, zero_div]

/-- The clamp to 16 bits holds of exactly the apertures that fit. -/
theorem decode_encodeFNumber_eq_iff {fNumber : ℚ} :
    decodeFNumber (encodeFNumberRaw fNumber) =
        (if fNumber ≤ 0 then 0 else ((min 65535 (round (100 * fNumber)) : ℤ) : ℚ) / 100) ↔
      ApertureFits fNumber := by
  rw [decode_encodeFNumber]
  by_cases fits : ApertureFits fNumber
  · simp [fits]
  · have large : 2 ^ 63 - 1 / 2 ≤ 100 * fNumber := not_lt.mp (not_or.mp fits).1
    have positive : ¬fNumber ≤ 0 := by
      intro nonpos
      norm_num at large
      linarith
    have rounded : 2 ^ 63 ≤ round (100 * fNumber) :=
      not_lt.mp fun below => absurd (round_lt_iff.mp below) (not_lt.mpr large)
    have clamped : min 65535 (round (100 * fNumber)) = 65535 := by omega
    simp only [fits, positive, not_false_eq_true, or_true, if_true, if_false, iff_false, clamped]
    norm_num

end SimpleCamCtrl.Exposure
