import SimpleCamCtrl.Exposure.Search
import SimpleCamCtrl.Library.Closest

/-!
# Order and precision of what is read back

A shutter speed or an aperture that is written comes back as the closest value that can be
encoded.  So a faster speed never comes back as a slower one, nor a smaller aperture as a wider
one, and what comes back is as close as the encodings allow.  Apertures whose raw value no
`long long` can hold are no part of this.
-/

namespace SimpleCamCtrl.Exposure

open Approximation (IsClosest boundedFractions)

section Precision

variable [Llround]

/-- The shutter speed that comes back for one that is written. -/
def shutterSpeedReadBack (reciprocal : ℚ) : ℚ :=
  decodeShutterSpeedReciprocal (encodeShutterSpeedRaw reciprocal)

/-- The aperture that comes back for one that is written. -/
def fNumberReadBack (fNumber : ℚ) : ℚ := decodeFNumber (encodeFNumberRaw fNumber)

section Seconds

/-- The exposure time that is encoded for one that is asked for. -/
def encodedSeconds (shutterSeconds : ℚ) : ℚ :=
  decodeShutterSpeedSeconds (encodeShutterSpeedRawFromSeconds shutterSeconds)

variable {shutterSeconds : ℚ}

/-- Where some denominator is not skipped, the time encoded is the closest fraction. -/
theorem isClosest_encodedSeconds (low : 1 / 20000 ≤ shutterSeconds)
    (high : shutterSeconds < 131071 / 2) :
    IsClosest (boundedFractions 65535 10000) shutterSeconds (encodedSeconds shutterSeconds) := by
  rcases closestRepresentable_of_inside low high with
    ⟨numerator, denominator, numeratorFits, denominatorFits, encoded, closest⟩
  have decoded : encodedSeconds shutterSeconds = numerator / denominator := by
    rw [encodedSeconds, encoded]
    exact decodeShutterSpeedSeconds_pack (by omega) (by omega) denominatorFits.1
  rw [decoded]
  refine ⟨⟨numerator, denominator, numeratorFits, denominatorFits, rfl⟩, ?_⟩
  rintro other ⟨numerator', denominator', numeratorFits', denominatorFits', rfl⟩
  exact closest numerator' denominator' numeratorFits'.1 numeratorFits'.2 denominatorFits'.1
    denominatorFits'.2

theorem encodedSeconds_pos (low : 1 / 20000 ≤ shutterSeconds)
    (high : shutterSeconds < 131071 / 2) : 0 < encodedSeconds shutterSeconds := by
  rcases (isClosest_encodedSeconds low high).mem with
    ⟨numerator, denominator, numeratorFits, denominatorFits, same⟩
  have numeratorPos : (0 : ℚ) < numerator := by exact_mod_cast numeratorFits.1
  have denominatorPos : (0 : ℚ) < denominator := by exact_mod_cast denominatorFits.1
  rw [same]
  exact div_pos numeratorPos denominatorPos

theorem monotoneOn_encodedSeconds : MonotoneOn encodedSeconds (Set.Ico (1 / 20000) (131071 / 2)) :=
  Approximation.monotoneOn_of_isClosest fun _ inside =>
    isClosest_encodedSeconds inside.1 inside.2

/-- The error is one part in ten thousand at most. -/
theorem abs_sub_encodedSeconds_le (low : 1 / 10000 ≤ shutterSeconds)
    (high : shutterSeconds ≤ 65535) :
    |shutterSeconds - encodedSeconds shutterSeconds| ≤ shutterSeconds / 10000 := by
  have closest : IsClosest (boundedFractions 65535 10000) shutterSeconds
      (encodedSeconds shutterSeconds) :=
    isClosest_encodedSeconds (by linarith) (by linarith)
  have close : ∃ point ∈ boundedFractions 65535 10000,
      |shutterSeconds - point| ≤ shutterSeconds / (10000 : ℕ) := by
    refine Approximation.exists_mem_boundedFractions_near (by norm_num) (by norm_num) ?_ ?_
    · exact_mod_cast low
    · exact_mod_cast high
  rcases close with ⟨point, inside, near⟩
  exact (closest.le point inside).trans near

end Seconds

section ShutterSpeed

variable {reciprocal : ℚ}

/-- What comes back is the reciprocal of the time encoded. -/
theorem shutterSpeedReadBack_eq (low : 2 / 131071 < reciprocal) (high : reciprocal ≤ 20000) :
    shutterSpeedReadBack reciprocal = 1 / encodedSeconds (1 / reciprocal) ∧
      1 / reciprocal ∈ Set.Ico (1 / 20000 : ℚ) (131071 / 2) := by
  have positive : 0 < reciprocal := lt_trans (by norm_num) low
  have longest : 1 / reciprocal < 131071 / 2 := by
    rw [div_lt_iff₀ positive]
    linarith
  have shortest : 1 / 20000 ≤ 1 / reciprocal := one_div_le_one_div_of_le positive high
  refine ⟨?_, shortest, longest⟩
  have encodedPos := encodedSeconds_pos shortest longest
  rw [encodedSeconds] at encodedPos
  rw [shutterSpeedReadBack, decodeShutterSpeedReciprocal, encodeShutterSpeedRaw_eq positive]
  simp only [encodedPos, not_true_eq_false, if_false]
  rfl

theorem monotoneOn_shutterSpeedReadBack :
    MonotoneOn shutterSpeedReadBack (Set.Ioc (2 / 131071) 20000) := by
  intro slower inside faster inside' ordered
  have positive : 0 < slower := lt_trans (by norm_num) inside.1
  rcases shutterSpeedReadBack_eq inside.1 inside.2 with ⟨readBack, slowTime⟩
  rcases shutterSpeedReadBack_eq inside'.1 inside'.2 with ⟨readBack', fastTime⟩
  rw [readBack, readBack']
  exact one_div_le_one_div_of_le (encodedSeconds_pos fastTime.1 fastTime.2)
    (monotoneOn_encodedSeconds fastTime slowTime (one_div_le_one_div_of_le positive ordered))

/-- A relative error of the time is nearly the same one of its reciprocal. -/
theorem abs_shutterSpeedReadBack_sub_le (low : 1 / 65535 ≤ reciprocal)
    (high : reciprocal ≤ 10000) :
    |shutterSpeedReadBack reciprocal - reciprocal| ≤ reciprocal / 9999 := by
  have positive : 0 < reciprocal := lt_of_lt_of_le (by norm_num) low
  have inside : 2 / 131071 < reciprocal := lt_of_lt_of_le (by norm_num) low
  rcases shutterSpeedReadBack_eq inside (high.trans (by norm_num)) with ⟨readBack, time⟩
  have encodedPos := encodedSeconds_pos time.1 time.2
  have shortest : 1 / 10000 ≤ 1 / reciprocal := one_div_le_one_div_of_le positive high
  have longest : 1 / reciprocal ≤ 65535 := by
    rw [div_le_iff₀ positive]
    linarith
  have error := abs_sub_encodedSeconds_le shortest longest
  rw [readBack]
  generalize encodedSeconds (1 / reciprocal) = encoded at encodedPos error ⊢
  -- everything in units of the time asked for
  have scaled : |1 - reciprocal * encoded| ≤ 1 / 10000 := by
    calc |1 - reciprocal * encoded|
        = reciprocal * |1 / reciprocal - encoded| := by
          rw [← abs_of_pos positive, ← abs_mul, abs_of_pos positive, mul_sub,
            mul_one_div_cancel positive.ne']
      _ ≤ reciprocal * (1 / reciprocal / 10000) := mul_le_mul_of_nonneg_left error positive.le
      _ = 1 / 10000 := by
          rw [← mul_div_assoc, mul_one_div_cancel positive.ne']
  have difference : 1 / encoded - reciprocal = (1 - reciprocal * encoded) / encoded := by
    rw [sub_div, mul_div_cancel_right₀ _ encodedPos.ne']
  rw [difference, abs_div, abs_of_pos encodedPos, div_le_div_iff₀ encodedPos (by norm_num)]
  have nearOne := (abs_le.mp scaled).2
  linarith

end ShutterSpeed

/-- The closest hundredth, between nothing and the largest raw value. -/
theorem fNumberReadBack_eq {fNumber : ℚ} (fits : ApertureFits fNumber) :
    fNumberReadBack fNumber = ((max 0 (min 65535 (round (100 * fNumber))) : ℤ) : ℚ) / 100 := by
  rw [fNumberReadBack, decode_encodeFNumber]
  simp only [fits, not_true_eq_false, or_false]
  split
  · rename_i nonpos
    have rounded : round (100 * fNumber) ≤ 0 := by
      rw [round_eq, ← Int.lt_add_one_iff, Int.floor_lt]
      push_cast
      linarith
    rw [max_eq_left ((min_le_right _ _).trans rounded), Int.cast_zero, zero_div]
  · rename_i positive
    have rounded : 0 ≤ round (100 * fNumber) := by
      rw [round_eq, Int.floor_nonneg]
      linarith
    rw [max_eq_right (le_min (by norm_num) rounded)]

theorem monotoneOn_fNumberReadBack :
    MonotoneOn fNumberReadBack {fNumber | ApertureFits fNumber} := by
  intro wider widerFits smaller smallerFits ordered
  have rounded : round (100 * wider) ≤ round (100 * smaller) := by
    rw [round_eq, round_eq]
    exact Int.floor_le_floor (by linarith)
  rw [fNumberReadBack_eq widerFits, fNumberReadBack_eq smallerFits]
  refine div_le_div_of_nonneg_right ?_ (by norm_num)
  exact_mod_cast max_le_max le_rfl (min_le_min le_rfl rounded)

theorem abs_fNumberReadBack_sub_le {fNumber : ℚ} (low : 0 ≤ fNumber)
    (high : fNumber ≤ 131071 / 200) : |fNumberReadBack fNumber - fNumber| ≤ 1 / 200 := by
  have near := abs_le.mp (abs_sub_round (100 * fNumber))
  have roundedNonneg : 0 ≤ round (100 * fNumber) := by
    rw [round_eq, Int.floor_nonneg]
    linarith
  have nonneg : (0 : ℚ) ≤ round (100 * fNumber) := by exact_mod_cast roundedNonneg
  have fits : ApertureFits fNumber := Or.inl (by norm_num; linarith)
  rw [fNumberReadBack_eq fits, abs_le]
  rcases le_total (round (100 * fNumber)) 65535 with fits | beyond
  · rw [min_eq_right fits, max_eq_right roundedNonneg]
    constructor <;> linarith [near.1, near.2]
  · have beyond' : (65535 : ℚ) ≤ round (100 * fNumber) := by exact_mod_cast beyond
    rw [min_eq_left beyond, max_eq_right (by norm_num)]
    push_cast
    constructor <;> linarith [near.1, near.2]

/-- What comes back of shutter speeds and apertures is in their order and close to them: of every
shutter speed for which some denominator is not skipped, and of every aperture whose raw value
fits. -/
theorem readBack_ordered_and_close :
    MonotoneOn shutterSpeedReadBack (Set.Ioc (2 / 131071) 20000) ∧
      (∀ reciprocal ∈ Set.Icc (1 / 65535 : ℚ) 10000,
        |shutterSpeedReadBack reciprocal - reciprocal| ≤ reciprocal / 9999) ∧
      MonotoneOn fNumberReadBack {fNumber | ApertureFits fNumber} ∧
      ∀ fNumber ∈ Set.Icc (0 : ℚ) (131071 / 200),
        |fNumberReadBack fNumber - fNumber| ≤ 1 / 200 :=
  ⟨monotoneOn_shutterSpeedReadBack,
    fun _ inside => abs_shutterSpeedReadBack_sub_le inside.1 inside.2,
    monotoneOn_fNumberReadBack, fun _ inside => abs_fNumberReadBack_sub_le inside.1 inside.2⟩

end Precision

end SimpleCamCtrl.Exposure
