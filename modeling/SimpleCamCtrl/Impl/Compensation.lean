import SimpleCamCtrl.DeviceProperties.RoundTrip
import SimpleCamCtrl.Impl.UpdateStatus

/-!
# Signed exposure compensation

The parser records every integer as an unsigned number and forgets how wide it was; the
cast of the exposure compensation back to a signed number takes it for 32 bits wide.  The
sign of a narrower value is lost.
-/

namespace SimpleCamCtrl.Impl

open DeviceProperties (Bytes Form IntegerType IsDataset Record)
open Interaction

/-- The signed types that an exposure compensation may have. -/
def compensationTypes : List IntegerType := [.int8, .int16, .int32]

/-- The bytes are the two's complement of a value that the type can represent. -/
structure Represents (type : IntegerType) (value : ℤ) (bytes : Bytes type.size) : Prop where
  lower : -256 ^ type.size ≤ 2 * value
  upper : 2 * value < 256 ^ type.size
  encoded : (LittleEndian.toNat bytes.val : ℤ) = value % 256 ^ type.size

/-- The cast reads the low 32 bits as a two's complement. -/
theorem toInt_toInt32 (value : UInt64) :
    (toInt32 value).toInt = ((value.toNat % 2 ^ 32 : ℕ) : ℤ).bmod (2 ^ 32) := by
  have bits := BitVec.toInt_eq_toNat_bmod value.toUInt32.toBitVec
  rw [UInt32.toNat_toBitVec, UInt64.toNat_toUInt32] at bits
  exact bits

/-- A number that fits 32 bits is cast as if it were a value of 32 bits. -/
theorem toInt_toInt32_ofNat {number : ℕ} (fits : number < 2 ^ 32) :
    (toInt32 (UInt64.ofNat number)).toInt = (number : ℤ).bmod (2 ^ 32) := by
  have wide : number < UInt64.size := Nat.lt_trans fits (by decide)
  rw [toInt_toInt32, UInt64.toNat_ofNat_of_lt' wide, Nat.mod_eq_of_lt fits]

/-- A value of at most 16 bits is read as an unsigned one. -/
theorem toInt32_eq_iff_of_narrow {width number : ℕ} {value : ℤ} (narrow : width ≤ 2)
    (upper : 2 * value < 256 ^ width)
    (encoded : (number : ℤ) = value % 256 ^ width) :
    (toInt32 (UInt64.ofNat number)).toInt = value ↔ 0 ≤ value := by
  have powerLe : (256 : ℤ) ^ width ≤ 65536 := by
    have power := pow_le_pow_right₀ (show (1 : ℤ) ≤ 256 by decide) narrow
    exact power
  have powerPos : (0 : ℤ) < 256 ^ width := by positivity
  have numberLt : (number : ℤ) < 256 ^ width := by
    rw [encoded]
    exact Int.emod_lt_of_pos _ powerPos
  rw [toInt_toInt32_ofNat (by omega), Int.bmod_eq_of_le (by omega) (by omega), encoded]
  constructor
  · intro same
    rw [← same]
    exact Int.emod_nonneg _ powerPos.ne'
  · intro nonneg
    exact Int.emod_eq_of_lt nonneg (by omega)

/-- The cast gives the value back exactly if it was 32 bits wide or is not negative. -/
theorem toInt32_eq_iff {type : IntegerType} {value : ℤ} {bytes : Bytes type.size}
    (signed : type ∈ compensationTypes) (represents : Represents type value bytes) :
    (toInt32 (UInt64.ofNat (LittleEndian.toNat bytes.val))).toInt = value ↔
      type = .int32 ∨ 0 ≤ value := by
  rcases represents with ⟨lower, upper, encoded⟩
  simp only [compensationTypes, List.mem_cons, List.not_mem_nil, or_false] at signed
  rcases signed with rfl | rfl | rfl
  · simpa using toInt32_eq_iff_of_narrow (by decide) upper encoded
  · simpa using toInt32_eq_iff_of_narrow (by decide) upper encoded
  · simp only [true_or, iff_true]
    simp only [IntegerType.size] at lower upper encoded
    have numberLt : LittleEndian.toNat bytes.val < 2 ^ 32 := by omega
    rw [toInt_toInt32_ofNat numberLt, encoded]
    have power : (256 : ℤ) ^ 4 = ((2 ^ 32 : ℕ) : ℤ) := by norm_num
    rw [power, Int.emod_bmod]
    exact Int.bmod_eq_of_le (by omega) (by omega)

section Reported

variable {τ : Type} {sizeT : SizeT} [Commons]

/-- A dataset with one exposure compensation, of a signed type, that represents the value. -/
structure ReportsCompensation (payload : ByteVector sizeT) (type : IntegerType) (value : ℤ) :
    Prop where
  signed : type ∈ compensationTypes
  dataset : ∃ before record later defaultValue currentValue form,
    IsDataset payload (before ++ record :: later) ∧
      record.propertyCode = dpcExposureCompensation.toUInt16 ∧
      record.body = .scalar type defaultValue currentValue form ∧
      Represents type value currentValue ∧
      ∀ other ∈ before ++ later, other.propertyCode ≠ dpcExposureCompensation.toUInt16

/-- What GetExposureParams reports as the exposure compensation. -/
def ReportedCompensation (object : SonyPTP3Impl τ) (value : ℤ) : Prop :=
  ∃ params, getExposureParams object = some params ∧ params.exposureComp.toInt = value

/-- After an UpdateStatus that has returned true, the exposure compensation of the dataset
is reported exactly if its type has 32 bits or it is not negative. -/
theorem reportedCompensation_iff {self after : SonyPTP3Impl τ} {request : Request τ}
    {reply : EscapeResult sizeT} {type : IntegerType} {value : ℤ}
    (execution : Exec (updateStatus self) [(request, reply)] (true, after))
    (reports : ReportsCompensation reply.payload type value) :
    ReportedCompensation after value ↔ type = .int32 ∨ 0 ≤ value := by
  rcases reports.dataset with ⟨before, record, later, defaultValue, currentValue, form, dataset,
    code, body, represents, alone⟩
  rw [← toInt32_eq_iff reports.signed represents]
  rcases (updateStatus_outcome execution).of_updateStatus rfl with
    ⟨_, _, failed, _⟩ | ⟨_, answer, _, exchanges, ⟨_, failed, _⟩ | ⟨taken, _, rfl⟩⟩
  · cases failed
  · cases failed
  · cases exchanges
    have others : ∀ other ∈ later, other.propertyCode ≠ record.propertyCode := by
      intro other membership
      rw [code]
      exact alone other (List.mem_append_right _ membership)
    have found : findProperty (DeviceProperties.parseDeviceProperties reply.payload)
        dpcExposureCompensation =
          some (UInt64.ofNat (LittleEndian.toNat currentValue.val)) := by
      rw [findProperty, dataset.parseDeviceProperties_eq, ← code,
        DeviceProperties.lookup_recordedProperties others, body]
      rfl
    simp only [ReportedCompensation, getExposureParams_afterStatus taken, Option.some.injEq,
      exists_eq_left', updateCache, found]

end Reported

open DeviceProperties (encodeRecords)

/-- -300, in steps of 1/1000 EV, in 16 and in 32 bits. -/
def bias16 : Bytes 2 := ⟨[0xD4, 0xFE], rfl⟩

def bias32 : Bytes 4 := ⟨[0xD4, 0xFE, 0xFF, 0xFF], rfl⟩

/-- A record of the compensation and nothing else. -/
def biasRecord16 : Record :=
  ⟨0x5010, 1, 1,
    .scalar .int16 ⟨LittleEndian.ofNat 2 0, LittleEndian.length_ofNat _ _⟩ bias16 .none⟩

def biasRecord32 : Record :=
  ⟨0x5010, 1, 1,
    .scalar .int32 ⟨LittleEndian.ofNat 4 0, LittleEndian.length_ofNat _ _⟩ bias32 .none⟩

def biasReply16 : EscapeResult .bits64 :=
  ⟨0, ptpRcOk, ⟨LittleEndian.ofNat 8 1 ++ encodeRecords [biasRecord16], by decide⟩⟩

def biasReply32 : EscapeResult .bits64 :=
  ⟨0, ptpRcOk, ⟨LittleEndian.ofNat 8 1 ++ encodeRecords [biasRecord32], by decide⟩⟩

theorem biasReply16_reports : ReportsCompensation biasReply16.payload .int16 (-300) :=
  ⟨by decide, [], biasRecord16, [], _, bias16, _, rfl, rfl, rfl,
    ⟨by decide, by decide, by decide⟩, by simp⟩

theorem biasReply32_reports : ReportsCompensation biasReply32.payload .int32 (-300) :=
  ⟨by decide, [], biasRecord32, [], _, bias32, _, rfl, rfl, rfl,
    ⟨by decide, by decide, by decide⟩, by simp⟩

/-- In 32 bits it is reported. -/
theorem biasReply32_reported :
    ∃ after : SonyPTP3Impl Unit,
      Exec (updateStatus reportedObject) [(statusRequest (), biasReply32)] (true, after) ∧
        ReportedCompensation after (-300) := by
  have replayed : (replay (updateStatus reportedObject) [biasReply32]).map
      (fun outcome => (outcome.1, outcome.2.1)) =
        some ([(statusRequest (), biasReply32)], true) := by
    decide
  rcases Option.map_eq_some_iff.mp replayed with ⟨⟨exchanges, result, after⟩, played, same⟩
  cases same
  have execution := exec_of_replay played
  exact ⟨after, execution,
    (reportedCompensation_iff execution biasReply32_reports).mpr (Or.inl rfl)⟩

/-- In 16 bits it is reported as +65.2 EV. -/
theorem biasReply16_loses_sign :
    ∃ after : SonyPTP3Impl Unit,
      Exec (updateStatus reportedObject) [(statusRequest (), biasReply16)] (true, after) ∧
        ReportsCompensation biasReply16.payload .int16 (-300) ∧
        getExposureParams after = some ⟨0, 0, 0, 65236⟩ ∧ ¬ReportedCompensation after (-300) := by
  have replayed : replay (updateStatus reportedObject) [biasReply16] =
      some ([(statusRequest (), biasReply16)], true,
        afterStatus reportedObject
          (DeviceProperties.parseDeviceProperties biasReply16.payload)) := by
    decide
  refine ⟨_, exec_of_replay replayed, biasReply16_reports, by decide, ?_⟩
  intro reported
  rcases reported with ⟨params, output, same⟩
  have actual : getExposureParams (afterStatus reportedObject
      (DeviceProperties.parseDeviceProperties biasReply16.payload)) = some ⟨0, 0, 0, 65236⟩ := by
    decide
  rw [actual] at output
  cases output
  revert same
  decide

end SimpleCamCtrl.Impl
