import SimpleCamCtrl.DeviceProperties.RoundTrip
import SimpleCamCtrl.Impl.Runs

/-!
# Reading back what was written

A camera that stores the bytes it accepts and reports them in its dataset gives back the
exposure parameters that were written: four encoders, the serialiser, the dataset parser
and four decoders compose to the identity up to the precision of the encodings, as long
as `std::llround` can represent the aperture.
-/

namespace SimpleCamCtrl.Impl

open DeviceProperties (Record encodeRecords recordedProperties)

section EchoCamera

variable {τ : Type} {sizeT : SizeT} [Commons]
variable {self after : SonyPTP3Impl τ} {transport : τ} {writes : List (Exchange τ sizeT)}

/-- A camera stores the bytes of every write that it accepts. -/
def storeWrite (stored : UInt32 → Option (List UInt8)) (exchange : Exchange τ sizeT) :
    UInt32 → Option (List UInt8) :=
  if exchange.1.opcode = ptpOcSDIOSetExtDevicePropValue ∧ Accepted exchange.2 then
    fun code => if exchange.1.params = [code] then some exchange.1.writeData else stored code
  else
    stored

/-- What a camera has stored for each property after a sequence of exchanges. -/
def storedBytes (exchanges : List (Exchange τ sizeT)) : UInt32 → Option (List UInt8) :=
  exchanges.foldl storeWrite fun _ => none

/-- Exactly one of the records is for the code: an integer record with these bytes as
its current value. -/
def EchoesProperty (records : List Record) (code : UInt32) (bytes : List UInt8) : Prop :=
  ∃ before record after type defaultValue currentValue form,
    records = before ++ record :: after ∧ record.propertyCode = code.toUInt16 ∧
      record.body = .scalar type defaultValue currentValue form ∧ currentValue.val = bytes ∧
      ∀ other ∈ before ++ after, other.propertyCode ≠ code.toUInt16

/-- The payload is a dataset of these well-formed records. -/
def HoldsRecords (payload : ByteVector sizeT) (records : List Record) : Prop :=
  ∃ (count : UInt64) (suffix : List UInt8),
    payload.bytes = LittleEndian.ofNat 8 count.toNat ++ (encodeRecords records ++ suffix) ∧
      records.length ≤ count.toNat ∧ (records.length < count.toNat → suffix = [])

/-- The payload is a dataset of well-formed records among which every stored property is
echoed. -/
def EchoReply (exchanges : List (Exchange τ sizeT)) (payload : ByteVector sizeT) : Prop :=
  ∃ records, HoldsRecords payload records ∧
    ∀ code bytes, storedBytes exchanges code = some bytes → EchoesProperty records code bytes

/-- What comes back for parameters that were written. -/
structure ReadBack (params readBack : ExposureParams) : Prop where
  shutterSpeed : 0 < params.shutterSpeed → ∃ numerator denominator : ℕ,
    1 ≤ numerator ∧ numerator ≤ 65535 ∧ 1 ≤ denominator ∧ denominator ≤ 65535 ∧
      Exposure.encodeShutterSpeedRaw params.shutterSpeed =
        (UInt32.ofNat numerator <<< 16) ||| UInt32.ofNat denominator ∧
      readBack.shutterSpeed = denominator / numerator
  noShutterSpeed : params.shutterSpeed ≤ 0 → readBack.shutterSpeed = 0
  fNumber : readBack.fNumber = if params.fNumber ≤ 0 then 0 else
    ((min 65535 (round (100 * params.fNumber)) : ℤ) : ℚ) / 100
  iso : readBack.iso = params.iso
  exposureComp : readBack.exposureComp = params.exposureComp

theorem storeWrite_write {propertyCode : UInt32} {bytes : List UInt8}
    {reply : EscapeResult sizeT} (accepted : Accepted reply)
    (stored : UInt32 → Option (List UInt8)) (code : UInt32) :
    storeWrite stored (writeRequest transport propertyCode bytes, reply) code =
      if propertyCode = code then some bytes else stored code := by
  rw [storeWrite, if_pos ⟨rfl, accepted⟩]
  simp [writeRequest]

/-- Four accepted writes leave exactly their bytes behind. -/
theorem storedBytes_exposureWrites {params : ExposureParams}
    (requests : writes.map Prod.fst = exposureWrites transport params)
    (accepted : ∀ exchange ∈ writes, Accepted exchange.2) :
    storedBytes writes dpcShutterSpeed =
        some (LittleEndian.ofNat 4 (Exposure.encodeShutterSpeedRaw params.shutterSpeed).toNat) ∧
      storedBytes writes dpcFNumber =
        some (LittleEndian.ofNat 2 (Exposure.encodeFNumberRaw params.fNumber).toNat) ∧
      storedBytes writes dpcIso = some (LittleEndian.ofNat 4 params.iso.toNat) ∧
      storedBytes writes dpcExposureCompensation =
        some (LittleEndian.ofNat 4 (signExtend params.exposureComp).toNat) := by
  simp only [exposureWrites, List.map_eq_cons_iff, List.map_eq_nil_iff] at requests
  rcases requests with ⟨⟨_, shutter⟩, _, rfl, rfl, ⟨_, fNumber⟩, _, rfl, rfl,
    ⟨_, iso⟩, _, rfl, rfl, ⟨_, exposureComp⟩, _, rfl, rfl, rfl⟩
  simp only [List.forall_mem_cons, List.not_mem_nil, false_imp_iff, implies_true,
    and_true] at accepted
  rcases accepted with ⟨shutterOk, fNumberOk, isoOk, exposureCompOk⟩
  simp only [storedBytes, List.foldl_cons, List.foldl_nil, storeWrite_write, shutterOk,
    fNumberOk, isoOk, exposureCompOk]
  exact ⟨rfl, rfl, rfl, rfl⟩

omit [Commons] in
/-- An echoed property is found with its stored bytes as an unsigned number. -/
theorem findProperty_of_echoesProperty {records : List Record} {code : UInt32}
    {bytes : List UInt8} (echoes : EchoesProperty records code bytes) :
    findProperty (recordedProperties records) code =
      some (UInt64.ofNat (LittleEndian.toNat bytes)) := by
  rcases echoes with
    ⟨before, record, later, type, defaultValue, currentValue, form, rfl, sameCode, body, rfl, alone⟩
  have others : ∀ other ∈ later, other.propertyCode ≠ record.propertyCode := by
    intro other membership
    rw [sameCode]
    exact alone other (List.mem_append_right _ membership)
  rw [findProperty, ← sameCode, DeviceProperties.lookup_recordedProperties others, body]
  rfl

omit [Commons] in
theorem parseDeviceProperties_of_holdsRecords {payload : ByteVector sizeT}
    {records : List Record} (holds : HoldsRecords payload records) :
    DeviceProperties.parseDeviceProperties payload = recordedProperties records := by
  rcases holds with ⟨count, suffix, layout, covered, noSuffix⟩
  exact DeviceProperties.parseDeviceProperties_of_covered layout covered noSuffix

omit [Commons] in
theorem toUInt32_ofNat (value : UInt32) : (UInt64.ofNat value.toNat).toUInt32 = value := by
  have fits := value.toNat_lt
  apply UInt32.toNat.inj
  rw [UInt64.toNat_toUInt32, UInt64.toNat_ofNat']
  omega

omit [Commons] in
theorem toUInt16_ofNat (value : UInt16) : (UInt64.ofNat value.toNat).toUInt16 = value := by
  have fits := value.toNat_lt
  apply UInt16.toNat.inj
  rw [UInt64.toNat_toUInt16, UInt64.toNat_ofNat']
  omega

omit [Commons] in
/-- Sign extension keeps the four bytes that are sent. -/
theorem signExtend_mod (value : Int32) :
    (signExtend value).toNat % 256 ^ 4 = value.toUInt32.toNat := by
  have truncated : (value.toBitVec.signExtend 64).setWidth 32 = value.toBitVec := by
    ext i within
    have withinLong : i < 64 := by omega
    simp [BitVec.getElem_signExtend, within, withinLong]
  have low := congrArg BitVec.toNat truncated
  rw [BitVec.toNat_setWidth] at low
  exact low

omit [Commons] in
theorem toInt32_ofNat_signExtend (value : Int32) :
    toInt32 (UInt64.ofNat (LittleEndian.toNat
      (LittleEndian.ofNat 4 (signExtend value).toNat))) = value := by
  rw [LittleEndian.toNat_ofNat, signExtend_mod, toInt32, toUInt32_ofNat]
  rfl

/-- Parameters that were encoded and decoded are what comes back, except for an aperture that
overflows: it comes back as zero. -/
theorem readBack_iff_apertureFits {params readBack : ExposureParams}
    (shutterSpeed : readBack.shutterSpeed = Exposure.decodeShutterSpeedReciprocal
      (Exposure.encodeShutterSpeedRaw params.shutterSpeed))
    (fNumber : readBack.fNumber =
      Exposure.decodeFNumber (Exposure.encodeFNumberRaw params.fNumber))
    (iso : readBack.iso = params.iso) (exposureComp : readBack.exposureComp = params.exposureComp) :
    ReadBack params readBack ↔ Exposure.ApertureFits params.fNumber := by
  rw [← Exposure.decode_encodeFNumber_eq_iff, ← fNumber]
  constructor
  · intro comesBack
    exact comesBack.fNumber
  · intro aperture
    refine ⟨?_, ?_, aperture, iso, exposureComp⟩
    · intro positive
      rcases Exposure.decode_encodeShutterSpeed positive with
        ⟨numerator, denominator, numeratorPos, numeratorLe, denominatorPos, denominatorLe, encoded,
          decoded⟩
      exact ⟨numerator, denominator, numeratorPos, numeratorLe, denominatorPos, by omega, encoded,
        shutterSpeed.trans decoded⟩
    · intro nonpos
      exact shutterSpeed.trans (Exposure.decode_encodeShutterSpeed_of_nonpos nonpos).2

/-- The cache after a reply that echoes the four writes. -/
theorem readBack_updateCache_iff {params : ExposureParams} (cache : StateCache)
    {records : List Record}
    (shutter : EchoesProperty records dpcShutterSpeed
      (LittleEndian.ofNat 4 (Exposure.encodeShutterSpeedRaw params.shutterSpeed).toNat))
    (fNumber : EchoesProperty records dpcFNumber
      (LittleEndian.ofNat 2 (Exposure.encodeFNumberRaw params.fNumber).toNat))
    (iso : EchoesProperty records dpcIso (LittleEndian.ofNat 4 params.iso.toNat))
    (exposureComp : EchoesProperty records dpcExposureCompensation
      (LittleEndian.ofNat 4 (signExtend params.exposureComp).toNat)) :
    ReadBack params (updateCache cache (recordedProperties records)).exposureParams ↔
      Exposure.ApertureFits params.fNumber := by
  have fits32 (value : UInt32) : value.toNat < 256 ^ 4 := value.toNat_lt
  have fits16 (value : UInt16) : value.toNat < 256 ^ 2 := value.toNat_lt
  refine readBack_iff_apertureFits ?_ ?_ ?_ ?_
  · simp only [updateCache, findProperty_of_echoesProperty shutter,
      LittleEndian.toNat_ofNat_of_lt (fits32 _), toUInt32_ofNat]
  · simp only [updateCache, findProperty_of_echoesProperty fNumber,
      LittleEndian.toNat_ofNat_of_lt (fits16 _), toUInt16_ofNat]
  · simp only [updateCache, findProperty_of_echoesProperty iso,
      LittleEndian.toNat_ofNat_of_lt (fits32 _), toUInt32_ofNat]
  · simp only [updateCache, findProperty_of_echoesProperty exposureComp,
      toInt32_ofNat_signExtend]

/-- If SetExposureParams and then UpdateStatus succeed on a camera that echoes what it
accepted, GetExposureParams returns what was written if and only if its aperture fits. -/
theorem getExposureParams_of_echo {params : ExposureParams}
    {status : List (Exchange τ sizeT)}
    (written : Interaction.Exec (setExposureParams self params) writes true)
    (updated : Interaction.Exec (updateStatus self) status (true, after))
    (echoes : ∀ exchange ∈ status, EchoReply writes exchange.2.payload) :
    ∃ readBack, getExposureParams after = some readBack ∧
      (ReadBack params readBack ↔ Exposure.ApertureFits params.fNumber) := by
  cases session : ensureConnected self with
  | none =>
      rw [setExposureParams, session, Interaction.exec_pure] at written
      cases written.2
  | some transport =>
      rcases exec_setExposureParams session written with ⟨requests, allAccepted⟩
      have accepted : ∀ exchange ∈ writes, Accepted exchange.2 := of_decide_eq_true allAccepted.symm
      rcases storedBytes_exposureWrites requests accepted with ⟨shutter, fNumber, iso, exposureComp⟩
      rcases (updateStatus_outcome updated).taken_of_updateStatus rfl rfl with
        ⟨endpoint, reply, rfl, taken, rfl⟩
      rcases echoes _ (List.mem_singleton_self _) with ⟨records, holds, echoed⟩
      refine ⟨_, getExposureParams_afterStatus taken, ?_⟩
      rw [parseDeviceProperties_of_holdsRecords holds]
      exact readBack_updateCache_iff self.cache (echoed _ _ shutter) (echoed _ _ fNumber)
        (echoed _ _ iso) (echoed _ _ exposureComp)

end EchoCamera

/-- 1/250 s, f/2.8, ISO 400 and -0.3 EV. -/
def sampleParams : ExposureParams := ⟨250, 14 / 5, 400, -300⟩

/-- An aperture that is no `long long` in hundredths. -/
def overflowParams : ExposureParams := ⟨1, 10 ^ 17, 400, -300⟩

def sampleObject : SonyPTP3Impl Unit :=
  { (construct : SonyPTP3Impl Unit) with
    connectionState := .sessionOpen
    transport := some () }

def sampleWrites (params : ExposureParams) : List (Exchange Unit .bits64) :=
  (exposureWrites () params).map fun request => (request, okReply)

/-- The dataset of the camera after the four writes, with one more property. -/
def sampleDataset (params : ExposureParams) : List Record :=
  [.ofScalar 0x5010 .int32 (signExtend params.exposureComp).toNat,
    .ofScalar 0x500E .uint16 3,
    .ofScalar 0xD21E .uint32 params.iso.toNat,
    .ofScalar 0xD20D .uint32 (Exposure.encodeShutterSpeedRaw params.shutterSpeed).toNat,
    .ofScalar 0x5007 .uint16 (Exposure.encodeFNumberRaw params.fNumber).toNat]

def sampleReply (params : ExposureParams) : EscapeResult .bits64 where
  hr := 0
  responseCode := ptpRcOk
  payload := ⟨LittleEndian.ofNat 8 5 ++ encodeRecords (sampleDataset params), by
    simp [sampleDataset, DeviceProperties.IntegerType.size, SizeT.modulus, SizeT.bits]⟩

theorem holdsRecords_sampleReply (params : ExposureParams) :
    HoldsRecords (sampleReply params).payload (sampleDataset params) :=
  ⟨5, [], by simp [sampleReply], by simp [sampleDataset], by simp⟩

/-- The dataset echoes what the four writes have stored. -/
theorem echoes_sampleDataset (params : ExposureParams) {code : UInt32} {bytes : List UInt8}
    (stored : storedBytes (sampleWrites params) code = some bytes) :
    EchoesProperty (sampleDataset params) code bytes := by
  have accepted : Accepted okReply := by decide
  simp only [sampleWrites, exposureWrites, List.map_cons, List.map_nil, storedBytes,
    List.foldl_cons, List.foldl_nil, storeWrite_write accepted] at stored
  split at stored
  · rename_i same
    subst same
    cases stored
    exact ⟨[], _, (sampleDataset params).drop 1, _, _, _, _, rfl, rfl, rfl, rfl,
      by simp [sampleDataset, Record.ofScalar]⟩
  split at stored
  · rename_i same
    subst same
    cases stored
    exact ⟨(sampleDataset params).take 2, _, (sampleDataset params).drop 3, _, _, _, _, rfl, rfl,
      rfl, rfl, by simp [sampleDataset, Record.ofScalar]⟩
  split at stored
  · rename_i same
    subst same
    cases stored
    exact ⟨(sampleDataset params).take 4, _, [], _, _, _, _, rfl, rfl, rfl, rfl,
      by simp [sampleDataset, Record.ofScalar]⟩
  split at stored
  · rename_i same
    subst same
    cases stored
    exact ⟨(sampleDataset params).take 3, _, (sampleDataset params).drop 4, _, _, _, _, rfl, rfl,
      rfl, rfl, by simp [sampleDataset, Record.ofScalar]⟩
  · cases stored

theorem echoReply_sampleReply (params : ExposureParams) :
    EchoReply (sampleWrites params) (sampleReply params).payload :=
  ⟨sampleDataset params, holdsRecords_sampleReply params, fun _ _ => echoes_sampleDataset params⟩

theorem exec_setExposureParams_sample (params : ExposureParams) :
    Interaction.Exec (setExposureParams sampleObject params) (sampleWrites params) true := by
  have replayed : (setExposureParams sampleObject params).replay
      [okReply, okReply, okReply, okReply] = some (sampleWrites params, true) := by rfl
  exact Interaction.exec_of_replay replayed

theorem takesStatus_sampleReply (params : ExposureParams) :
    TakesStatus sampleObject (sampleReply params) := by
  have echoes : EchoesProperty (sampleDataset params) dpcIso
      (LittleEndian.ofNat 4 params.iso.toNat) := echoes_sampleDataset params rfl
  have iso := findProperty_of_echoesProperty echoes
  refine ⟨⟨rfl, rfl⟩, ?_⟩
  rw [parseDeviceProperties_of_holdsRecords (holdsRecords_sampleReply params)]
  simp [hasAnyExposureField, iso]

/-- What the object has taken over from the sample camera. -/
def sampleAfter (params : ExposureParams) : SonyPTP3Impl Unit :=
  afterStatus sampleObject (DeviceProperties.parseDeviceProperties (sampleReply params).payload)

theorem exec_updateStatus_sample (params : ExposureParams) :
    Interaction.Exec (updateStatus sampleObject) [(statusRequest (), sampleReply params)]
      (true, sampleAfter params) := by
  have taken := takesStatus_sampleReply params
  have opened : ensureConnected sampleObject = some () := rfl
  rw [updateStatus, opened]
  simp only
  rw [escape, Interaction.exec_perform_bind]
  refine ⟨sampleReply params, [], rfl, ?_⟩
  rw [if_neg (by simp [taken.1.1, taken.1.2]),
    if_neg (by simpa [or_iff_not_imp_left] using taken.2), Interaction.exec_pure]
  exact ⟨rfl, rfl⟩

theorem getExposureParams_of_echo_sample :
    ∃ readBack, getExposureParams (sampleAfter sampleParams) = some readBack ∧
      (ReadBack sampleParams readBack ↔ Exposure.ApertureFits sampleParams.fNumber) := by
  refine getExposureParams_of_echo (exec_setExposureParams_sample sampleParams)
    (exec_updateStatus_sample sampleParams) ?_
  intro exchange membership
  rw [List.mem_singleton.mp membership]
  exact echoReply_sampleReply sampleParams

/-- The camera is sent a zero for the overflowing aperture, and reads it back. -/
theorem getExposureParams_of_echo_overflow : ∃ (writes status : List (Exchange Unit .bits64))
    (after : SonyPTP3Impl Unit),
    Interaction.Exec (setExposureParams sampleObject overflowParams) writes true ∧
      Interaction.Exec (updateStatus sampleObject) status (true, after) ∧
      (∀ exchange ∈ status, EchoReply writes exchange.2.payload) ∧
      ¬∃ readBack, getExposureParams after = some readBack ∧ ReadBack overflowParams readBack := by
  refine ⟨sampleWrites overflowParams, _, sampleAfter overflowParams,
    exec_setExposureParams_sample _, exec_updateStatus_sample _, ?_, ?_⟩
  · intro exchange membership
    rw [List.mem_singleton.mp membership]
    exact echoReply_sampleReply overflowParams
  · rintro ⟨readBack, read, comesBack⟩
    have overflows : ¬Exposure.ApertureFits overflowParams.fNumber := by decide +kernel
    rw [sampleAfter, getExposureParams_afterStatus (takesStatus_sampleReply _)] at read
    cases read
    rw [parseDeviceProperties_of_holdsRecords (holdsRecords_sampleReply _)] at comesBack
    exact overflows ((readBack_updateCache_iff _ (echoes_sampleDataset _ rfl)
      (echoes_sampleDataset _ rfl) (echoes_sampleDataset _ rfl)
      (echoes_sampleDataset _ rfl)).mp comesBack)

end SimpleCamCtrl.Impl
