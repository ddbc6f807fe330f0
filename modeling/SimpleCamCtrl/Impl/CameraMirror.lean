import SimpleCamCtrl.Impl.Compensation
import SimpleCamCtrl.Impl.EchoCamera
import SimpleCamCtrl.Impl.Status
import SimpleCamCtrl.Library.Registers

/-!
# The cache as a mirror of the camera

A camera holds the bytes of each property, which an accepted write replaces, and reports what it
holds.  In every run the exposure parameters that can be read are what the camera of the open
session held at the last status reply, and what it holds still if nothing has been written since,
provided that the camera has each property in the width in which it is written.
-/

namespace SimpleCamCtrl.Impl

open DeviceProperties (Record encodeRecords)
open History

section CameraMirror

variable {τ : Type} {sizeT : SizeT}

/-- The codes of the four values that are read and written. -/
def exposureParamCodes : List UInt32 :=
  [dpcShutterSpeed, dpcFNumber, dpcIso, dpcExposureCompensation]

def IsWrite (exchange : Exchange τ sizeT) : Prop :=
  exchange.1.opcode = ptpOcSDIOSetExtDevicePropValue

def IsStatus (exchange : Exchange τ sizeT) : Prop :=
  exchange.1.opcode = ptpOcSDIOGetAllExtDeviceInfo

instance (exchange : Exchange τ sizeT) : Decidable (IsWrite exchange) :=
  inferInstanceAs (Decidable (_ = _))

instance (exchange : Exchange τ sizeT) : Decidable (IsStatus exchange) :=
  inferInstanceAs (Decidable (_ = _))

/-- The exchange neither reads the status nor writes a property. -/
def Quiet (exchange : Exchange τ sizeT) : Prop := ¬IsWrite exchange ∧ ¬IsStatus exchange

/-- The value of a property in a status. -/
def reportedValue (exchange : Exchange τ sizeT) (code : UInt32) : Option UInt64 :=
  findProperty (reported exchange) code

/-- The parameters that reported values are decoded to. -/
def decodedParams (values : UInt32 → UInt64) : ExposureParams where
  shutterSpeed := Exposure.decodeShutterSpeedReciprocal (values dpcShutterSpeed).toUInt32
  fNumber := Exposure.decodeFNumber (values dpcFNumber).toUInt16
  iso := (values dpcIso).toUInt32
  exposureComp := toInt32 (values dpcExposureCompensation)

/-- Properties with all four values leave their decodings in the cache. -/
theorem updateCache_of_complete (cache : StateCache) {props : DeviceProperties.PropertyMap}
    {values : UInt32 → UInt64}
    (found : ∀ code ∈ exposureParamCodes, findProperty props code = some (values code)) :
    (updateCache cache props).exposureParams = decodedParams values := by
  simp only [exposureParamCodes, List.forall_mem_cons, List.not_mem_nil, false_imp_iff,
    implies_true, and_true] at found
  simp only [updateCache, found, decodedParams]

/-- The width in which SetExposureParams writes a property. -/
def writeWidth (code : UInt32) : ℕ := if code = dpcFNumber then 2 else 4

/-- The reciprocal of an exposure time, its numerator in the high half and its denominator in the
low one; all bits set stand for a bulb exposure, which has no time. -/
def heldShutterSpeed (raw : ℕ) : ℚ :=
  if raw = 2 ^ 32 - 1 then 0 else (raw % 2 ^ 16 : ℕ) / (raw / 2 ^ 16 : ℕ)

/-- The parameters that the bytes of the four properties stand for: a fraction of 32 bits,
hundredths, a number, and a two's complement. -/
def heldParams (held : UInt32 → List UInt8) : ExposureParams where
  shutterSpeed := heldShutterSpeed (LittleEndian.toNat (held dpcShutterSpeed))
  fNumber := LittleEndian.toNat (held dpcFNumber) / 100
  iso := UInt32.ofNat (LittleEndian.toNat (held dpcIso))
  exposureComp := Int32.ofInt (LittleEndian.toInt (held dpcExposureCompensation))

theorem decodeShutterSpeedReciprocal_eq (raw : UInt32) :
    Exposure.decodeShutterSpeedReciprocal raw = heldShutterSpeed raw.toNat := by
  have allOnes : raw = 0xFFFFFFFF ↔ raw.toNat = 2 ^ 32 - 1 := UInt32.toNat_inj.symm
  have zero : raw = 0 ↔ raw.toNat = 0 := UInt32.toNat_inj.symm
  have noDenominator : raw &&& 0xFFFF = 0 ↔ raw.toNat % 65536 = 0 := by
    rw [← UInt32.toNat_inj, (Exposure.toNat_halves raw).2]
    rfl
  simp only [heldShutterSpeed, Exposure.decodeShutterSpeedReciprocal,
    Exposure.decodeShutterSpeedSeconds, (Exposure.toNat_halves raw).1,
    (Exposure.toNat_halves raw).2, allOnes, zero, noDenominator]
  generalize raw.toNat = number
  by_cases bulb : number = 2 ^ 32 - 1
  · simp [bulb]
  · by_cases none : number % 65536 = 0
    · simp [none]
    · by_cases noNumerator : number / 65536 = 0
      · simp [none, noNumerator]
      · have nonzero : number ≠ 0 := by omega
        have positive : (0 : ℚ) < ((number / 65536 : ℕ) : ℚ) / ((number % 65536 : ℕ) : ℚ) := by
          have denominatorPos := Nat.pos_of_ne_zero none
          have numeratorPos := Nat.pos_of_ne_zero noNumerator
          positivity
        simp only [bulb, none, nonzero, or_self, if_false, positive, not_true, one_div_div]
        rfl

/-- In the widths of the writes the code decodes what a camera holds to what it stands for. -/
theorem heldParams_eq_decodedParams {held : UInt32 → List UInt8}
    (widths : ∀ code ∈ exposureParamCodes, (held code).length = writeWidth code) :
    heldParams held =
      decodedParams fun code => UInt64.ofNat (LittleEndian.toNat (held code)) := by
  have bound {code : UInt32} {width : ℕ} (sameWidth : (held code).length = width) :
      LittleEndian.toNat (held code) < 256 ^ width := sameWidth ▸ LittleEndian.toNat_lt (held code)
  simp only [exposureParamCodes, List.forall_mem_cons, List.not_mem_nil, false_imp_iff,
    implies_true, and_true] at widths
  rcases widths with ⟨shutterWidth, fNumberWidth, isoWidth, compWidth⟩
  have shutter : LittleEndian.toNat (held dpcShutterSpeed) < 256 ^ 4 := bound shutterWidth
  have fNumber : LittleEndian.toNat (held dpcFNumber) < 256 ^ 2 := bound fNumberWidth
  have comp : LittleEndian.toNat (held dpcExposureCompensation) < 256 ^ 4 := bound compWidth
  rw [heldParams, decodedParams, ExposureParams.mk.injEq]
  refine ⟨?_, ?_, ?_, ?_⟩
  · rw [decodeShutterSpeedReciprocal_eq, UInt64.toNat_toUInt32, UInt64.toNat_ofNat']
    congr 1
    omega
  · rw [Exposure.decodeFNumber, UInt64.toNat_toUInt16, UInt64.toNat_ofNat']
    congr 2
    omega
  · apply UInt32.toNat.inj
    rw [UInt64.toNat_toUInt32, UInt64.toNat_ofNat', UInt32.toNat_ofNat']
    omega
  · apply Int32.toInt.inj
    have width : 256 ^ (held dpcExposureCompensation).length = Int32.size := by
      rw [compWidth]
      rfl
    rw [toInt_toInt32_ofNat comp, Int32.toInt_ofInt, LittleEndian.toInt, width, Int.bmod_bmod]
    rfl

section Quiet

variable {self after : SonyPTP3Impl τ} {transport : τ} {exchanges : List (Exchange τ sizeT)}

theorem quiet_of_opcode {exchange : Exchange τ sizeT}
    (known : exchange.1.opcode = ptpOcSDIOControlDevice ∨
      exchange.1.opcode = ptpOcCloseSession ∨
      exchange.1.opcode = ptpOcSDIOOpenSession) : Quiet exchange := by
  rw [Quiet, IsWrite, IsStatus]
  rcases known with same | same | same <;> rw [same] <;> decide

theorem quiet_of_endsSession (ends : EndsSession self exchanges) :
    ∀ exchange ∈ exchanges, Quiet exchange := by
  rw [EndsSession] at ends
  split at ends
  · simp [ends]
  · rcases ends with ⟨stopMovie, releaseFocus, close, rfl⟩
    simp only [List.forall_mem_cons, List.not_mem_nil, false_imp_iff, implies_true, and_true]
    exact ⟨quiet_of_opcode (Or.inl rfl), quiet_of_opcode (Or.inl rfl),
      quiet_of_opcode (Or.inr (Or.inl rfl))⟩

variable [Commons]

/-- What does not use the session neither reads nor writes. -/
theorem quiet_of_preparatory {exchange : Exchange τ sizeT}
    (preparatory : Preparatory transport exchange) : Quiet exchange := by
  have unused : sessionAction exchange ≠ .used exchange.1.transport := by
    rcases preparatory with neutral | closed
    · rw [neutral]
      simp
    · rw [closed]
      simp
  constructor
  · intro isWrite
    refine unused ?_
    rw [sessionAction, isWrite]
    rfl
  · intro isStatus
    refine unused ?_
    rw [sessionAction, isStatus]
    rfl

theorem quiet_of_handshake {connected : Bool} (shape : Handshake transport exchanges connected) :
    ∀ exchange ∈ exchanges, Quiet exchange := by
  rcases shape with ⟨attempts, preparatory, shape⟩
  intro exchange membership
  cases connected with
  | false =>
      rw [shape] at membership
      exact quiet_of_preparatory (preparatory exchange membership)
  | true =>
      rcases shape with ⟨reply, _, rfl⟩
      rcases List.mem_append.mp membership with attempt | opens
      · exact quiet_of_preparatory (preparatory exchange attempt)
      · rw [List.mem_singleton.mp opens]
        exact quiet_of_opcode (Or.inr (Or.inr rfl))

/-- Only UpdateStatus reads the status, and only SetExposureParams writes properties. -/
theorem Outcome.quiet {op : Op τ} {result : Bool}
    (outcome : Outcome self op exchanges result after) (notStatus : op ≠ .updateStatus)
    (notWrite : ∀ params, op ≠ .setExposureParams params) :
    ∀ exchange ∈ exchanges, Quiet exchange := by
  cases outcome with
  | noTransport | alreadyOpen | keptNone | keptReady | keptOpen | noSession => simp
  | connected _ _ shape | refused _ _ shape => exact quiet_of_handshake shape
  | disconnected _ ends | newTransport _ ends => exact quiet_of_endsSession ends
  | statusRefused | statusTaken => exact (notStatus rfl).elim
  | wrote => exact (notWrite _ rfl).elim
  | controlled =>
      intro exchange membership
      rw [List.mem_singleton.mp membership]
      exact quiet_of_opcode (Or.inl rfl)

theorem isWrite_of_exposureWrites {params : ExposureParams}
    (requests : exchanges.map Prod.fst = exposureWrites transport params) :
    ∀ exchange ∈ exchanges, IsWrite exchange := by
  intro exchange membership
  have request : exchange.1 ∈ exposureWrites transport params :=
    requests ▸ List.mem_map_of_mem membership
  simp only [exposureWrites, List.mem_cons, List.not_mem_nil, or_false] at request
  rcases request with same | same | same | same <;> rw [IsWrite, same] <;> rfl

/-- Only UpdateStatus reads the status. -/
theorem Outcome.not_isStatus {op : Op τ} {result : Bool}
    (outcome : Outcome self op exchanges result after) (notStatus : op ≠ .updateStatus) :
    ∀ exchange ∈ exchanges, ¬IsStatus exchange := by
  intro exchange membership isStatus
  by_cases writes : ∃ params, op = .setExposureParams params
  · rcases writes with ⟨params, rfl⟩
    cases outcome with
    | noSession => cases membership
    | wrote _ requests =>
        have isWrite := isWrite_of_exposureWrites requests exchange membership
        rw [IsStatus, isWrite] at isStatus
        exact absurd isStatus (by decide)
    | disconnected ending => simp at ending
    | controlled _ control => cases control
  · have quiet := outcome.quiet notStatus fun params same => writes ⟨params, same⟩
    exact (quiet exchange membership).2 isStatus

end Quiet

section Mirror

variable [Commons]

/-- The property that a camera takes over from an accepted write, and its bytes. -/
def acceptedWrite (exchange : Exchange τ sizeT) : Option ((τ × UInt32) × List UInt8) :=
  if IsWrite exchange ∧ Accepted exchange.2 then
    match exchange.1.params with
    | [code] => some ((exchange.1.transport, code), exchange.1.writeData)
    | _ => none
  else none

variable [DecidableEq τ]

/-- What the camera behind a transport holds after a sequence of exchanges. -/
def cameraBytes (initial : τ × UInt32 → List UInt8) (exchanges : List (Exchange τ sizeT))
    (transport : τ) (code : UInt32) : List UInt8 :=
  Registers.contents acceptedWrite initial exchanges (transport, code)

/-- An answered status reports of the four properties what its camera holds, which it does in the
widths of the writes. -/
def ReportsHeld (initial : τ × UInt32 → List UInt8) (before : List (Exchange τ sizeT))
    (exchange : Exchange τ sizeT) : Prop :=
  IsStatus exchange → Accepted exchange.2 →
    ∃ records, HoldsRecords exchange.2.payload records ∧ ∀ code ∈ exposureParamCodes,
      EchoesProperty records code (cameraBytes initial before exchange.1.transport code) ∧
        (cameraBytes initial before exchange.1.transport code).length = writeWidth code

/-- The parameters are what the camera held at the latest answered status of the history, which
the camera of the open session has given. -/
structure MirrorsAt (initial : τ × UInt32 → List UInt8) (exchanges : List (Exchange τ sizeT))
    (object : SonyPTP3Impl τ) (params : ExposureParams) (transport : τ)
    (before : List (Exchange τ sizeT)) (status : Exchange τ sizeT)
    (after : List (Exchange τ sizeT)) : Prop where
  session : ensureConnected object = some transport
  split : exchanges = before ++ status :: after
  request : status.1 = statusRequest transport
  accepted : Accepted status.2
  latest : ∀ later ∈ after, ¬(IsStatus later ∧ Accepted later.2)
  params : params = heldParams (cameraBytes initial before transport)

omit [DecidableEq τ] in
theorem acceptedWrite_of_status {exchange : Exchange τ sizeT} {transport : τ}
    (status : exchange.1 = statusRequest transport) : acceptedWrite exchange = none := by
  rw [acceptedWrite, if_neg ?_]
  rintro ⟨isWrite, _⟩
  rw [IsWrite, status] at isWrite
  change ptpOcSDIOGetAllExtDeviceInfo = ptpOcSDIOSetExtDevicePropValue at isWrite
  exact absurd isWrite (by decide)

/-- While there is a status, the cache mirrors the camera. -/
def MirrorInvariant (initial : τ × UInt32 → List UInt8) (exchanges : List (Exchange τ sizeT))
    (object : SonyPTP3Impl τ) : Prop :=
  object.hasStatus = true → ∃ transport before status after,
    MirrorsAt initial exchanges object object.cache.exposureParams transport before status after

variable {initial : τ × UInt32 → List UInt8} {calls : List (Call τ sizeT)} {call : Call τ sizeT}
variable {state state' : Option (SonyPTP3Impl τ)}

/-- A call that keeps the status sends no status command that is answered. -/
theorem KeepsStatus.latest (keeps : KeepsStatus call) (performs : Performs state call state')
    (hasStatus : call.before.hasStatus = true) :
    ∀ exchange ∈ call.exchanges, ¬(IsStatus exchange ∧ Accepted exchange.2) := by
  rcases performs.cases with ⟨_, silent, _⟩ | ⟨_, outcome⟩
  · simp [silent]
  · intro exchange membership answered
    by_cases isUpdate : call.op = .updateStatus
    · refine keeps.nothingTaken isUpdate exchange membership ⟨answered.2, ?_⟩
      rw [hasStatus, Bool.or_true]
    · exact outcome.not_isStatus isUpdate exchange membership answered.1

/-- A call takes a new picture of the camera, keeps the old one, or drops it. -/
theorem MirrorInvariant.step (inv : MirrorInvariant initial (trace calls) call.before)
    (performs : Performs state call state')
    (reports : Each (ReportsHeld initial) (trace (calls ++ [call]))) :
    MirrorInvariant initial (trace (calls ++ [call])) call.after := by
  rw [trace_append, trace_singleton] at reports ⊢
  intro hasStatus
  cases performs.statusEffect with
  | handshake _ reset =>
      rw [reset] at hasStatus
      cases hasStatus
  | @taken transport reply takes =>
      rw [takes.exchanges] at reports ⊢
      rcases ((each_snoc _ _).mp reports).2 rfl takes.taken.1 with ⟨records, holds, echoes⟩
      refine ⟨transport, trace calls, (statusRequest transport, reply), [], ?_⟩
      refine ⟨?_, rfl, rfl, takes.taken.1, by simp, ?_⟩
      · rw [takes.after, ensureConnected_afterStatus, takes.session]
      · have widths : ∀ code ∈ exposureParamCodes,
            (cameraBytes initial (trace calls) transport code).length = writeWidth code :=
          fun code isCode => (echoes code isCode).2
        rw [takes.after, heldParams_eq_decodedParams widths]
        refine updateCache_of_complete call.before.cache fun code isCode => ?_
        rw [parseDeviceProperties_of_holdsRecords holds]
        exact findProperty_of_echoesProperty (echoes code isCode).1
  | kept keeps =>
      rcases keeps.flag with ⟨reset, _⟩ | ⟨sameFlag, sameSession⟩
      · rw [reset] at hasStatus
        cases hasStatus
      · rw [sameFlag] at hasStatus
        rcases inv hasStatus with ⟨transport, before, status, after, mirrors⟩
        refine ⟨transport, before, status, after ++ call.exchanges, ?_⟩
        refine ⟨sameSession.trans mirrors.session, ?_, mirrors.request, mirrors.accepted, ?_, ?_⟩
        · rw [mirrors.split, List.append_assoc, List.cons_append]
        · intro later membership
          rcases List.mem_append.mp membership with old | new
          · exact mirrors.latest later old
          · exact keeps.latest performs hasStatus later new
        · rw [keeps.exposureParams]
          exact mirrors.params

theorem CallRun.mirrorInvariant (run : CallRun calls state)
    (reports : Each (ReportsHeld initial) (trace calls)) :
    ∀ object, state = some object → MirrorInvariant initial (trace calls) object := by
  induction run with
  | start begins =>
      intro object alive hasStatus
      rw [begins] at alive
      cases alive
      cases hasStatus
  | @snoc calls _ _ call _ performs ih =>
      intro object alive
      rw [performs.after_of_alive alive]
      have earlier : Each (ReportsHeld initial) (trace calls) := by
        rw [trace_append] at reports
        exact ((each_append _ _).mp reports).1
      exact (ih earlier _ performs.alive).step performs reports

omit [DecidableEq τ] in
theorem acceptedWrite_write {transport : τ} {code : UInt32} {bytes : List UInt8}
    {reply : EscapeResult sizeT} (accepted : Accepted reply) :
    acceptedWrite (writeRequest transport code bytes, reply) = some ((transport, code), bytes) :=
  if_pos ⟨rfl, accepted⟩

/-- Four accepted writes leave the encodings of the parameters in the camera. -/
theorem cameraBytes_exposureWrites {params : ExposureParams} {transport : τ}
    {writes : List (Exchange τ sizeT)} (initial : τ × UInt32 → List UInt8)
    (before : List (Exchange τ sizeT))
    (requests : writes.map Prod.fst = exposureWrites transport params)
    (accepted : ∀ exchange ∈ writes, Accepted exchange.2) :
    cameraBytes initial (before ++ writes) transport dpcShutterSpeed =
        LittleEndian.ofNat 4 (Exposure.encodeShutterSpeedRaw params.shutterSpeed).toNat ∧
      cameraBytes initial (before ++ writes) transport dpcFNumber =
        LittleEndian.ofNat 2 (Exposure.encodeFNumberRaw params.fNumber).toNat ∧
      cameraBytes initial (before ++ writes) transport dpcIso =
        LittleEndian.ofNat 4 params.iso.toNat ∧
      cameraBytes initial (before ++ writes) transport dpcExposureCompensation =
        LittleEndian.ofNat 4 (signExtend params.exposureComp).toNat := by
  simp only [exposureWrites, List.map_eq_cons_iff, List.map_eq_nil_iff] at requests
  rcases requests with ⟨⟨_, shutter⟩, _, rfl, rfl, ⟨_, fNumber⟩, _, rfl, rfl,
    ⟨_, iso⟩, _, rfl, rfl, ⟨_, exposureComp⟩, _, rfl, rfl, rfl⟩
  simp only [List.forall_mem_cons, List.not_mem_nil, false_imp_iff, implies_true,
    and_true] at accepted
  rcases accepted with ⟨shutterOk, fNumberOk, isoOk, exposureCompOk⟩
  simp only [cameraBytes, Registers.contents_append]
  generalize Registers.contents acceptedWrite initial before = current
  simp only [Registers.contents, List.foldl_cons, List.foldl_nil, Registers.write,
    acceptedWrite_write, shutterOk, fNumberOk, isoOk, exposureCompOk]
  simp +decide

omit [DecidableEq τ] in
/-- The encodings of parameters stand for what comes back for them. -/
theorem readBack_heldParams {params : ExposureParams} {held : UInt32 → List UInt8}
    (apertureFits : Exposure.ApertureFits params.fNumber)
    (shutter : held dpcShutterSpeed =
      LittleEndian.ofNat 4 (Exposure.encodeShutterSpeedRaw params.shutterSpeed).toNat)
    (fNumber : held dpcFNumber =
      LittleEndian.ofNat 2 (Exposure.encodeFNumberRaw params.fNumber).toNat)
    (iso : held dpcIso = LittleEndian.ofNat 4 params.iso.toNat)
    (exposureComp : held dpcExposureCompensation =
      LittleEndian.ofNat 4 (signExtend params.exposureComp).toNat) :
    ReadBack params (heldParams held) := by
  have fits32 (value : UInt32) : value.toNat < 256 ^ 4 := value.toNat_lt
  have fits16 (value : UInt16) : value.toNat < 256 ^ 2 := value.toNat_lt
  have widths : ∀ code ∈ exposureParamCodes, (held code).length = writeWidth code := by
    simp only [exposureParamCodes, List.forall_mem_cons, List.not_mem_nil, false_imp_iff,
      implies_true, and_true, shutter, fNumber, iso, exposureComp, LittleEndian.length_ofNat]
    decide
  rw [heldParams_eq_decodedParams widths]
  refine (readBack_iff_apertureFits ?_ ?_ ?_ ?_).mpr apertureFits
  · rw [decodedParams, shutter, LittleEndian.toNat_ofNat_of_lt (fits32 _), toUInt32_ofNat]
  · rw [decodedParams, fNumber, LittleEndian.toNat_ofNat_of_lt (fits16 _), toUInt16_ofNat]
  · rw [decodedParams, iso, LittleEndian.toNat_ofNat_of_lt (fits32 _)]
    exact toUInt32_ofNat params.iso
  · rw [decodedParams, exposureComp]
    exact toInt32_ofNat_signExtend params.exposureComp

omit [DecidableEq τ] in
/-- A SetExposureParams that succeeds has had its four writes accepted. -/
theorem Outcome.accepted_of_setExposureParams {self after : SonyPTP3Impl τ}
    {exchanges : List (Exchange τ sizeT)} {params : ExposureParams}
    (outcome : Outcome self (.setExposureParams params) exchanges true after) :
    ∃ transport, ensureConnected self = some transport ∧
      exchanges.map Prod.fst = exposureWrites transport params ∧
      ∀ exchange ∈ exchanges, Accepted exchange.2 := by
  generalize isOk : true = result at outcome
  cases outcome with
  | wrote opened requests => exact ⟨_, opened, requests, of_decide_eq_true isOk.symm⟩
  | noSession => cases isOk
  | disconnected ending => simp at ending
  | controlled _ control => cases control

/-- The latest answered status comes after the calls before a successful UpdateStatus. -/
theorem MirrorsAt.before_eq {later : List (Call τ sizeT)} {object : SonyPTP3Impl τ}
    {params : ExposureParams} {transport : τ} {before after : List (Exchange τ sizeT)}
    {status : Exchange τ sizeT} (run : CallRun (calls ++ later) (some object))
    (mirrors : MirrorsAt initial (trace (calls ++ later)) object params transport before status
      after)
    (updated : ∃ call ∈ later, call.op = .updateStatus ∧ call.result = true) :
    ∃ middle, before = trace calls ++ middle ∧ trace later = middle ++ status :: after := by
  have split := mirrors.split
  rw [trace_append] at split
  refine exists_split_of_latest split mirrors.latest ?_
  rcases updated with ⟨call, inLater, isUpdate, succeeded⟩
  rcases run.exists_performs call (List.mem_append_right _ inLater) with ⟨state, state', performs⟩
  rcases performs.cases with ⟨_, _, failed, _⟩ | ⟨_, outcome⟩
  · rw [succeeded] at failed
    cases failed
  · rcases outcome.taken_of_updateStatus isUpdate succeeded with ⟨endpoint, reply, asked, taken, _⟩
    refine ⟨(statusRequest endpoint, reply), List.mem_flatMap.mpr ⟨call, inLater, ?_⟩, rfl,
      taken.1⟩
    rw [asked]
    exact List.mem_singleton_self _

end Mirror

end CameraMirror

/-- 1/2 s, f/2.8, ISO 400 and -0.3 EV. -/
def mirrorParams : ExposureParams := ⟨2, 14 / 5, 400, -300⟩

def mirrorScript : List (Op Unit × Option (List (EscapeResult .bits64))) :=
  [(.setPtpTransport (some ()), some []),
    (.connect, some [okReply, okReply, infoReply, okReply, okReply]),
    (.setExposureParams mirrorParams, some (List.replicate 4 okReply)),
    (.updateStatus, some [sampleReply mirrorParams])]

def mirrorCalls : List (Call Unit .bits64) := scriptCalls mirrorScript

def mirrorObject : SonyPTP3Impl Unit :=
  { cache := { exposureParams := mirrorParams, exposureMode := 3 }
    connectionState := .sessionOpen
    hasStatus := true
    transport := some () }

theorem mirrorCalls_run : CallRun mirrorCalls (some mirrorObject) := by
  have run : CallRun mirrorCalls (scriptState mirrorScript) := callRun_script (by rfl)
  have final : scriptState mirrorScript = some mirrorObject := by decide +kernel
  rwa [final] at run

theorem mirrorCalls_report : Each (ReportsHeld fun _ => []) (trace mirrorCalls) := by
  have split : trace mirrorCalls = (trace mirrorCalls).take 5 ++ sampleWrites mirrorParams ++
      [(statusRequest (), sampleReply mirrorParams)] := by rfl
  have noStatus : ∀ exchange ∈ (trace mirrorCalls).take 5 ++ sampleWrites mirrorParams,
      ¬IsStatus exchange := by decide
  rw [split, each_snoc]
  constructor
  · refine each_of_forall ?_
    intro _ exchange membership isStatus
    exact (noStatus exchange membership isStatus).elim
  · intro _ _
    refine ⟨sampleDataset mirrorParams, holdsRecords_sampleReply mirrorParams, ?_⟩
    have requests : (sampleWrites mirrorParams).map Prod.fst = exposureWrites () mirrorParams := rfl
    rcases cameraBytes_exposureWrites (fun _ => []) ((trace mirrorCalls).take 5) requests
      (by decide) with ⟨shutter, fNumber, iso, exposureComp⟩
    simp only [exposureParamCodes, List.forall_mem_cons, List.not_mem_nil, false_imp_iff,
      implies_true, and_true, shutter, fNumber, iso, exposureComp, LittleEndian.length_ofNat]
    exact ⟨⟨echoes_sampleDataset _ rfl, rfl⟩, ⟨echoes_sampleDataset _ rfl, rfl⟩,
      ⟨echoes_sampleDataset _ rfl, rfl⟩, echoes_sampleDataset _ rfl, rfl⟩

end SimpleCamCtrl.Impl
