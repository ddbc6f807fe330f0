import SimpleCamCtrl.Demo.PollingClient
import SimpleCamCtrl.Exposure.WriteBack
import SimpleCamCtrl.Impl.CameraMirror

/-!
# Reading and writing back for ever

The demo writes back what it reads, without end, and reads what it has written.  Whatever gets
lost on the way, the values do not drift: each is the encoding of what was read first, or of the
default parameters where nothing had been read yet.  The first write changes what the camera had
only where its bytes are not those that the code writes for their value.
-/

namespace SimpleCamCtrl.Demo

open History Interaction
open DevEnum (StdString StringConversion)
open Impl (SonyPTP3Impl Exchange Call CallRun Accepted trace exposureWrites findProperty
  dpcShutterSpeed dpcFNumber dpcIso dpcExposureCompensation exposureParamCodes IsWrite IsStatus
  Quiet reportedValue decodedParams writeWidth)

section PollingDrift

variable {τ : Type} {sizeT : SizeT} [Commons]

/-- A write of the value has been sent, and perhaps lost. -/
def Sent (before : List (Exchange τ sizeT)) (code : UInt32) (raw : UInt64) : Prop :=
  ∃ exchange ∈ before, IsWrite exchange ∧ exchange.1.params = [code] ∧
    raw = UInt64.ofNat (LittleEndian.toNat exchange.1.writeData)

/-- What a status says of the four properties they had at first, or have been sent. -/
def OnlyReports (initial : UInt32 → List UInt8) (before : List (Exchange τ sizeT))
    (exchange : Exchange τ sizeT) : Prop :=
  IsStatus exchange → Accepted exchange.2 → ∀ code ∈ exposureParamCodes, ∀ raw,
    reportedValue exchange code = some raw →
      raw = UInt64.ofNat (LittleEndian.toNat (initial code)) ∨ Sent before code raw

/-- The first status is answered, and with all four properties. -/
def FirstStatusComplete (exchanges : List (Exchange τ sizeT)) : Prop :=
  ∀ before exchange after, exchanges = before ++ exchange :: after → IsStatus exchange →
    (∀ earlier ∈ before, ¬IsStatus earlier) →
    Accepted exchange.2 ∧ ∀ code ∈ exposureParamCodes, (reportedValue exchange code).isSome = true

/-! ## Where values come from -/

/-- What the code reads of the bytes that the camera had at first. -/
def readParams (initial : UInt32 → List UInt8) : ExposureParams :=
  decodedParams fun code => UInt64.ofNat (LittleEndian.toNat (initial code))

/-- The code writes the bytes as they are once it has read them: they have the widths of the
writes, and the shutter speed is a fraction in lowest terms that the encoder finds. -/
structure Rewritable (initial : UInt32 → List UInt8) : Prop where
  widths : ∀ code ∈ exposureParamCodes, (initial code).length = writeWidth code
  shutterSpeed : ∃ numerator denominator : ℕ, (1 ≤ numerator ∧ numerator ≤ 65535) ∧
    (1 ≤ denominator ∧ denominator ≤ 10000) ∧ numerator.Coprime denominator ∧
    LittleEndian.toNat (initial dpcShutterSpeed) = numerator * 65536 + denominator

/-- Every write sends the bytes that the camera had at first. -/
def WritesBack (initial : UInt32 → List UInt8) (exchanges : List (Exchange τ sizeT)) : Prop :=
  ∀ exchange ∈ exchanges, IsWrite exchange → ∃ code ∈ exposureParamCodes,
    exchange.1.params = [code] ∧ exchange.1.writeData = initial code

/-- Each of the parameters is encoded like that of one of the origins. -/
structure DrawnFrom (origins : List ExposureParams) (params : ExposureParams) : Prop where
  shutterSpeed : ∃ origin ∈ origins, Exposure.encodeShutterSpeedRaw params.shutterSpeed =
    Exposure.encodeShutterSpeedRaw origin.shutterSpeed
  fNumber : ∃ origin ∈ origins,
    Exposure.encodeFNumberRaw params.fNumber = Exposure.encodeFNumberRaw origin.fNumber
  iso : ∃ origin ∈ origins, params.iso = origin.iso
  exposureComp : ∃ origin ∈ origins, params.exposureComp = origin.exposureComp

/-- Every write sends the encoding of an origin. -/
def WritesFrom (origins : List ExposureParams) (exchanges : List (Exchange τ sizeT)) : Prop :=
  ∀ exchange ∈ exchanges, IsWrite exchange →
    ∃ origin ∈ origins, exchange.1 ∈ exposureWrites exchange.1.transport origin

variable {origins : List ExposureParams} {params : ExposureParams} {initial : UInt32 → List UInt8}
variable {before : List (Exchange τ sizeT)}

theorem drawnFrom_of_mem (membership : params ∈ origins) : DrawnFrom origins params :=
  ⟨⟨params, membership, rfl⟩, ⟨params, membership, rfl⟩, ⟨params, membership, rfl⟩,
    ⟨params, membership, rfl⟩⟩

/-- What is drawn from the origins is written as they are. -/
theorem writes_of_drawnFrom (drawn : DrawnFrom origins params) (transport : τ)
    {request : Impl.Request τ} (written : request ∈ exposureWrites transport params) :
    ∃ origin ∈ origins, request ∈ exposureWrites transport origin := by
  simp only [exposureWrites, List.mem_cons, List.not_mem_nil, or_false] at written ⊢
  rcases written with rfl | rfl | rfl | rfl
  · rcases drawn.shutterSpeed with ⟨origin, membership, same⟩
    exact ⟨origin, membership, by simp [same]⟩
  · rcases drawn.fNumber with ⟨origin, membership, same⟩
    exact ⟨origin, membership, by simp [same]⟩
  · rcases drawn.iso with ⟨origin, membership, same⟩
    exact ⟨origin, membership, by simp [same]⟩
  · rcases drawn.exposureComp with ⟨origin, membership, same⟩
    exact ⟨origin, membership, by simp [same]⟩

/-- What is read of rewritable bytes is encoded to them, up to the width. -/
theorem Rewritable.encoded (rewritable : Rewritable initial) :
    ((Exposure.encodeShutterSpeedRaw (readParams initial).shutterSpeed).toNat % 256 ^ 4 =
        LittleEndian.toNat (initial dpcShutterSpeed)) ∧
      ((Exposure.encodeFNumberRaw (readParams initial).fNumber).toNat % 256 ^ 2 =
        LittleEndian.toNat (initial dpcFNumber)) ∧
      ((readParams initial).iso.toNat % 256 ^ 4 = LittleEndian.toNat (initial dpcIso)) ∧
      ((Impl.signExtend (readParams initial).exposureComp).toNat % 256 ^ 4 =
        LittleEndian.toNat (initial dpcExposureCompensation)) := by
  have bound {code : UInt32} {width : ℕ} (isCode : code ∈ exposureParamCodes)
      (isWidth : writeWidth code = width) : LittleEndian.toNat (initial code) < 256 ^ width :=
    isWidth ▸ rewritable.widths code isCode ▸ LittleEndian.toNat_lt (initial code)
  have fNumber : LittleEndian.toNat (initial dpcFNumber) < 256 ^ 2 :=
    bound (by simp [exposureParamCodes]) rfl
  have iso : LittleEndian.toNat (initial dpcIso) < 256 ^ 4 :=
    bound (by simp [exposureParamCodes]) rfl
  have comp : LittleEndian.toNat (initial dpcExposureCompensation) < 256 ^ 4 :=
    bound (by simp [exposureParamCodes]) rfl
  rcases rewritable.shutterSpeed with ⟨numerator, denominator, ⟨numeratorPos, numeratorLe⟩,
    ⟨denominatorPos, denominatorLe⟩, coprime, fraction⟩
  have packed := Exposure.toNat_pack (Nat.lt_succ_of_le numeratorLe)
    (Nat.lt_succ_of_le (denominatorLe.trans (by decide)) : denominator < 65536)
  refine ⟨?_, ?_, ?_, ?_⟩
  · simp only [readParams, decodedParams]
    rw [fraction, ← packed, Impl.toUInt32_ofNat,
      Exposure.encode_decode_of_coprime numeratorPos numeratorLe denominatorPos denominatorLe
        coprime, packed]
    omega
  · simp only [readParams, decodedParams]
    rw [Exposure.encode_decodeFNumber, UInt64.toNat_toUInt16, UInt64.toNat_ofNat']
    omega
  · simp only [readParams, decodedParams]
    rw [UInt64.toNat_toUInt32, UInt64.toNat_ofNat']
    omega
  · rw [Impl.signExtend_mod]
    change (UInt64.ofNat _).toUInt32.toNat = _
    rw [UInt64.toNat_toUInt32, UInt64.toNat_ofNat']
    omega

/-- The encodings of what was read are the bytes themselves. -/
theorem writesBack_of_writesFrom {exchanges : List (Exchange τ sizeT)}
    (rewritable : Rewritable initial) (writes : WritesFrom [readParams initial] exchanges) :
    WritesBack initial exchanges := by
  have written {code : UInt32} {width value : ℕ} (isCode : code ∈ exposureParamCodes)
      (isWidth : writeWidth code = width)
      (same : value % 256 ^ width = LittleEndian.toNat (initial code)) :
      LittleEndian.ofNat width value = initial code := by
    rw [← isWidth, ← rewritable.widths code isCode] at same ⊢
    exact LittleEndian.ofNat_eq_of_mod_eq same
  rcases rewritable.encoded with ⟨shutterSpeed, fNumber, iso, exposureComp⟩
  intro exchange membership isWrite
  rcases writes exchange membership isWrite with ⟨origin, isOrigin, request⟩
  rw [List.mem_singleton.mp isOrigin] at request
  simp only [exposureWrites, List.mem_cons, List.not_mem_nil, or_false] at request
  rcases request with same | same | same | same <;> rw [same]
  · have isCode : dpcShutterSpeed ∈ exposureParamCodes := by simp [exposureParamCodes]
    exact ⟨_, isCode, rfl, written isCode rfl shutterSpeed⟩
  · have isCode : dpcFNumber ∈ exposureParamCodes := by simp [exposureParamCodes]
    exact ⟨_, isCode, rfl, written isCode rfl fNumber⟩
  · have isCode : dpcIso ∈ exposureParamCodes := by simp [exposureParamCodes]
    exact ⟨_, isCode, rfl, written isCode rfl iso⟩
  · have isCode : dpcExposureCompensation ∈ exposureParamCodes := by simp [exposureParamCodes]
    exact ⟨_, isCode, rfl, written isCode rfl exposureComp⟩

/-- What is reported of a property that has been sent comes from the write of an origin. -/
theorem Sent.request {code : UInt32} {raw : UInt64} (sent : Sent before code raw)
    (writes : WritesFrom origins before) :
    ∃ origin ∈ origins, ∃ transport : τ, ∃ request ∈ exposureWrites transport origin,
      request.params = [code] ∧ raw = UInt64.ofNat (LittleEndian.toNat request.writeData) := by
  rcases sent with ⟨exchange, membership, isWrite, forCode, same⟩
  rcases writes exchange membership isWrite with ⟨origin, isOrigin, written⟩
  exact ⟨origin, isOrigin, _, exchange.1, written, forCode, same⟩

/-- The four values that a write of parameters can leave in a status. -/
theorem value_of_write {transport : τ} {request : Impl.Request τ} {origin : ExposureParams}
    (written : request ∈ exposureWrites transport origin) :
    let raw := UInt64.ofNat (LittleEndian.toNat request.writeData)
    (request.params = [dpcShutterSpeed] →
        raw.toUInt32 = Exposure.encodeShutterSpeedRaw origin.shutterSpeed) ∧
      (request.params = [dpcFNumber] → raw.toUInt16 = Exposure.encodeFNumberRaw origin.fNumber) ∧
      (request.params = [dpcIso] → raw.toUInt32 = origin.iso) ∧
      (request.params = [dpcExposureCompensation] →
        Impl.toInt32 raw = origin.exposureComp) := by
  have fits32 (value : UInt32) : value.toNat < 256 ^ 4 := value.toNat_lt
  have fits16 (value : UInt16) : value.toNat < 256 ^ 2 := value.toNat_lt
  simp only [exposureWrites, List.mem_cons, List.not_mem_nil, or_false] at written
  rcases written with rfl | rfl | rfl | rfl
  · simp +decide [Impl.writeRequest, LittleEndian.toNat_ofNat_of_lt (fits32 _)]
  · simp +decide [Impl.writeRequest, LittleEndian.toNat_ofNat_of_lt (fits16 _)]
  · simp +decide [Impl.writeRequest, LittleEndian.toNat_ofNat_of_lt (fits32 _)]
  · simp only [Impl.writeRequest, Impl.toInt32_ofNat_signExtend]
    simp +decide

/-- The value was there at first, and then the parameters it stands for are an origin, or it has
been sent. -/
def Reports (origins : List ExposureParams) (initial : UInt32 → List UInt8)
    (before : List (Exchange τ sizeT)) (props : DeviceProperties.PropertyMap) : Prop :=
  ∀ code ∈ exposureParamCodes, ∀ raw, findProperty props code = some raw →
    (raw = UInt64.ofNat (LittleEndian.toNat (initial code)) ∧ readParams initial ∈ origins) ∨
      Sent before code raw

/-- A field that takes the value of a property over, if there is one. -/
theorem drawn_of_reported {α β : Type} (encode : α → β) (field : ExposureParams → α)
    (decode : UInt64 → α) {old : α} {code : UInt32} {props : DeviceProperties.PropertyMap}
    (isCode : code ∈ exposureParamCodes) (reports : Reports origins initial before props)
    (writes : WritesFrom origins before)
    (atFirst : field (readParams initial) =
      decode (UInt64.ofNat (LittleEndian.toNat (initial code))))
    (written : ∀ origin (transport : τ), ∀ request ∈ exposureWrites transport origin,
      request.params = [code] →
      encode (decode (UInt64.ofNat (LittleEndian.toNat request.writeData))) =
        encode (field origin))
    (kept : ∃ origin ∈ origins, encode old = encode (field origin)) :
    ∃ origin ∈ origins, encode (match findProperty props code with
      | some raw => decode raw
      | none => old) = encode (field origin) := by
  cases found : findProperty props code with
  | none => exact kept
  | some raw =>
      rcases reports code isCode raw found with ⟨rfl, isOrigin⟩ | sent
      · exact ⟨_, isOrigin, by rw [atFirst]⟩
      · rcases sent.request writes with
          ⟨origin, isOrigin, transport, request, isRequest, forCode, rfl⟩
        exact ⟨origin, isOrigin, written origin transport request isRequest forCode⟩

/-- What is read is decoded to what is written again. -/
theorem drawnFrom_updateCache {cache : Impl.StateCache} {props : DeviceProperties.PropertyMap}
    (reports : Reports origins initial before props) (writes : WritesFrom origins before)
    (drawn : DrawnFrom origins cache.exposureParams) :
    DrawnFrom origins (Impl.updateCache cache props).exposureParams where
  shutterSpeed := by
    refine drawn_of_reported Exposure.encodeShutterSpeedRaw ExposureParams.shutterSpeed
      (fun raw => Exposure.decodeShutterSpeedReciprocal raw.toUInt32)
      (by simp [exposureParamCodes]) reports writes rfl ?_ drawn.shutterSpeed
    intro origin _ request written forCode
    rw [(value_of_write written).1 forCode]
    exact Exposure.encode_decode_encode _
  fNumber := by
    refine drawn_of_reported Exposure.encodeFNumberRaw ExposureParams.fNumber
      (fun raw => Exposure.decodeFNumber raw.toUInt16)
      (by simp [exposureParamCodes]) reports writes rfl ?_ drawn.fNumber
    intro origin _ request written forCode
    rw [(value_of_write written).2.1 forCode]
    exact Exposure.encode_decodeFNumber _
  iso := by
    refine drawn_of_reported id ExposureParams.iso UInt64.toUInt32 (by simp [exposureParamCodes])
      reports writes rfl ?_ drawn.iso
    intro origin _ request written forCode
    exact (value_of_write written).2.2.1 forCode
  exposureComp := by
    refine drawn_of_reported id ExposureParams.exposureComp Impl.toInt32
      (by simp [exposureParamCodes]) reports writes rfl ?_ drawn.exposureComp
    intro origin _ request written forCode
    exact (value_of_write written).2.2.2 forCode

/-! ## Polling -/

variable [DecidableEq τ] {object object' : SonyPTP3Impl τ}
variable {last final : Option ExposureParams}
variable {call : Call τ sizeT} {polls : List (Call τ sizeT)}

/-- What polling keeps: all that has been written, is cached or is kept to be written comes from
the origins. -/
structure PollInvariant (origins : List ExposureParams) (before : List (Exchange τ sizeT))
    (object : SonyPTP3Impl τ) (last : Option ExposureParams) : Prop where
  writes : WritesFrom origins before
  cache : DrawnFrom origins object.cache.exposureParams
  last : DrawnFrom origins (last.getD Commons.defaultExposureParams)

omit [DecidableEq τ] in
theorem writesFrom_append {more : List (Exchange τ sizeT)} (earlier : WritesFrom origins before)
    (later : WritesFrom origins more) : WritesFrom origins (before ++ more) := by
  intro exchange membership
  rcases List.mem_append.mp membership with old | new
  · exact earlier exchange old
  · exact later exchange new

omit [DecidableEq τ] in
/-- The parameters that are written are those of the cache or the last ones. -/
theorem drawnFrom_latest (cache : DrawnFrom origins object.cache.exposureParams)
    (kept : DrawnFrom origins (last.getD Commons.defaultExposureParams)) :
    DrawnFrom origins (((Impl.getExposureParams object).or last).getD
      Commons.defaultExposureParams) := by
  rw [Impl.getExposureParams]
  split
  · exact cache
  · exact kept

omit [DecidableEq τ] in
theorem writesFrom_status (transport : τ) (reply : EscapeResult sizeT) :
    WritesFrom origins [(Impl.statusRequest transport, reply)] := by
  intro exchange membership isWrite
  rw [List.mem_singleton.mp membership] at isWrite
  have same : Impl.ptpOcSDIOGetAllExtDeviceInfo = Impl.ptpOcSDIOSetExtDevicePropValue := isWrite
  exact absurd same (by decide)

/-- UpdateStatus reads values of the origins. -/
theorem PollInvariant.status (inv : PollInvariant origins before object last)
    (isOrigin : readParams initial ∈ origins) (made : Calls object .updateStatus call)
    (reports : Each (OnlyReports initial) (before ++ call.exchanges)) :
    PollInvariant origins (before ++ call.exchanges) call.after
      ((Impl.getExposureParams call.after).or last) := by
  have cacheAndWrites : WritesFrom origins call.exchanges ∧
      DrawnFrom origins call.after.cache.exposureParams := by
    rcases made.outcome.of_updateStatus rfl with ⟨_, silent, _, same⟩ |
      ⟨transport, reply, _, asked, ⟨_, _, same⟩ | ⟨taken, _, same⟩⟩
    · rw [silent, same]
      exact ⟨by simp [WritesFrom], inv.cache⟩
    · rw [asked, same]
      exact ⟨writesFrom_status _ _, inv.cache⟩
    · rw [asked] at reports ⊢
      rw [same]
      have read : Reports origins initial before
          (DeviceProperties.parseDeviceProperties reply.payload) := by
        intro code isCode raw found
        rcases ((each_snoc _ _).mp reports).2 rfl taken.1 code isCode raw found with atFirst | sent
        · exact Or.inl ⟨atFirst, isOrigin⟩
        · exact Or.inr sent
      exact ⟨writesFrom_status _ _, drawnFrom_updateCache read inv.writes inv.cache⟩
  exact ⟨writesFrom_append inv.writes cacheAndWrites.1, cacheAndWrites.2,
    drawnFrom_latest cacheAndWrites.2 inv.last⟩

/-- In an open session all four values are written; without one, nothing. -/
theorem Calls.of_setExposureParams {params : ExposureParams}
    (made : Calls object (.setExposureParams params) call) :
    call.after = object ∧ ((Impl.ensureConnected object = none ∧ call.exchanges = []) ∨
      ∃ transport, Impl.ensureConnected object = some transport ∧
        call.exchanges.map Prod.fst = exposureWrites transport params) := by
  have outcome := made.outcome
  generalize call.exchanges = exchanges, call.result = result, call.after = after at outcome
  cases outcome with
  | noSession closed => exact ⟨rfl, Or.inl ⟨closed, rfl⟩⟩
  | wrote opened requests => exact ⟨rfl, Or.inr ⟨_, opened, requests⟩⟩
  | disconnected ending => simp at ending
  | controlled _ control => cases control

/-- SetExposureParams writes values of the origins. -/
theorem PollInvariant.write (inv : PollInvariant origins before object last)
    (made : Calls object (.setExposureParams (last.getD Commons.defaultExposureParams)) call) :
    PollInvariant origins (before ++ call.exchanges) call.after last := by
  rcases made.of_setExposureParams with ⟨same, sent⟩
  rw [same]
  refine ⟨writesFrom_append inv.writes ?_, inv.cache, inv.last⟩
  intro exchange membership _
  rcases sent with ⟨_, silent⟩ | ⟨transport, _, requests⟩
  · rw [silent] at membership
    cases membership
  · have written : exchange.1 ∈ exposureWrites transport _ :=
      requests ▸ List.mem_map_of_mem membership
    rcases writes_of_drawnFrom inv.last transport written with ⟨origin, isOrigin, isRequest⟩
    have same : exchange.1.transport = transport := by
      simp only [exposureWrites, List.mem_cons, List.not_mem_nil, or_false] at isRequest
      rcases isRequest with sent | sent | sent | sent <;> rw [sent] <;> rfl
    rw [same]
    exact ⟨origin, isOrigin, isRequest⟩

/-- Polling on and on keeps to the origins. -/
theorem PollInvariant.polling (inv : PollInvariant origins before object last)
    (isOrigin : readParams initial ∈ origins) (polling : Polling last object polls final object')
    (reports : Each (OnlyReports initial) (before ++ trace polls)) :
    WritesFrom origins (before ++ trace polls) := by
  induction polling generalizing before with
  | nil => simpa using inv.writes
  | @cons last final object object' status write calls updates writes _ ih =>
      have split : before ++ trace (status :: write :: calls) =
          before ++ status.exchanges ++ write.exchanges ++ trace calls := by
        simp only [Impl.trace_cons, List.append_assoc]
      rw [split] at reports ⊢
      have upToStatus := ((each_append _ _).mp ((each_append _ _).mp reports).1).1
      exact ih ((inv.status isOrigin updates upToStatus).write writes) reports

/-- Without a session polling asks nothing. -/
theorem Polling.silent (polling : Polling last object polls final object')
    (closed : Impl.ensureConnected object = none) : trace polls = [] := by
  induction polling with
  | nil => rfl
  | @cons last final object object' status write calls updates writes _ ih =>
      rcases updates.outcome.of_updateStatus rfl with ⟨_, silent, _, same⟩ | ⟨_, _, opened, _⟩
      · rcases writes.of_setExposureParams with ⟨unchanged, ⟨_, nothing⟩ | ⟨_, opened, _⟩⟩
        · rw [Impl.trace_cons, Impl.trace_cons, silent, nothing, ih (by rw [unchanged, same, closed])]
          rfl
        · rw [same, closed] at opened
          cases opened
      · rw [closed] at opened
        cases opened

/-- The first UpdateStatus makes what the camera had at first the only origin. -/
theorem pollInvariant_of_first {transport : τ} {rest : List (Exchange τ sizeT)}
    (opened : Impl.ensureConnected object = some transport)
    (made : Calls object .updateStatus call)
    (quiet : ∀ exchange ∈ before, Quiet exchange)
    (reports : Each (OnlyReports initial) (before ++ (call.exchanges ++ rest)))
    (complete : FirstStatusComplete (before ++ (call.exchanges ++ rest))) :
    PollInvariant [readParams initial] (before ++ call.exchanges) call.after
      ((Impl.getExposureParams call.after).or last) := by
  rcases made.outcome.of_updateStatus rfl with ⟨closed, _⟩ | ⟨endpoint, reply, _, asked, taken⟩
  · rw [opened] at closed
    cases closed
  rw [asked] at reports complete ⊢
  rcases complete before _ rest rfl rfl (fun earlier membership => (quiet earlier membership).2)
    with ⟨accepted, present⟩
  have found : ∀ code ∈ exposureParamCodes,
      findProperty (DeviceProperties.parseDeviceProperties reply.payload) code =
        some (UInt64.ofNat (LittleEndian.toNat (initial code))) := by
    intro code isCode
    rcases Option.isSome_iff_exists.mp (present code isCode) with ⟨raw, isRaw⟩
    rcases reports before _ rest rfl rfl accepted code isCode raw isRaw with rfl | sent
    · exact isRaw
    · rcases sent with ⟨exchange, membership, isWrite, _⟩
      exact ((quiet exchange membership).1 isWrite).elim
  have takes : Impl.TakesStatus object reply := by
    refine ⟨accepted, ?_⟩
    have shutter := found dpcShutterSpeed (by simp [exposureParamCodes])
    simp [Impl.hasAnyExposureField, shutter]
  rcases taken with ⟨refused, _⟩ | ⟨_, _, same⟩
  · exact (refused takes).elim
  · have cached : call.after.cache.exposureParams = readParams initial := by
      rw [same]
      exact Impl.updateCache_of_complete object.cache found
    have read : Impl.getExposureParams call.after = some (readParams initial) := by
      rw [same, Impl.getExposureParams_afterStatus takes,
        Impl.updateCache_of_complete object.cache found]
      rfl
    have origin : DrawnFrom [readParams initial] (readParams initial) :=
      drawnFrom_of_mem (List.mem_singleton_self _)
    refine ⟨writesFrom_append ?_ (writesFrom_status _ _), ?_, ?_⟩
    · intro exchange membership isWrite
      exact ((quiet exchange membership).1 isWrite).elim
    · rw [cached]
      exact origin
    · rw [read]
      exact origin

omit [DecidableEq τ] in
theorem writesFrom_of_quiet {exchanges : List (Exchange τ sizeT)}
    (quiet : ∀ exchange ∈ exchanges, Quiet exchange) : WritesFrom origins exchanges :=
  fun exchange membership isWrite => ((quiet exchange membership).1 isWrite).elim

section Client

variable {setup polls closing : List (Call StdString sizeT)} {ended : Bool}

/-- Only the polling reads the status and writes properties. -/
theorem ClientRun.quiet (client : ClientRun setup polls closing ended) :
    (∀ exchange ∈ trace setup, Quiet exchange) ∧ ∀ exchange ∈ trace closing, Quiet exchange := by
  rcases client.callRun with ⟨state, run⟩
  have quiet {part : List (Call StdString sizeT)}
      (inRun : ∀ call ∈ part, call ∈ setup ++ polls ++ closing)
      (others : ∀ call ∈ part,
        call.op ≠ .updateStatus ∧ ∀ params, call.op ≠ .setExposureParams params) :
      ∀ exchange ∈ trace part, Quiet exchange := by
    intro exchange membership
    rcases List.mem_flatMap.mp membership with ⟨call, inPart, exchanged⟩
    rcases run.exists_performs call (inRun call inPart) with ⟨_, _, performs⟩
    rcases performs.cases with ⟨_, silent, _⟩ | ⟨_, outcome⟩
    · rw [silent] at exchanged
      cases exchanged
    · exact outcome.quiet (others call inPart).1 (others call inPart).2 exchange exchanged
  constructor
  · refine quiet (by simp +contextual) fun call inSetup => ?_
    rcases client.setsUp call inSetup with same | ⟨_, same⟩ <;> simp [same]
  · refine quiet (by simp +contextual) fun call inClosing => ?_
    rcases client.closes call inClosing with same | same <;> simp [same]

/-- What the polling of a client writes comes from the default parameters and those that the
camera had at first; after a complete first status from the latter alone. -/
theorem ClientRun.writesFrom (client : ClientRun setup polls closing ended)
    (reports : Each (OnlyReports initial) (trace (setup ++ polls ++ closing))) :
    WritesFrom [Commons.defaultExposureParams, readParams initial]
        (trace (setup ++ polls ++ closing)) ∧
      (FirstStatusComplete (trace (setup ++ polls ++ closing)) →
        WritesFrom [readParams initial] (trace (setup ++ polls ++ closing))) := by
  rcases client.quiet with ⟨quietSetup, quietClosing⟩
  rcases client.calls with ⟨object, last, final, state, _, fresh, cache, polling, _⟩
  rw [Impl.trace_append, Impl.trace_append] at reports ⊢
  have reportsPolls := ((each_append _ _).mp reports).1
  constructor
  · refine writesFrom_append ?_ (writesFrom_of_quiet quietClosing)
    have default : DrawnFrom [Commons.defaultExposureParams, readParams initial]
        Commons.defaultExposureParams := drawnFrom_of_mem (by simp)
    have start : PollInvariant [Commons.defaultExposureParams, readParams initial]
        (trace setup) object none := by
      refine ⟨writesFrom_of_quiet quietSetup, ?_, default⟩
      rw [cache]
      exact default
    exact start.polling (by simp) polling reportsPolls
  · intro complete
    refine writesFrom_append ?_ (writesFrom_of_quiet quietClosing)
    cases opened : Impl.ensureConnected object with
    | none =>
        rw [polling.silent opened, List.append_nil]
        exact writesFrom_of_quiet quietSetup
    | some transport =>
        cases polling with
        | nil =>
            rw [Impl.trace_nil, List.append_nil]
            exact writesFrom_of_quiet quietSetup
        | @cons _ _ _ _ status write calls updates writes rest =>
            have split : trace setup ++ trace (status :: write :: calls) =
                trace setup ++ status.exchanges ++ write.exchanges ++ trace calls := by
              simp only [Impl.trace_cons, List.append_assoc]
            have start : PollInvariant [readParams initial] (trace setup ++ status.exchanges)
                status.after ((Impl.getExposureParams status.after).or none) := by
              rw [Impl.trace_cons, List.append_assoc, List.append_assoc] at reports complete
              exact pollInvariant_of_first opened updates quietSetup reports complete
            rw [split] at reportsPolls ⊢
            exact (start.write writes).polling (by simp) rest reportsPolls

end Client

end PollingDrift

def initialBytes (code : UInt32) : List UInt8 :=
  if code = dpcShutterSpeed then [1, 0, 1, 0]
  else if code = dpcFNumber then [0x18, 1]
  else if code = dpcIso then [0x90, 1, 0, 0]
  else [0xD4, 0xFE, 0xFF, 0xFF]

def initialDataset : List DeviceProperties.Record :=
  [.ofScalar 0x5010 .int32 (LittleEndian.toNat (initialBytes dpcExposureCompensation)),
    .ofScalar 0xD21E .uint32 (LittleEndian.toNat (initialBytes dpcIso)),
    .ofScalar 0xD20D .uint32 (LittleEndian.toNat (initialBytes dpcShutterSpeed)),
    .ofScalar 0x5007 .uint16 (LittleEndian.toNat (initialBytes dpcFNumber))]

def initialStatus : EscapeResult .bits64 :=
  ⟨0, Impl.ptpRcOk,
    ⟨LittleEndian.ofNat 8 4 ++ DeviceProperties.encodeRecords initialDataset, by decide⟩⟩

/-- The replies of one iteration, with the status answered. -/
def statusReplies : List (DemoReply Nat .bits64) :=
  polledReplies.map fun reply =>
    if reply.escaped.responseCode = 0x2019 then answer initialStatus else reply

def statusCalls : List (DemoCall Nat × DemoReply Nat .bits64) :=
  ((replay (main 1 2) statusReplies).map (·.1)).getD []

theorem initialStatus_reports : ∀ code ∈ exposureParamCodes,
    findProperty (DeviceProperties.parseDeviceProperties initialStatus.payload) code =
      some (UInt64.ofNat (LittleEndian.toNat (initialBytes code))) := by
  simp only [exposureParamCodes, List.forall_mem_cons, List.not_mem_nil, false_imp_iff,
    implies_true, and_true]
  refine ⟨?_, ?_, ?_, ?_⟩ <;> decide

theorem rewritable_initialBytes : Rewritable initialBytes := by
  refine ⟨?_, 1, 1, by decide, by decide, by decide, by decide⟩
  simp only [exposureParamCodes, List.forall_mem_cons, List.not_mem_nil, false_imp_iff,
    implies_true, and_true]
  decide

theorem statusCalls_exec :
    Exec (main 1 2 : Demoing Nat .bits64 (Option Int32)) statusCalls (some 0) := by
  have replayed : replay (main 1 2) statusReplies = some (statusCalls, some 0) := by rfl
  exact exec_of_replay replayed

theorem statusCalls_status : ∀ exchange ∈ camExchanges statusCalls, IsStatus exchange →
    exchange.2 = initialStatus := by
  decide +kernel

end SimpleCamCtrl.Demo
