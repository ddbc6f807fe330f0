import SimpleCamCtrl.DeviceProperties.Parser
import SimpleCamCtrl.Exposure.Codec
import SimpleCamCtrl.Impl.Ptp

/-!
# The operations of `SonyPTP3_Impl`

The object's state and its member functions, as functions of the state to a program
that returns a result and the new state.  The functions here run with the API lock
held; a call that does not get the lock is modelled where calls are put together.
-/

namespace SimpleCamCtrl.Impl

structure StateCache where
  exposureParams : ExposureParams
  exposureMode : UInt32 := 0
  liveviewValid : Bool := false
  movieRecording : Bool := false
  deriving DecidableEq

inductive ConnectionState where
  | disconnected
  | transportReady
  | sessionOpen
  deriving DecidableEq, Repr

/-- The data members of `SonyPTP3_Impl`; transports are known by their identity. -/
structure SonyPTP3Impl (τ : Type) where
  cache : StateCache
  connectionState : ConnectionState := .disconnected
  hasStatus : Bool := false
  transport : Option τ := none
  deriving DecidableEq

variable {τ : Type} {sizeT : SizeT} [Commons]

/-- A newly constructed object. -/
def construct : SonyPTP3Impl τ :=
  { cache := { exposureParams := Commons.defaultExposureParams } }

/-- The lambda `call`: whether the device answered OK, and the answer. -/
def call (transport : τ) (opcode : UInt16) (params : List UInt32) :
    Escaping τ sizeT (Bool × EscapeResult sizeT) := do
  let outRes ← escape transport opcode params []
  pure (!Commons.hrFailed outRes.hr && outRes.responseCode == ptpRcOk, outRes)

/-- The answers that ask for a CloseSession and one more attempt. -/
def isImmediateReject (res : EscapeResult sizeT) : Bool :=
  if Commons.hrFailed res.hr then false
  else if res.responseCode == ptpRcOk then false
  else
    res.responseCode == ptpRcDeviceBusy || res.responseCode == ptpRcSessionAlreadyOpen ||
      res.responseCode == ptpRcSessionNotOpen || res.responseCode == ptpRcAuthenticationFailed

/-- The loop that asks for the extended device information until an answer carries data:
`ext_info_ok` and `last_ext_res`. -/
def getExtDeviceInfo (transport : τ) :
    (tries : Nat) → EscapeResult sizeT → Escaping τ sizeT (Bool × EscapeResult sizeT)
  | 0, lastExtRes => pure (false, lastExtRes)
  | tries + 1, _ => do
      let (ok, res) ← call transport ptpOcSDIOGetExtDeviceInfo [sdiExtensionVersion]
      if !ok then getExtDeviceInfo transport tries res
      else if res.payload.size ≠ 0 then pure (true, res)
      else getExtDeviceInfo transport tries res

/-- One handshake: whether it succeeded, and `out_last_res`. -/
def connectOnceWithDetail (transport : τ) : Escaping τ sizeT (Bool × EscapeResult sizeT) := do
  let (ok, res) ← call transport ptpOcSDIOConnect [1, 0, 0]
  if !ok then return (false, res)
  let (ok, res) ← call transport ptpOcSDIOConnect [2, 0, 0]
  if !ok then return (false, res)
  let (extInfoOk, lastExtRes) ← getExtDeviceInfo transport 3 res
  if !extInfoOk then return (false, lastExtRes)
  let (ok, res) ← call transport ptpOcSDIOConnect [3, 0, 0]
  if !ok then return (false, res)
  let openRes ← escape transport ptpOcSDIOOpenSession [1] []
  if Commons.hrFailed openRes.hr || openRes.responseCode != ptpRcOk then
    return (false, openRes)
  return (true, openRes)

/-- The handshake with its one retry. -/
def handshake (transport : τ) : Escaping τ sizeT Bool := do
  let (connected, lastRes) ← connectOnceWithDetail transport
  if connected then return true
  if isImmediateReject lastRes then
    let _ ← escape transport ptpOcCloseSession [] []
    let (connected, _) ← connectOnceWithDetail transport
    return connected
  return false

def connect (self : SonyPTP3Impl τ) : Escaping τ sizeT (Bool × SonyPTP3Impl τ) :=
  match self.transport with
  | none => pure (false, { self with connectionState := .disconnected })
  | some transport =>
      if self.connectionState = .sessionOpen then pure (true, self)
      else do
        let connected ← handshake transport
        if connected then
          return (true, { self with connectionState := .sessionOpen, hasStatus := false })
        else
          return (false, { self with connectionState := .transportReady })

/-- `EnsureConnected`, with the transport that the caller goes on to use. -/
def ensureConnected (self : SonyPTP3Impl τ) : Option τ :=
  if self.connectionState = .sessionOpen then self.transport else none

def controlDevice (self : SonyPTP3Impl τ) (propertyCode value : UInt32) :
    Escaping τ sizeT Bool :=
  match ensureConnected self with
  | none => pure false
  | some transport => do
      let res ← escape transport ptpOcSDIOControlDevice [propertyCode]
        (LittleEndian.ofNat 4 value.toNat)
      return Commons.hrSucceeded res.hr && res.responseCode == ptpRcOk

def setDevicePropValue (self : SonyPTP3Impl τ) (propertyCode : UInt32) (value : UInt64)
    (sizeBytes : UInt32) : Escaping τ sizeT Bool :=
  match ensureConnected self with
  | none => pure false
  | some transport =>
      if sizeBytes = 0 ∨ sizeBytes > 8 then pure false
      else do
        let res ← escape transport ptpOcSDIOSetExtDevicePropValue [propertyCode]
          (LittleEndian.ofNat sizeBytes.toNat value.toNat)
        return Commons.hrSucceeded res.hr && res.responseCode == ptpRcOk

/-- The commands that end an open session, in `SetPtpTransport` and in `Disconnect`. -/
def endSession (self : SonyPTP3Impl τ) : Escaping τ sizeT Unit :=
  match ensureConnected self with
  | none => pure ()
  | some transport => do
      let _ ← controlDevice self dpcMovieRec kButtonUp
      let _ ← controlDevice self dpcS1Button kButtonUp
      let _ ← escape transport ptpOcCloseSession [] []

def setPtpTransport [DecidableEq τ] (self : SonyPTP3Impl τ) (transport : Option τ) :
    Escaping τ sizeT (Bool × SonyPTP3Impl τ) :=
  if self.transport = transport then
    match self.transport with
    | none => pure (false, { self with connectionState := .disconnected, hasStatus := false })
    | some _ =>
        if self.connectionState ≠ .sessionOpen then
          pure (true, { self with connectionState := .transportReady })
        else
          pure (true, self)
  else do
    endSession self
    let self := { self with transport := transport, hasStatus := false }
    match transport with
    | some _ => pure (true, { self with connectionState := .transportReady })
    | none => pure (false, { self with connectionState := .disconnected })

def disconnect (self : SonyPTP3Impl τ) : Escaping τ sizeT (SonyPTP3Impl τ) := do
  endSession self
  let connectionState : ConnectionState :=
    if self.transport.isSome then .transportReady else .disconnected
  pure { self with connectionState := connectionState, hasStatus := false }

def isConnected (self : SonyPTP3Impl τ) : Bool :=
  decide (self.connectionState = .sessionOpen) && self.transport.isSome

/-- `props.find(static_cast<std::uint16_t>(code))`. -/
def findProperty (props : DeviceProperties.PropertyMap) (code : UInt32) : Option UInt64 :=
  props.lookup code.toUInt16

/-- `static_cast<std::int32_t>` of a recorded value. -/
def toInt32 (value : UInt64) : Int32 := value.toUInt32.toInt32

/-- `bHasAnyExposureField`. -/
def hasAnyExposureField (props : DeviceProperties.PropertyMap) : Bool :=
  (findProperty props dpcShutterSpeed).isSome || (findProperty props dpcFNumber).isSome ||
    (findProperty props dpcIso).isSome || (findProperty props dpcExposureCompensation).isSome ||
    (findProperty props dpcExposureMode).isSome

/-- The cache after a reply: each field whose code is present takes its decoded value. -/
def updateCache (cache : StateCache) (props : DeviceProperties.PropertyMap) : StateCache :=
  { cache with
    exposureParams :=
      { shutterSpeed :=
          match findProperty props dpcShutterSpeed with
          | some raw => Exposure.decodeShutterSpeedReciprocal raw.toUInt32
          | none => cache.exposureParams.shutterSpeed
        fNumber :=
          match findProperty props dpcFNumber with
          | some raw => Exposure.decodeFNumber raw.toUInt16
          | none => cache.exposureParams.fNumber
        iso :=
          match findProperty props dpcIso with
          | some raw => raw.toUInt32
          | none => cache.exposureParams.iso
        exposureComp :=
          match findProperty props dpcExposureCompensation with
          | some raw => toInt32 raw
          | none => cache.exposureParams.exposureComp }
    exposureMode :=
      match findProperty props dpcExposureMode with
      | some raw => raw.toUInt32
      | none => cache.exposureMode
    movieRecording :=
      match findProperty props dpcMovieRec with
      | some raw => raw != 0
      | none => cache.movieRecording }

def updateStatus (self : SonyPTP3Impl τ) : Escaping τ sizeT (Bool × SonyPTP3Impl τ) :=
  match ensureConnected self with
  | none => pure (false, self)
  | some transport => do
      let res ← escape transport ptpOcSDIOGetAllExtDeviceInfo [] []
      if Commons.hrFailed res.hr || res.responseCode != ptpRcOk then
        return (false, self)
      let props := DeviceProperties.parseDeviceProperties res.payload
      if !hasAnyExposureField props && !self.hasStatus then
        return (false, self)
      return (true, { self with
        cache := updateCache self.cache props
        hasStatus := hasAnyExposureField props || self.hasStatus })

/-- `GetExposureParams`: `none` when it returns false. -/
def getExposureParams (self : SonyPTP3Impl τ) : Option ExposureParams :=
  if self.hasStatus then some self.cache.exposureParams else none

def getExposureMode (self : SonyPTP3Impl τ) : UInt32 := self.cache.exposureMode

def focusStart (self : SonyPTP3Impl τ) : Escaping τ sizeT Bool :=
  controlDevice self dpcS1Button kButtonDown

def focusEnd (self : SonyPTP3Impl τ) : Escaping τ sizeT Bool :=
  controlDevice self dpcS1Button kButtonUp

def shutterStart (self : SonyPTP3Impl τ) : Escaping τ sizeT Bool :=
  controlDevice self dpcS2Button kButtonDown

def shutterEnd (self : SonyPTP3Impl τ) : Escaping τ sizeT Bool :=
  controlDevice self dpcS2Button kButtonUp

/-- `cache_.movie_recording = recording`. -/
def setMovieRecording (self : SonyPTP3Impl τ) (recording : Bool) : SonyPTP3Impl τ :=
  { self with cache := { self.cache with movieRecording := recording } }

def movieRecStart (self : SonyPTP3Impl τ) : Escaping τ sizeT (Bool × SonyPTP3Impl τ) := do
  let ok ← controlDevice self dpcMovieRec kButtonDown
  return (ok, if ok then setMovieRecording self true else self)

def movieRecEnd (self : SonyPTP3Impl τ) : Escaping τ sizeT (Bool × SonyPTP3Impl τ) := do
  let ok ← controlDevice self dpcMovieRec kButtonUp
  return (ok, if ok then setMovieRecording self false else self)

def isMovieRecording (self : SonyPTP3Impl τ) : Bool := self.cache.movieRecording

/-- The conversion of an `std::int32_t` argument to the `std::uint64_t` parameter of
`SetDevicePropValue`: the sign is extended. -/
def signExtend (value : Int32) : UInt64 := value.toInt64.toUInt64

def setExposureParams (self : SonyPTP3Impl τ) (params : ExposureParams) :
    Escaping τ sizeT Bool :=
  match ensureConnected self with
  | none => pure false
  | some _ => do
      let shutterOk ← setDevicePropValue self dpcShutterSpeed
        (Exposure.encodeShutterSpeedRaw params.shutterSpeed).toUInt64 4
      let fNumberOk ← setDevicePropValue self dpcFNumber
        (Exposure.encodeFNumberRaw params.fNumber).toUInt64 2
      let isoOk ← setDevicePropValue self dpcIso params.iso.toUInt64 4
      let exposureCompOk ← setDevicePropValue self dpcExposureCompensation
        (signExtend params.exposureComp) 4
      return shutterOk && fNumberOk && isoOk && exposureCompOk

end SimpleCamCtrl.Impl
