import SimpleCamCtrl.Impl.Calls
import SimpleCamCtrl.Library.Contract
import SimpleCamCtrl.Wia.WorkerTask

/-!
# The device enumerator

`SonyPTP3DevEnum`: `Refresh` and `OpenByIndex` as programs whose calls go to COM, to WIA and
to the transport of the camera being opened.  What these calls return is not constrained.
-/

namespace SimpleCamCtrl.DevEnum

open Interaction
open Impl (SonyPTP3Impl)
open Wia (sOk sFalse)

abbrev rpcEChangedMode : Int32 := (0x80010106 : UInt32).toInt32

/-- An `std::string`. -/
abbrev StdString := List UInt8

/-- A wide string. -/
abbrev WideString := List UInt16

/-- The bytes of a string literal. -/
def text (literal : String) : StdString := literal.toUTF8.data.toList

/-- The conversions between the encodings, which are functions of Windows.  A string passed
to them ends at its first null; `none` stands for the result 0. -/
class StringConversion where
  /-- `WideCharToMultiByte` with `CP_UTF8` and no flags. -/
  wideCharToMultiByte : WideString → Option StdString
  /-- `MultiByteToWideChar` with `CP_UTF8` and no flags. -/
  multiByteToWideChar : StdString → Option WideString

/-- The conversions of ASCII strings, under which the model is evaluated. -/
instance asciiConversion : StringConversion where
  wideCharToMultiByte wide := if wide.all (· < 128) then some (wide.map (·.toUInt8)) else none
  multiByteToWideChar narrow :=
    if narrow.all (· < 128) then some (narrow.map (·.toUInt16)) else none

/-- `std::toupper` in the "C" locale. -/
def toUpper (c : UInt8) : UInt8 := if 97 ≤ c ∧ c ≤ 122 then c - 32 else c

/-- `sUpper`. -/
def upperCase (sField : StdString) : StdString := sField.map toUpper

/-- `k_SonyTokens`. -/
def sonyTokens : List StdString :=
  ["ILCE", "ILCA", "ILME", "DSC", "ZV", "PXW", "PMW", "HXR", "BRC", "ILX", "MPC"].map text

/-- `ContainsSonyToken`: the token written to `outToken`, `none` when it returns false. -/
def containsSonyToken (sField : StdString) : Option StdString :=
  sonyTokens.find? fun pToken => decide (pToken <:+: upperCase sField)

/-- The three properties that are read of a WIA device. -/
structure WiaRawEntry where
  sId : StdString
  sDesc : StdString
  sName : StdString
  deriving DecidableEq

/-- What the code sets of a `TDevEnumDeviceInfo`. -/
structure TDevEnumDeviceInfo where
  nDeviceIndex : Int32
  sDeviceName : StdString
  sDeviceType : StdString
  sDeviceLocation : StdString
  vExtraFields : List (StdString × StdString)
  deriving DecidableEq

/-- `SonyPTP3DevEnum`: its one member is `m_vecDeviceInfo`. -/
structure SonyPTP3DevEnum where
  vecDeviceInfo : List TDevEnumDeviceInfo := []
  deriving DecidableEq

structure TSonyPTP3OpenParams where
  bAutoUpdateStatus : Bool := true
  deriving DecidableEq

/-- The calls whose results the code looks at, or that matter to COM or to the devices.
Interface pointers are known by a type `π`. -/
inductive DevEnumCall (π : Type) where
  | coInitializeEx
  /-- `CoUninitialize`. -/
  | coUninit
  | coCreateInstance
  | enumDeviceInfo (wiaMgr : π)
  | next (enumerator : π)
  | readMultiple (prop : π)
  | sysAllocString (wide : WideString)
  | createDevice (wiaMgr : π) (bstrId : WideString)
  | release (object : π)
  /-- A `WiaTransport` is constructed. -/
  | makeTransport (sDeviceId : StdString)
  /-- A public function of `SonyPTP3_Impl` waits for the API lock. -/
  | lockApi
  | escape (request : Impl.Request StdString)
  deriving DecidableEq

/-- A `PROPVARIANT`: a string that may be null, or something of another type. -/
inductive PropVariant where
  | bstr (bstrVal : Option WideString)
  | other
  deriving DecidableEq

/-- What a call returns: its status, the interface pointer it stores, the number of devices
fetched, the values read, whether a string was allocated and the lock obtained, and the
result of an `Escape`.  Each call has some of these. -/
structure DevEnumReply (π : Type) (sizeT : SizeT) where
  hr : Int32 := sOk
  object : Option π := none
  fetched : UInt32 := 0
  deviceId : PropVariant := .other
  deviceDesc : PropVariant := .other
  deviceName : PropVariant := .other
  notNull : Bool := true
  locked : Bool := true
  escaped : EscapeResult sizeT := ⟨0, 0, .empty⟩
  deriving DecidableEq

variable {π : Type} {sizeT : SizeT}

/-- The pointer, unless `FAILED(hr) || !pointer`. -/
def DevEnumReply.obtained (reply : DevEnumReply π sizeT) : Option π :=
  if reply.hr < 0 then none else reply.object

theorem DevEnumReply.object_of_obtained {reply : DevEnumReply π sizeT} {pointer : π}
    (obtained : reply.obtained = some pointer) : reply.object = some pointer := by
  rw [DevEnumReply.obtained] at obtained
  split at obtained
  · cases obtained
  · exact obtained

/-- Programs of the enumerator. -/
abbrev Enumerating (π : Type) (sizeT : SizeT) :=
  Interaction (DevEnumCall π) (DevEnumReply π sizeT)

def safeRelease : Option π → Enumerating π sizeT Unit
  | none => pure ()
  | some object => do
      let _ ← perform (.release object)
      return ()

/-- How both functions begin: `bCOMInitHere`, or `none` for a genuine failure. -/
def initialiseCom : Enumerating π sizeT (Option Bool) := do
  let hrCom ← perform .coInitializeEx
  return if hrCom.hr = sOk then some true
    else if hrCom.hr = sFalse ∨ hrCom.hr = rpcEChangedMode then some false
    else none

def uninitialiseCom (bCOMInitHere : Bool) : Enumerating π sizeT Unit :=
  if bCOMInitHere then do
    let _ ← perform .coUninit
    return ()
  else
    pure ()

section Parts

variable {allowed : DevEnumCall π → Prop}

theorem only_safeRelease (isAllowed : ∀ object, allowed (.release object)) (object : Option π) :
    Only allowed (safeRelease object : Enumerating π sizeT Unit) := by
  cases object with
  | none => exact only_pure _
  | some object => exact (only_perform (isAllowed object)).bind fun _ => only_pure _

theorem only_initialiseCom (isAllowed : allowed .coInitializeEx) :
    Only allowed (initialiseCom : Enumerating π sizeT (Option Bool)) :=
  (only_perform isAllowed).bind fun _ => only_pure _

theorem only_uninitialiseCom (isAllowed : allowed .coUninit) (bCOMInitHere : Bool) :
    Only allowed (uninitialiseCom bCOMInitHere : Enumerating π sizeT Unit) :=
  only_ite (fun _ => (only_perform isAllowed).bind fun _ => only_pure _) fun _ => only_pure _

end Parts

section Refresh

variable [StringConversion]

/-- `BstrToUtf8`. -/
def bstrToUtf8 (bstr : WideString) : StdString :=
  (StringConversion.wideCharToMultiByte (bstr.takeWhile (· ≠ 0))).getD []

/-- The string of a property, if it is one. -/
def PropVariant.toUtf8 : PropVariant → StdString
  | bstr (some bstrVal) => bstrToUtf8 bstrVal
  | bstr none | other => []

/-- The strings that `ReadWiaDeviceStrings` makes of a reply. -/
def DevEnumReply.rawEntry (reply : DevEnumReply π sizeT) : WiaRawEntry :=
  if reply.hr < 0 then ⟨[], [], []⟩
  else ⟨reply.deviceId.toUtf8, reply.deviceDesc.toUtf8, reply.deviceName.toUtf8⟩

def readWiaDeviceStrings (pProp : π) : Enumerating π sizeT WiaRawEntry := do
  let reply ← perform (.readMultiple pProp)
  return reply.rawEntry

/-- The first pass: `vecRaw` when the enumerator has ended, `none` when it still has not after
so many devices. -/
def collectDevices (pEnum : π) :
    (fuel : Nat) → List WiaRawEntry → Enumerating π sizeT (Option (List WiaRawEntry))
  | 0, _ => pure none
  | fuel + 1, vecRaw => do
      let reply ← perform (.next pEnum)
      match reply.object with
      | none => return some vecRaw
      | some pProp =>
          if reply.hr ≠ sOk ∨ reply.fetched = 0 then
            safeRelease (some pProp)
            return some vecRaw
          else
            let stRaw ← readWiaDeviceStrings pProp
            safeRelease (some pProp)
            collectDevices pEnum fuel (if stRaw.sId = [] then vecRaw else vecRaw ++ [stRaw])

/-- One element of the snapshot. -/
def deviceInfo (nIdx : Int32) (stRaw : WiaRawEntry) (sMatchedToken : StdString) :
    TDevEnumDeviceInfo where
  nDeviceIndex := nIdx
  sDeviceName := if stRaw.sDesc = [] then stRaw.sName else stRaw.sDesc
  sDeviceType := text "sony_ptp3"
  sDeviceLocation := stRaw.sId
  vExtraFields :=
    [(text "wiaId", stRaw.sId), (text "wiaDesc", stRaw.sDesc), (text "wiaName", stRaw.sName),
      (text "transport", text "wia"), (text "sonyMatchedToken", sMatchedToken)]

/-- The second pass; the counter wraps where the code's would overflow. -/
def retainSonyDevices (nIdx : Int32) : List WiaRawEntry → List TDevEnumDeviceInfo
  | [] => []
  | stRaw :: vecRaw =>
      match (containsSonyToken stRaw.sDesc).or (containsSonyToken stRaw.sName) with
      | none => retainSonyDevices nIdx vecRaw
      | some sMatchedToken =>
          deviceInfo nIdx stRaw sMatchedToken :: retainSonyDevices (nIdx + 1) vecRaw

/-- `Refresh`: its result and the state it leaves, or `none` when the enumerator has not
ended.  The snapshot is cleared first, so that the earlier one does not matter. -/
def refresh (fuel : Nat) : Enumerating π sizeT (Option (Bool × SonyPTP3DevEnum)) := do
  match ← initialiseCom with
  | none => return some (false, {})
  | some bCOMInitHere =>
      let created ← perform .coCreateInstance
      match created.obtained with
      | none =>
          safeRelease created.object
          uninitialiseCom bCOMInitHere
          return some (false, {})
      | some pWiaMgr =>
          let enumerated ← perform (.enumDeviceInfo pWiaMgr)
          match enumerated.obtained with
          | none =>
              safeRelease enumerated.object
              safeRelease (some pWiaMgr)
              uninitialiseCom bCOMInitHere
              return some (true, {})
          | some pEnum =>
              match ← collectDevices pEnum fuel [] with
              | none => return none
              | some vecRaw =>
                  safeRelease (some pEnum)
                  safeRelease (some pWiaMgr)
                  uninitialiseCom bCOMInitHere
                  return some (true, ⟨retainSonyDevices 0 vecRaw⟩)

end Refresh

/-- The size of the snapshot, as the index is compared with it. -/
def SonyPTP3DevEnum.size (self : SonyPTP3DevEnum) : Int32 := Int32.ofNat self.vecDeviceInfo.length

/-- An index that passes the check is within the vector, also where its size does not fit 32
bits. -/
theorem SonyPTP3DevEnum.index_lt {self : SonyPTP3DevEnum} {nDeviceIndex : Int32}
    (valid : ¬(nDeviceIndex < 0 ∨ nDeviceIndex ≥ self.size)) :
    nDeviceIndex.toNatClampNeg < self.vecDeviceInfo.length := by
  have cast : self.size.toInt ≤ self.vecDeviceInfo.length := by
    rw [size, Int32.toInt_ofNat', Int32.size, Int.bmod_def]
    split <;> omega
  rw [not_or, Int32.not_lt, ge_iff_le, Int32.not_le, Int32.le_iff_toInt_le,
    Int32.lt_iff_toInt_lt, Int32.toInt_zero] at valid
  rw [Int32.toNatClampNeg]
  omega

/-- `sWiaId`. -/
def wiaIdOf (stEntry : TDevEnumDeviceInfo) : StdString :=
  (stEntry.vExtraFields.lookup (text "wiaId")).getD []

section OpenByIndex

variable [StringConversion]

/-- The string that `Utf8ToBstr` allocates. -/
def wideFromUtf8 (sUtf8 : StdString) : Option WideString :=
  if sUtf8 = [] then none
  else
    (StringConversion.multiByteToWideChar (sUtf8.takeWhile (· ≠ 0))).map fun vecWide =>
      vecWide.takeWhile (· ≠ 0)

def utf8ToBstr (sUtf8 : StdString) : Enumerating π sizeT (Option WideString) :=
  match wideFromUtf8 sUtf8 with
  | none => pure none
  | some wide => do
      let allocated ← perform (.sysAllocString wide)
      return if allocated.notNull then some wide else none

variable [Commons]

/-- A public function of a `SonyPTP3_Impl`, which returns false without the API lock. -/
def callSony (spSony : SonyPTP3Impl StdString) (op : Impl.Op StdString) :
    Enumerating π sizeT (Bool × SonyPTP3Impl StdString) := do
  let lock ← perform .lockApi
  if lock.locked then
    (Impl.perform spSony op).embed .escape DevEnumReply.escaped
  else
    return (false, spSony)

/-- The object after the `UpdateStatus` that the parameters may ask for; its result is
ignored. -/
def autoUpdateStatus (spSony : SonyPTP3Impl StdString) (stOpenParams : TSonyPTP3OpenParams) :
    Enumerating π sizeT (SonyPTP3Impl StdString) :=
  if stOpenParams.bAutoUpdateStatus then do
    let outcome ← callSony spSony .updateStatus
    return outcome.2
  else
    pure spSony

/-- What `OpenByIndex` does once the device has been created: the connected object, known by
its state, or null.  A transport is known by the device identifier it is built on. -/
def connectSony (bCOMInitHere : Bool) (sWiaId : StdString) (stOpenParams : TSonyPTP3OpenParams) :
    Enumerating π sizeT (Option (SonyPTP3Impl StdString)) := do
  let (ok, spSony) ← callSony Impl.construct (.setPtpTransport (some sWiaId))
  if !ok then
    uninitialiseCom bCOMInitHere
    let _ ← callSony spSony .destroy
    return none
  let (ok, spSony) ← callSony spSony .connect
  if !ok then
    uninitialiseCom bCOMInitHere
    let _ ← callSony spSony .destroy
    return none
  let spSony ← autoUpdateStatus spSony stOpenParams
  uninitialiseCom bCOMInitHere
  return some spSony

/-- What `OpenByIndex` does with the device identifier it has found. -/
def openDevice (sWiaId : StdString) (stOpenParams : TSonyPTP3OpenParams) :
    Enumerating π sizeT (Option (SonyPTP3Impl StdString)) := do
  match ← initialiseCom with
  | none => return none
  | some bCOMInitHere =>
      let created ← perform .coCreateInstance
      match created.obtained with
      | none =>
          safeRelease created.object
          uninitialiseCom bCOMInitHere
          return none
      | some pWiaMgr =>
          match ← utf8ToBstr sWiaId with
          | none =>
              safeRelease (some pWiaMgr)
              uninitialiseCom bCOMInitHere
              return none
          | some bstrId =>
              let device ← perform (.createDevice pWiaMgr bstrId)
              match device.obtained with
              | none =>
                  safeRelease device.object
                  safeRelease (some pWiaMgr)
                  uninitialiseCom bCOMInitHere
                  return none
              | some pWiaItem =>
                  let _ ← perform (.makeTransport sWiaId)
                  safeRelease (some pWiaItem)
                  safeRelease (some pWiaMgr)
                  connectSony bCOMInitHere sWiaId stOpenParams

def openByIndex (self : SonyPTP3DevEnum) (nDeviceIndex : Int32)
    (stOpenParams : TSonyPTP3OpenParams) : Enumerating π sizeT (Option (SonyPTP3Impl StdString)) :=
  if valid : nDeviceIndex < 0 ∨ nDeviceIndex ≥ self.size then
    pure none
  else
    let sWiaId := wiaIdOf (self.vecDeviceInfo.get ⟨nDeviceIndex.toNatClampNeg,
      SonyPTP3DevEnum.index_lt valid⟩)
    if sWiaId = [] then pure none else openDevice sWiaId stOpenParams

end OpenByIndex

end SimpleCamCtrl.DevEnum
