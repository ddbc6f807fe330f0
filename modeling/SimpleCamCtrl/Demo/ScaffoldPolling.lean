import SimpleCamCtrl.DevEnum.Enumerator

/-!
# The polling demo

`scaffold_polling_demo.cpp`: it takes the first WIA device, connects to it, and then without a
pause reads the status of the camera and writes back the exposure parameters it has read.  No
other thread uses the object, so that its public functions always get the API lock.
-/

namespace SimpleCamCtrl.Demo

open Interaction
open DevEnum (StdString WideString PropVariant StringConversion)
open Impl (SonyPTP3Impl)

/-- Where a string lies: in a variant of the array, or in an allocation of its own. -/
inductive BstrPlace (π : Type) where
  | variant (index : Nat)
  | allocated (bstr : π)
  deriving DecidableEq

/-- The calls whose results the program looks at, or that acquire, use or release something, and
the accesses to the variants. -/
inductive DemoCall (π : Type) where
  | coInitializeEx
  /-- `CoUninitialize`. -/
  | coUninit
  | coCreateInstance
  | enumDeviceInfo (pWiaDevMgr : π)
  | next (pEnum : π)
  | propVariantInit (index : Nat)
  | readMultiple (pProp : π) (count : Nat)
  /-- `vt` and `bstrVal` of a variant are looked at. -/
  | readVariant (index : Nat)
  | propVariantClear (index : Nat)
  /-- `SysAllocString` of the string in a variant. -/
  | sysAllocString (index : Nat)
  | wideCharToMultiByte (bstr : BstrPlace π)
  | sysFreeString (bstr : π)
  | release (pUnknown : π)
  /-- A `WiaTransport` is constructed. -/
  | makeTransport (sWiaDeviceId : StdString)
  /-- `g_bRunning.load()`. -/
  | loadRunning
  /-- `std::chrono::steady_clock::now()`. -/
  | steadyClockNow
  | escape (request : Impl.Request StdString)
  deriving DecidableEq

/-- What a call returns: its status, the pointer it stores or yields, the number of devices
fetched, the two values read, the flag, the nanoseconds of the clock, and the result of an
`Escape`.  Each call has some of these. -/
structure DemoReply (π : Type) (sizeT : SizeT) where
  hr : Int32 := Wia.sOk
  pointer : Option π := none
  fetched : UInt32 := 0
  deviceId : PropVariant := .other
  deviceName : PropVariant := .other
  running : Bool := true
  now : Int := 0
  escaped : EscapeResult sizeT := ⟨0, 0, .empty⟩
  deriving DecidableEq

variable {π : Type} {sizeT : SizeT}

instance : Inhabited (DemoReply π sizeT) := ⟨{}⟩

/-- The pointer, unless `FAILED(hr) || !pointer`. -/
def DemoReply.obtained (reply : DemoReply π sizeT) : Option π :=
  if reply.hr < 0 then none else reply.pointer

/-- Programs of the demo. -/
abbrev Demoing (π : Type) (sizeT : SizeT) := Interaction (DemoCall π) (DemoReply π sizeT)

def safeRelease : Option π → Demoing π sizeT Unit
  | none => pure ()
  | some pUnknown => do
      let _ ← perform (.release pUnknown)
      return ()

/-- The loop of `PropVariantInit` over the first variants. -/
def initVariants : Nat → Demoing π sizeT Unit
  | 0 => pure ()
  | count + 1 => do
      initVariants count
      let _ ← perform (.propVariantInit count)
      return ()

/-- The loop of `PropVariantClear`. -/
def clearVariants : Nat → Demoing π sizeT Unit
  | 0 => pure ()
  | count + 1 => do
      clearVariants count
      let _ ← perform (.propVariantClear count)
      return ()

/-- The releases with which every exit ends. -/
def releaseAll (pProp pEnum pWiaDevMgr : Option π) : Demoing π sizeT Unit := do
  safeRelease pProp
  safeRelease pEnum
  safeRelease pWiaDevMgr

/-- The copy of the device identifier: its text and what the allocation yields. -/
def copyDeviceId (propVal : PropVariant) : Demoing π sizeT (Option (WideString × π)) := do
  let _ ← perform (.readVariant 0)
  match propVal with
  | .bstr (some bstrVal) =>
      let allocated ← perform (.sysAllocString 0)
      return allocated.pointer.map fun bstrDevId => (bstrVal, bstrDevId)
  | .bstr none | .other => return none

section BstrToUtf8

variable [StringConversion]

/-- `BstrToUtf8` of a string that lies there: its length is asked for first. -/
def bstrToUtf8 (place : BstrPlace π) (bstr : WideString) : Demoing π sizeT StdString := do
  let _ ← perform (.wideCharToMultiByte place)
  match StringConversion.wideCharToMultiByte (bstr.takeWhile (· ≠ 0)) with
  | none => return []
  | some strUtf8 =>
      let _ ← perform (.wideCharToMultiByte place)
      return strUtf8

/-- The line that names the device. -/
def printDeviceName (propVal : PropVariant) : Demoing π sizeT Unit := do
  let _ ← perform (.readVariant 1)
  match propVal with
  | .bstr (some bstrVal) =>
      let _ ← bstrToUtf8 (.variant 1) bstrVal
      return ()
  | .bstr none | .other => return ()

/-- `GetFirstWiaDeviceId`: `outDeviceId`, or `none` when it returns false. -/
def getFirstWiaDeviceId : Demoing π sizeT (Option StdString) := do
  let created ← perform .coCreateInstance
  match created.obtained with
  | none =>
      safeRelease created.pointer
      return none
  | some pWiaDevMgr =>
      let enumerated ← perform (.enumDeviceInfo pWiaDevMgr)
      match enumerated.obtained with
      | none =>
          releaseAll none enumerated.pointer (some pWiaDevMgr)
          return none
      | some pEnum =>
          let found ← perform (.next pEnum)
          match if found.fetched = 0 then none else found.obtained with
          | none =>
              releaseAll found.pointer (some pEnum) (some pWiaDevMgr)
              return none
          | some pProp =>
              initVariants 2
              let read ← perform (.readMultiple pProp 2)
              if read.hr < 0 then
                clearVariants 2
                releaseAll (some pProp) (some pEnum) (some pWiaDevMgr)
                return none
              let copied ← copyDeviceId read.deviceId
              printDeviceName read.deviceName
              clearVariants 2
              match copied with
              | none =>
                  releaseAll (some pProp) (some pEnum) (some pWiaDevMgr)
                  return none
              | some (wide, bstrDevId) =>
                  let outDeviceId ← bstrToUtf8 (.allocated bstrDevId) wide
                  let _ ← perform (.sysFreeString bstrDevId)
                  releaseAll (some pProp) (some pEnum) (some pWiaDevMgr)
                  return some outDeviceId

end BstrToUtf8

/-- `ApiStat` without its name. -/
structure ApiStat where
  totalCalls : UInt64 := 0
  successCalls : UInt64 := 0
  failCalls : UInt64 := 0
  totalUs : UInt64 := 0
  minUs : UInt64 := 0xFFFFFFFFFFFFFFFF
  maxUs : UInt64 := 0
  deriving DecidableEq

/-- `Add`. -/
def ApiStat.add (stat : ApiStat) (bOk : Bool) (durationUs : UInt64) : ApiStat where
  totalCalls := stat.totalCalls + 1
  successCalls := if bOk then stat.successCalls + 1 else stat.successCalls
  failCalls := if bOk then stat.failCalls else stat.failCalls + 1
  totalUs := stat.totalUs + durationUs
  minUs := if durationUs < stat.minUs then durationUs else stat.minUs
  maxUs := if durationUs > stat.maxUs then durationUs else stat.maxUs

/-- `duration_cast<microseconds>(end - begin).count()`, as it is stored. -/
def microseconds (tpBegin tpEnd : Int) : UInt64 := UInt64.ofInt ((tpEnd - tpBegin).tdiv 1000)

/-- `MeasureBoolCall`, with what else the callable leaves. -/
def measureBoolCall {α : Type} (fn : Demoing π sizeT (Bool × α)) :
    Demoing π sizeT ((Bool × UInt64) × α) := do
  let tpBegin ← perform .steadyClockNow
  let (bResult, value) ← fn
  let tpEnd ← perform .steadyClockNow
  return ((bResult, microseconds tpBegin.now tpEnd.now), value)

/-- The local variables of the loop in `main`, with the camera object. -/
structure PollLocals where
  camCtrl : SonyPTP3Impl StdString
  stLastParams : ExposureParams
  bHaveLastParams : Bool := false
  nLoopCount : UInt64 := 0
  statUpdateStatus : ApiStat := {}
  statGetExposure : ApiStat := {}
  statGetMode : ApiStat := {}
  statSetExposure : ApiStat := {}

variable [Commons]

/-- A public function of the camera object. -/
def callCamCtrl (camCtrl : SonyPTP3Impl StdString) (op : Impl.Op StdString) :
    Demoing π sizeT (Bool × SonyPTP3Impl StdString) :=
  (Impl.perform camCtrl op).embed .escape DemoReply.escaped

/-- What `GetExposureParams` returns and writes to `stCurrentParams`. -/
def currentParams (camCtrl : SonyPTP3Impl StdString) : Bool × ExposureParams :=
  match Impl.getExposureParams camCtrl with
  | some stCurrentParams => (true, stCurrentParams)
  | none => (false, Commons.defaultExposureParams)

/-- The body of the loop.  The exposure mode that `GetExposureMode` returns is not used. -/
def pollOnce (locals : PollLocals) : Demoing π sizeT PollLocals := do
  let (resultUpdate, camCtrl) ← measureBoolCall (callCamCtrl locals.camCtrl .updateStatus)
  let (resultGetExposure, stCurrentParams) ← measureBoolCall (pure (currentParams camCtrl))
  let stLastParams := if resultGetExposure.1 then stCurrentParams else locals.stLastParams
  let bHaveLastParams := resultGetExposure.1 || locals.bHaveLastParams
  let tpModeBegin ← perform .steadyClockNow
  let tpModeEnd ← perform .steadyClockNow
  let stSetParams := if bHaveLastParams then stLastParams else stCurrentParams
  let (resultSetExposure, camCtrl) ←
    measureBoolCall (callCamCtrl camCtrl (.setExposureParams stSetParams))
  return {
    camCtrl := camCtrl
    stLastParams := stLastParams
    bHaveLastParams := bHaveLastParams
    nLoopCount := locals.nLoopCount + 1
    statUpdateStatus := locals.statUpdateStatus.add resultUpdate.1 resultUpdate.2
    statGetExposure := locals.statGetExposure.add resultGetExposure.1 resultGetExposure.2
    statGetMode := locals.statGetMode.add true (microseconds tpModeBegin.now tpModeEnd.now)
    statSetExposure := locals.statSetExposure.add resultSetExposure.1 resultSetExposure.2 }

/-- The loop, or `none` when it still runs after so many iterations. -/
def pollingLoop (nMaxIterations : UInt64) :
    (fuel : Nat) → PollLocals → Demoing π sizeT (Bool × PollLocals)
  | 0, locals => pure (false, locals)
  | fuel + 1, locals => do
      let flag ← perform .loadRunning
      if !flag.running then return (true, locals)
      if nMaxIterations > 0 ∧ locals.nLoopCount ≥ nMaxIterations then return (true, locals)
      let locals ← pollOnce locals
      pollingLoop nMaxIterations fuel locals

/-- The exits of `main` behind the construction of the camera object: its destructor runs when
`main` returns. -/
def leaveMain (camCtrl : SonyPTP3Impl StdString) (exitCode : Int32) :
    Demoing π sizeT (Option Int32) := do
  let _ ← perform .coUninit
  let _ ← callCamCtrl camCtrl .destroy
  return some exitCode

/-- What `main` does once it knows the device.  A transport is known by the device identifier
it is built on. -/
def pollDevice (nMaxIterations : UInt64) (fuel : Nat) (sWiaDeviceId : StdString) :
    Demoing π sizeT (Option Int32) := do
  let _ ← perform (.makeTransport sWiaDeviceId)
  let (ok, camCtrl) ← callCamCtrl Impl.construct (.setPtpTransport (some sWiaDeviceId))
  if !ok then leaveMain camCtrl 1
  else
    let (ok, camCtrl) ← callCamCtrl camCtrl .connect
    if !ok then leaveMain camCtrl 1
    else
      let (ended, locals) ← pollingLoop nMaxIterations fuel
        { camCtrl := camCtrl, stLastParams := Commons.defaultExposureParams }
      if !ended then return none
      else
        let (_, camCtrl) ← callCamCtrl locals.camCtrl .disconnect
        leaveMain camCtrl 0

/-- `main` with the number of iterations that its argument stands for: its exit code, or `none`
when the loop still runs. -/
def main [StringConversion] (nMaxIterations : UInt64) (fuel : Nat) :
    Demoing π sizeT (Option Int32) := do
  let initialised ← perform .coInitializeEx
  if initialised.hr < 0 then return some 1
  match ← getFirstWiaDeviceId with
  | none =>
      let _ ← perform .coUninit
      return some 1
  | some sWiaDeviceId => pollDevice nMaxIterations fuel sWiaDeviceId

end SimpleCamCtrl.Demo
