import SimpleCamCtrl.Commons
import SimpleCamCtrl.Library.Interaction
import SimpleCamCtrl.Library.LittleEndian

/-!
# One task of the WIA worker

What `WiaTransport::WorkerMain` does with a task it has taken from the queue: the
program between `pop_front` and `promise.set_value`, with the calls it makes to COM, the
allocator and the device.  What these calls return is not constrained.
-/

namespace SimpleCamCtrl.Wia

open Interaction

variable {sizeT : SizeT}

abbrev sOk : Int32 := 0
abbrev sFalse : Int32 := 1
abbrev eFail : Int32 := (0x80004005 : UInt32).toInt32
abbrev eOutOfMemory : Int32 := (0x8007000E : UInt32).toInt32
abbrev eInvalidArg : Int32 := (0x80070057 : UInt32).toInt32

/-- `HRESULT_FROM_WIN32(WAIT_TIMEOUT)`. -/
abbrev hrWaitTimeout : Int32 := (0x80070102 : UInt32).toInt32

/-- A result that carries nothing but its status. -/
def statusResult (hr : Int32) : EscapeResult sizeT := ⟨hr, 0, .empty⟩

/-- `stTimeout`. -/
def timeoutResult : EscapeResult sizeT := statusResult hrWaitTimeout

/-- `BuildTooManyParamsError`. -/
def buildTooManyParamsError : EscapeResult sizeT := statusResult eInvalidArg

/-- The arguments of an `Escape` call, which its task carries.  A null `writeData` is the
empty vector. -/
structure EscapeArguments (sizeT : SizeT) where
  opcode : UInt16
  params : List UInt32
  writeData : ByteVector sizeT
  deriving DecidableEq

variable [Commons]

/-- `SIZEOF_REQUIRED_VENDOR_DATA_IN`: the packed request structure without its last byte. -/
def sizeofRequiredVendorDataIn : UInt32 := UInt32.ofNat (18 + 4 * Commons.ptpMaxParams)

/-- `SIZEOF_REQUIRED_VENDOR_DATA_OUT`: the packed reply structure without its last byte. -/
def sizeofRequiredVendorDataOut : UInt32 := UInt32.ofNat (10 + 4 * Commons.ptpMaxParams)

/-- `dwInSize`. -/
def dwInSize (task : EscapeArguments sizeT) : UInt32 :=
  sizeofRequiredVendorDataIn + UInt32.ofNat task.writeData.size

/-- `dwOutSize`. -/
def dwOutSize : UInt32 := sizeofRequiredVendorDataOut + 0x8000

/-- `dwParamCount`. -/
def dwParamCount (task : EscapeArguments sizeT) : Nat :=
  min task.params.length Commons.ptpMaxParams

/-- What is written from `pIn` on: OpCode, SessionId, TransactionId, Params, NumParams,
NextPhase and VendorWriteData, byte-packed. -/
def vendorDataIn (task : EscapeArguments sizeT) : List UInt8 :=
  LittleEndian.ofNat 2 task.opcode.toNat ++ LittleEndian.ofNat 4 0 ++ LittleEndian.ofNat 4 0 ++
    ((List.range Commons.ptpMaxParams).flatMap fun i =>
      LittleEndian.ofNat 4 ((task.params.take (dwParamCount task)).getD i 0).toNat) ++
    LittleEndian.ofNat 4 (dwParamCount task) ++
    LittleEndian.ofNat 4 (if task.writeData.bytes.isEmpty then Commons.nextPhaseReadData
      else Commons.nextPhaseWriteData).toNat ++
    task.writeData.bytes

/-- The calls whose results the worker looks at. -/
inductive SystemCall where
  | coTaskMemAlloc (size : UInt32)
  | sysAllocStringLen (length : Nat)
  | coCreateInstance
  | createDevice (deviceId : String)
  | queryInterface
  | escape (inData : List UInt8) (inDataSize outDataSize : UInt32)
  deriving DecidableEq

/-- What a call returns: its status, whether the pointer it yields is not null, and for
the device's `Escape` the actual size it reports and what lies in memory from `pOut` on. -/
structure SystemReply where
  hr : Int32 := sOk
  notNull : Bool := true
  actualDataSize : UInt32 := 0
  memory : List UInt8 := []
  deriving DecidableEq

instance : Inhabited SystemReply := ⟨{}⟩

/-- `SUCCEEDED(hr) && pointer != nullptr`. -/
def SystemReply.succeeded (reply : SystemReply) : Bool :=
  decide (0 ≤ reply.hr) && reply.notNull

/-- Programs whose calls are calls to the system. -/
abbrev Worker := Interaction SystemCall SystemReply

/-- Opening the device and calling its `Escape`: `hrLocal`, `dwActualLocal` and what lies
in memory from `pOut` on. -/
def escapeOnDevice (deviceId : String) (task : EscapeArguments sizeT) :
    Worker (Int32 × UInt32 × List UInt8) := do
  let bstrId ← perform (.sysAllocStringLen deviceId.utf8ByteSize)
  if !bstrId.notNull then return (eFail, 0, [])
  let wiaMgr ← perform .coCreateInstance
  if !wiaMgr.succeeded then return (eFail, 0, [])
  let wiaItem ← perform (.createDevice deviceId)
  if !wiaItem.succeeded then return (eFail, 0, [])
  let itemExtra ← perform .queryInterface
  if !itemExtra.succeeded then return (eFail, 0, [])
  let reply ← perform (.escape (vendorDataIn task) (dwInSize task) dwOutSize)
  return (reply.hr, reply.actualDataSize, reply.memory)

/-- The bytes copied from `pOut->VendorReadData`. -/
def readPayload (dwActualLocal : UInt32) (memory : List UInt8) : ByteVector sizeT :=
  let dataOffset := sizeofRequiredVendorDataOut
  let payloadSize := if dwActualLocal > dataOffset then dwActualLocal - dataOffset else 0
  ⟨(List.range payloadSize.toNat).map fun i => memory.getD (dataOffset.toNat + i) 0, by
    rw [List.length_map, List.length_range]
    exact Nat.lt_of_lt_of_le payloadSize.toNat_lt sizeT.pow_32_le_modulus⟩

/-- The result taken from what the device left in memory. -/
def readResult (hrLocal : Int32) (dwActualLocal : UInt32) (memory : List UInt8) :
    EscapeResult sizeT :=
  if Commons.hrSucceeded hrLocal then
    ⟨hrLocal, UInt16.ofNat (LittleEndian.toNat [memory.getD 0 0, memory.getD 1 0]),
      readPayload dwActualLocal memory⟩
  else
    statusResult hrLocal

/-- The body of the worker's loop for one task: the result its promise is set to. -/
def executeTask (deviceId : String) (hrCom : Int32) (task : EscapeArguments sizeT) :
    Worker (EscapeResult sizeT) := do
  if !(hrCom == sOk || hrCom == sFalse) then return statusResult hrCom
  let pIn ← perform (.coTaskMemAlloc (dwInSize task))
  if !pIn.notNull then return statusResult eOutOfMemory
  let pOut ← perform (.coTaskMemAlloc dwOutSize)
  if !pOut.notNull then return statusResult eOutOfMemory
  let (hrLocal, dwActualLocal, memory) ← escapeOnDevice deviceId task
  return readResult hrLocal dwActualLocal memory

/-- The data that a call passes to the device. -/
def SystemCall.toDevice : SystemCall → Option (List UInt8)
  | .escape inData _ _ => some inData
  | _ => none

/-- The data passed to the device by a sequence of calls. -/
def passedToDevice (calls : List (SystemCall × SystemReply)) : List (List UInt8) :=
  calls.filterMap fun call => call.1.toDevice

omit [Commons] in
theorem passedToDevice_append (left right : List (SystemCall × SystemReply)) :
    passedToDevice (left ++ right) = passedToDevice left ++ passedToDevice right :=
  List.filterMap_append

variable {deviceId : String} {task : EscapeArguments sizeT}
variable {calls : List (SystemCall × SystemReply)}

/-- The calls that pass data to the device. -/
def deviceCalls (calls : List (SystemCall × SystemReply)) : List (SystemCall × SystemReply) :=
  calls.filter fun call => call.1.toDevice.isSome

omit [Commons] in
theorem passedToDevice_deviceCalls (calls : List (SystemCall × SystemReply)) :
    passedToDevice (deviceCalls calls) = passedToDevice calls := by
  rw [passedToDevice, passedToDevice, deviceCalls, List.filterMap_filter]
  congr 1
  funext call
  cases call.1.toDevice <;> rfl

/-- The device is not called, or it is called once with the frame of the task, and its reply
decides the outcome. -/
def EscapesOnce {α : Type} (task : EscapeArguments sizeT) (outcomeOf : SystemReply → α)
    (calls : List (SystemCall × SystemReply)) (outcome : α) : Prop :=
  deviceCalls calls = [] ∨
    ∃ reply, deviceCalls calls = [(.escape (vendorDataIn task) (dwInSize task) dwOutSize, reply)] ∧
      outcome = outcomeOf reply

/-- Any call of the device is the one with the frame. -/
theorem EscapesOnce.of_mem {α : Type} {outcomeOf : SystemReply → α} {outcome : α}
    {inData : List UInt8} {inDataSize outDataSize : UInt32} {reply : SystemReply}
    (once : EscapesOnce task outcomeOf calls outcome)
    (escapes : (.escape inData inDataSize outDataSize, reply) ∈ calls) :
    inData = vendorDataIn task ∧ inDataSize = dwInSize task ∧ outcome = outcomeOf reply := by
  have membership : (.escape inData inDataSize outDataSize, reply) ∈ deviceCalls calls :=
    List.mem_filter.mpr ⟨escapes, rfl⟩
  rcases once with none | ⟨single, once, taken⟩
  · rw [none] at membership
    cases membership
  · rw [once] at membership
    cases List.mem_singleton.mp membership
    exact ⟨rfl, rfl, taken⟩

/-- A call that passes nothing to the device, and what follows it unless the task is
given up. -/
theorem escapesOnce_of_checked {α : Type} {outcomeOf : SystemReply → α} {request : SystemCall}
    {stop : SystemReply → Bool} {early : SystemReply → α} {rest : SystemReply → Worker α}
    {result : α} (silent : request.toDevice = none)
    (execution : Exec (perform request >>= fun reply =>
      if stop reply then pure (early reply) else rest reply) calls result)
    (onRest : ∀ reply later, Exec (rest reply) later result →
      EscapesOnce task outcomeOf later result) :
    EscapesOnce task outcomeOf calls result := by
  rw [exec_perform_bind] at execution
  rcases execution with ⟨reply, later, rfl, checked⟩
  have same : deviceCalls ((request, reply) :: later) = deviceCalls later :=
    List.filter_cons_of_neg (by simp [silent])
  rw [EscapesOnce, same]
  rcases checked.guard with rfl | goesOn
  · exact Or.inl rfl
  · exact onRest reply later goesOn

/-- Opening the device calls it with the frame of the task, or fails before. -/
theorem escapesOnce_of_escapeOnDevice {outcome : Int32 × UInt32 × List UInt8}
    (execution : Exec (escapeOnDevice deviceId task) calls outcome) :
    EscapesOnce task (fun reply => (reply.hr, reply.actualDataSize, reply.memory)) calls
      outcome := by
  refine escapesOnce_of_checked rfl execution ?_
  intro bstrId _ withId
  refine escapesOnce_of_checked rfl withId ?_
  intro wiaMgr _ withMgr
  refine escapesOnce_of_checked rfl withMgr ?_
  intro wiaItem _ withItem
  refine escapesOnce_of_checked rfl withItem ?_
  intro itemExtra _ withExtra
  rcases exec_bind_pure.mp withExtra with ⟨reply, escaped, taken⟩
  rw [exec_perform.mp escaped]
  exact Or.inr ⟨reply, rfl, taken.symm⟩

/-- A task calls the device at most once, with its own frame, and its result is what the
reply holds. -/
theorem escapesOnce_of_executeTask {hrCom : Int32} {result : EscapeResult sizeT}
    (execution : Exec (executeTask deviceId hrCom task) calls result) :
    EscapesOnce task (fun reply => readResult reply.hr reply.actualDataSize reply.memory) calls
      result := by
  rw [executeTask] at execution
  rcases execution.guard with rfl | withCom
  · exact Or.inl rfl
  refine escapesOnce_of_checked rfl withCom ?_
  intro pIn _ withIn
  refine escapesOnce_of_checked rfl withIn ?_
  intro pOut later withOut
  rcases exec_bind_pure.mp withOut with ⟨outcome, onDevice, taken⟩
  rcases escapesOnce_of_escapeOnDevice onDevice with none | ⟨reply, once, rfl⟩
  · exact Or.inl none
  · exact Or.inr ⟨reply, once, taken.symm⟩

/-- A task is passed to the device at most once, and then as its own frame. -/
theorem passedToDevice_of_executeTask {hrCom : Int32} {result : EscapeResult sizeT}
    (execution : Exec (executeTask deviceId hrCom task) calls result) :
    passedToDevice calls <+: [vendorDataIn task] := by
  rw [← passedToDevice_deviceCalls]
  rcases escapesOnce_of_executeTask execution with none | ⟨reply, once, _⟩
  · rw [none]
    exact List.nil_prefix
  · rw [once]
    exact List.prefix_rfl

end SimpleCamCtrl.Wia
