import SimpleCamCtrl.Impl.Operations
import SimpleCamCtrl.Library.Session

/-!
# Commands

The commands that the operations send, and what each exchange with a transport means
for the session on it.
-/

namespace SimpleCamCtrl.Impl

variable {τ : Type}

/-- The buttons that an operation can press. -/
inductive Button where
  | s1
  | s2
  | movieRec
  deriving DecidableEq, Repr

def Button.code : Button → UInt32
  | s1 => dpcS1Button
  | s2 => dpcS2Button
  | movieRec => dpcMovieRec

/-- The control value of a press or a release. -/
def buttonValue (pressed : Bool) : UInt32 :=
  if pressed then kButtonDown else kButtonUp

def controlRequest (transport : τ) (button : Button) (pressed : Bool) : Request τ :=
  ⟨transport, ptpOcSDIOControlDevice, [button.code],
    LittleEndian.ofNat 4 (buttonValue pressed).toNat⟩

def openRequest (transport : τ) : Request τ := ⟨transport, ptpOcSDIOOpenSession, [1], []⟩

def closeRequest (transport : τ) : Request τ := ⟨transport, ptpOcCloseSession, [], []⟩

def statusRequest (transport : τ) : Request τ := ⟨transport, ptpOcSDIOGetAllExtDeviceInfo, [], []⟩

def writeRequest (transport : τ) (propertyCode : UInt32) (bytes : List UInt8) : Request τ :=
  ⟨transport, ptpOcSDIOSetExtDevicePropValue, [propertyCode], bytes⟩

/-- The four writes of `SetExposureParams`, in order. -/
def exposureWrites [Llround] (transport : τ) (params : ExposureParams) : List (Request τ) :=
  [writeRequest transport dpcShutterSpeed
      (LittleEndian.ofNat 4 (Exposure.encodeShutterSpeedRaw params.shutterSpeed).toNat),
    writeRequest transport dpcFNumber
      (LittleEndian.ofNat 2 (Exposure.encodeFNumberRaw params.fNumber).toNat),
    writeRequest transport dpcIso (LittleEndian.ofNat 4 params.iso.toNat),
    writeRequest transport dpcExposureCompensation
      (LittleEndian.ofNat 4 (signExtend params.exposureComp).toNat)]

theorem statusRequest_ne_control (transport : τ) :
    (statusRequest transport).opcode ≠ ptpOcSDIOControlDevice := by
  change ptpOcSDIOGetAllExtDeviceInfo ≠ ptpOcSDIOControlDevice
  decide

theorem writeRequest_ne_control (transport : τ) (propertyCode : UInt32) (bytes : List UInt8) :
    (writeRequest transport propertyCode bytes).opcode ≠ ptpOcSDIOControlDevice := by
  change ptpOcSDIOSetExtDevicePropValue ≠ ptpOcSDIOControlDevice
  decide

variable {sizeT : SizeT} [Commons]

theorem accepted_iff (reply : EscapeResult sizeT) :
    (!Commons.hrFailed reply.hr && reply.responseCode == ptpRcOk) = true ↔ Accepted reply := by
  simp [Accepted]

theorem answered_eq (reply : EscapeResult sizeT) :
    (!Commons.hrFailed reply.hr && reply.responseCode == ptpRcOk) = decide (Accepted reply) := by
  rw [Bool.eq_iff_iff, accepted_iff, decide_eq_true_iff]

theorem succeeded_eq (reply : EscapeResult sizeT) :
    (Commons.hrSucceeded reply.hr && reply.responseCode == ptpRcOk) = decide (Accepted reply) := by
  rw [Commons.hrSucceeded_eq, answered_eq]

/-- What an exchange means for the session on its transport. -/
def sessionAction (exchange : Exchange τ sizeT) : Session.Action τ :=
  if exchange.1.opcode = ptpOcSDIOOpenSession ∧ Accepted exchange.2 then
    .opened exchange.1.transport
  else if exchange.1.opcode = ptpOcCloseSession then
    .closed exchange.1.transport
  else if exchange.1.opcode = ptpOcSDIOControlDevice ∨
      exchange.1.opcode = ptpOcSDIOSetExtDevicePropValue ∨
      exchange.1.opcode = ptpOcSDIOGetAllExtDeviceInfo then
    .used exchange.1.transport
  else
    .neutral

@[simp] theorem sessionAction_control (transport : τ) (button : Button) (pressed : Bool)
    (reply : EscapeResult sizeT) :
    sessionAction (controlRequest transport button pressed, reply) = .used transport := rfl

@[simp] theorem sessionAction_close (transport : τ) (reply : EscapeResult sizeT) :
    sessionAction (closeRequest transport, reply) = .closed transport := rfl

@[simp] theorem sessionAction_status (transport : τ) (reply : EscapeResult sizeT) :
    sessionAction (statusRequest transport, reply) = .used transport := rfl

@[simp] theorem sessionAction_write (transport : τ) (propertyCode : UInt32)
    (bytes : List UInt8) (reply : EscapeResult sizeT) :
    sessionAction (writeRequest transport propertyCode bytes, reply) = .used transport := rfl

theorem sessionAction_open {transport : τ} {reply : EscapeResult sizeT}
    (accepted : Accepted reply) :
    sessionAction (openRequest transport, reply) = .opened transport :=
  if_pos ⟨rfl, accepted⟩

theorem sessionAction_open_refused {transport : τ} {reply : EscapeResult sizeT}
    (refused : ¬Accepted reply) :
    sessionAction (openRequest transport, reply) = .neutral := by
  rw [sessionAction, if_neg fun both => refused both.2]
  rfl

end SimpleCamCtrl.Impl
