import SimpleCamCtrl.Commons
import SimpleCamCtrl.Library.Interaction
import SimpleCamCtrl.Library.LittleEndian

/-!
# PTP commands and replies

The operation, response and property codes of `SonyPTP3_aux.h`, and the traffic between
`SonyPTP3_Impl` and its transports.  A program of the implementation is an interaction
whose calls are `IPTPTransport::Escape` calls; what a transport answers is not
constrained.
-/

namespace SimpleCamCtrl.Impl

abbrev ptpOcCloseSession : UInt16 := 0x1003
abbrev ptpOcSDIOConnect : UInt16 := 0x9201
abbrev ptpOcSDIOGetExtDeviceInfo : UInt16 := 0x9202
abbrev ptpOcSDIOOpenSession : UInt16 := 0x9203
abbrev ptpOcSDIOSetExtDevicePropValue : UInt16 := 0x9205
abbrev ptpOcSDIOControlDevice : UInt16 := 0x9207
abbrev ptpOcSDIOGetAllExtDeviceInfo : UInt16 := 0x9209

abbrev sdiExtensionVersion : UInt32 := 0x12C

abbrev ptpRcOk : UInt16 := 0x2001
abbrev ptpRcSessionNotOpen : UInt16 := 0x2003
abbrev ptpRcDeviceBusy : UInt16 := 0x2019
abbrev ptpRcSessionAlreadyOpen : UInt16 := 0x201E
abbrev ptpRcAuthenticationFailed : UInt16 := 0xA101

abbrev dpcMovieRec : UInt32 := 0xD2C8
abbrev dpcS1Button : UInt32 := 0xD2C1
abbrev dpcS2Button : UInt32 := 0xD2C2
abbrev dpcShutterSpeed : UInt32 := 0xD20D
abbrev dpcFNumber : UInt32 := 0x5007
abbrev dpcIso : UInt32 := 0xD21E
abbrev dpcExposureCompensation : UInt32 := 0x5010
abbrev dpcExposureMode : UInt32 := 0x500E

abbrev kButtonDown : UInt32 := 0x0002
abbrev kButtonUp : UInt32 := 0x0001

/-- An `Escape` call: the transport it is made on and its arguments.  A null
`pWriteData` is the empty list. -/
structure Request (τ : Type) where
  transport : τ
  opcode : UInt16
  params : List UInt32
  writeData : List UInt8
  deriving DecidableEq

/-- An `Escape` call with the result the transport returned. -/
abbrev Exchange (τ : Type) (sizeT : SizeT) := Request τ × EscapeResult sizeT

/-- Programs whose calls are `Escape` calls. -/
abbrev Escaping (τ : Type) (sizeT : SizeT) := Interaction (Request τ) (EscapeResult sizeT)

variable {τ : Type} {sizeT : SizeT} [Commons]

/-- `transport_->Escape(opcode, params, pWriteData, writeSize)`. -/
def escape (transport : τ) (opcode : UInt16) (params : List UInt32)
    (writeData : List UInt8) : Escaping τ sizeT (EscapeResult sizeT) :=
  Interaction.perform ⟨transport, opcode, params, writeData⟩

/-- The transport succeeded and the device answered OK. -/
def Accepted (result : EscapeResult sizeT) : Prop :=
  Commons.hrFailed result.hr = false ∧ result.responseCode = ptpRcOk

instance (result : EscapeResult sizeT) : Decidable (Accepted result) :=
  inferInstanceAs (Decidable (_ ∧ _))

end SimpleCamCtrl.Impl
