import Mathlib.Algebra.Group.Int.Defs
import Mathlib.Algebra.Group.Nat.Defs
import Mathlib.Data.Rat.Defs

/-!
# Interface types

The types that the modelled code shares with its callers and with the transport.
The headers of the `RSCtrlApp-Commons` submodule are not part of the repository;
what the code uses of them is the class `Commons`, and what it relies on where the C++ standard
leaves a result open is the class `Llround`.  Byte buffers are vectors whose
length fits the target's `size_t`.
-/

namespace SimpleCamCtrl

/-- Width of `size_t` on the target. -/
inductive SizeT where
  | bits32
  | bits64
  deriving DecidableEq, Repr

namespace SizeT

def bits : SizeT → Nat
  | .bits32 => 32
  | .bits64 => 64

/-- Number of `size_t` values; arithmetic on `size_t` is modulo this number. -/
def modulus (sizeT : SizeT) : Nat := 2 ^ sizeT.bits

/-- `std::numeric_limits<size_t>::max()`. -/
def max (sizeT : SizeT) : Nat := sizeT.modulus - 1

theorem modulus_pos (sizeT : SizeT) : 0 < sizeT.modulus :=
  Nat.two_pow_pos sizeT.bits

/-- A 32-bit count converts to `size_t` without loss on either target. -/
theorem pow_32_le_modulus (sizeT : SizeT) : 2 ^ 32 ≤ sizeT.modulus := by
  cases sizeT <;> decide

end SizeT

/-- A `std::vector<std::uint8_t>`: its size is a `size_t`. -/
structure ByteVector (sizeT : SizeT) where
  bytes : List UInt8
  fits : bytes.length < sizeT.modulus
  deriving DecidableEq

namespace ByteVector

variable {sizeT : SizeT}

def size (vector : ByteVector sizeT) : Nat := vector.bytes.length

def empty : ByteVector sizeT := ⟨[], sizeT.modulus_pos⟩

instance : Inhabited (ByteVector sizeT) := ⟨empty⟩

@[ext] theorem ext {left right : ByteVector sizeT} (bytes : left.bytes = right.bytes) :
    left = right := by
  cases left
  cases right
  cases bytes
  rfl

end ByteVector

/-- `ISimpleCamCtrl::ExposureParams`, with exact rationals for `double`. -/
structure ExposureParams where
  shutterSpeed : Rat
  fNumber : Rat
  iso : UInt32
  exposureComp : Int32
  deriving DecidableEq

/-- `PTP_EscapeResult`: status of the transport, response code of the device and
the data it returned. -/
structure EscapeResult (sizeT : SizeT) where
  hr : Int32
  responseCode : UInt16
  payload : ByteVector sizeT
  deriving DecidableEq

/-- What `std::llround` returns for a value that rounds to no `long long`.  The standard does not
say; x86 gives the lowest `long long`, ARM the nearest one, and a library may give zero. -/
class Llround where
  outOfRange : Rat → Int
  outOfRange_cases : ∀ value, outOfRange value = -2 ^ 63 ∨ outOfRange value = 0 ∨
    outOfRange value = 2 ^ 63 - 1

/-- What the code takes from the `RSCtrlApp-Commons` headers, on its platform. -/
class Commons extends Llround where
  /-- The macro `PTP_HR_FAILED`. -/
  hrFailed : Int32 → Bool
  /-- The macro `PTP_HR_SUCCEEDED`. -/
  hrSucceeded : Int32 → Bool
  hrSucceeded_eq : ∀ hr, hrSucceeded hr = !hrFailed hr
  /-- `PTP_MAX_PARAMS`. -/
  ptpMaxParams : Nat
  /-- `PTP_NEXTPHASE_READ_DATA`. -/
  nextPhaseReadData : UInt32
  /-- `PTP_NEXTPHASE_WRITE_DATA`. -/
  nextPhaseWriteData : UInt32
  nextPhase_ne : nextPhaseReadData ≠ nextPhaseWriteData
  /-- A default-constructed `ExposureParams`. -/
  defaultExposureParams : ExposureParams

/-- The conventions of the Windows headers on x86, under which the model is evaluated:
an `HRESULT` is a failure when it is negative. -/
instance windowsCommons : Commons where
  outOfRange _ := -2 ^ 63
  outOfRange_cases _ := Or.inl rfl
  hrFailed hr := decide (hr < 0)
  hrSucceeded hr := decide (0 ≤ hr)
  hrSucceeded_eq hr := by
    by_cases negative : hr < 0
    · simp [negative, Int32.not_le.mpr negative]
    · simp [negative, Int32.not_lt.mp negative]
  ptpMaxParams := 5
  nextPhaseReadData := 3
  nextPhaseWriteData := 4
  nextPhase_ne := by decide
  defaultExposureParams := ⟨0, 0, 0, 0⟩

end SimpleCamCtrl
