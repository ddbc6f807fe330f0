import Mathlib.Data.Nat.Digits.Defs
import Mathlib.Tactic.Ring

/-!
# Little-endian byte strings

The value of a byte string with its least significant byte first, and the string
of a fixed width that denotes a number.  The two maps are inverse to each other
up to the truncation that the width imposes.
-/

namespace LittleEndian

/-- The number denoted by a byte string, least significant byte first. -/
def toNat (bytes : List UInt8) : Nat :=
  Nat.ofDigits 256 (bytes.map UInt8.toNat)

/-- The `width` low bytes of a number, least significant byte first. -/
def ofNat : (width value : Nat) → List UInt8
  | 0, _ => []
  | width + 1, value => UInt8.ofNat value :: ofNat width (value / 256)

/-- The number denoted by a byte string in two's complement. -/
def toInt (bytes : List UInt8) : ℤ :=
  (toNat bytes : ℤ).bmod (256 ^ bytes.length)

@[simp] theorem toNat_nil : toNat [] = 0 := rfl

@[simp] theorem toNat_cons (byte : UInt8) (rest : List UInt8) :
    toNat (byte :: rest) = byte.toNat + 256 * toNat rest := by
  simp [toNat, Nat.ofDigits_cons]

@[simp] theorem length_ofNat (width value : Nat) :
    (ofNat width value).length = width := by
  induction width generalizing value with
  | zero => rfl
  | succ width ih => simp [ofNat, ih]

/-- A string of `n` bytes denotes a number below `256 ^ n`. -/
theorem toNat_lt (bytes : List UInt8) : toNat bytes < 256 ^ bytes.length := by
  induction bytes with
  | nil => simp
  | cons byte rest ih =>
      have byteLt : byte.toNat < 256 := byte.toNat_lt
      simp only [toNat_cons, List.length_cons, Nat.pow_succ]
      omega

/-- Writing and reading back keeps exactly the bits that fit the width. -/
@[simp] theorem toNat_ofNat (width value : Nat) :
    toNat (ofNat width value) = value % 256 ^ width := by
  induction width generalizing value with
  | zero => simp [ofNat, Nat.mod_one]
  | succ width ih =>
      have low : (UInt8.ofNat value).toNat = value % 256 := by simp
      rw [ofNat, toNat_cons, ih, low, Nat.pow_succ, Nat.mul_comm (256 ^ width) 256,
        Nat.mod_mul]

/-- No bit is lost when the value fits the width. -/
theorem toNat_ofNat_of_lt {width value : Nat} (fits : value < 256 ^ width) :
    toNat (ofNat width value) = value := by
  rw [toNat_ofNat, Nat.mod_eq_of_lt fits]

/-- A byte string is what its value is written as. -/
theorem ofNat_toNat (bytes : List UInt8) : ofNat bytes.length (toNat bytes) = bytes := by
  induction bytes with
  | nil => rfl
  | cons byte rest ih =>
      have byteLt : byte.toNat < 256 := byte.toNat_lt
      have low : UInt8.ofNat (byte.toNat + 256 * toNat rest) = byte := by
        apply UInt8.toNat.inj
        rw [UInt8.toNat_ofNat']
        omega
      have high : (byte.toNat + 256 * toNat rest) / 256 = toNat rest := by omega
      rw [List.length_cons, toNat_cons, ofNat, low, high, ih]

/-- A number whose low bytes denote the same number as a byte string is written as that string. -/
theorem ofNat_eq_of_mod_eq {value : Nat} {bytes : List UInt8}
    (same : value % 256 ^ bytes.length = toNat bytes) : ofNat bytes.length value = bytes := by
  rw [← ofNat_toNat (ofNat bytes.length value), length_ofNat, toNat_ofNat, same, ofNat_toNat]

end LittleEndian
