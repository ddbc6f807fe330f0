import SimpleCamCtrl.DeviceProperties.Parser

/-!
# Device-property records

The records of the dataset that `ParseDeviceProperties` reads, with their encoding.
A value of `Record` is well formed by construction: its values have the width of its
data type, its lists fit their count fields, and only scalar types carry a form.
-/

namespace SimpleCamCtrl.DeviceProperties

/-- The integer types of scalar values and of array elements. -/
inductive IntegerType where
  | int8
  | uint8
  | int16
  | uint16
  | int32
  | uint32
  | int64
  | uint64
  deriving DecidableEq, Repr

namespace IntegerType

/-- Bytes of one value. -/
def size : IntegerType → Nat
  | int8 | uint8 => 1
  | int16 | uint16 => 2
  | int32 | uint32 => 4
  | int64 | uint64 => 8

/-- The `PTP_DT_*` code of a scalar property. -/
def scalarCode : IntegerType → UInt16
  | int8 => ptpDtInt8
  | uint8 => ptpDtUint8
  | int16 => ptpDtInt16
  | uint16 => ptpDtUint16
  | int32 => ptpDtInt32
  | uint32 => ptpDtUint32
  | int64 => ptpDtInt64
  | uint64 => ptpDtUint64

/-- The `PTP_DT_A*` code of an array property. -/
def arrayCode : IntegerType → UInt16
  | int8 => ptpDtAint8
  | uint8 => ptpDtAuint8
  | int16 => ptpDtAint16
  | uint16 => ptpDtAuint16
  | int32 => ptpDtAint32
  | uint32 => ptpDtAuint32
  | int64 => ptpDtAint64
  | uint64 => ptpDtAuint64

end IntegerType

/-- A value of exactly `width` bytes. -/
abbrev Bytes (width : Nat) := { bytes : List UInt8 // bytes.length = width }

/-- A list of values whose number fits a count field of `countBytes` bytes. -/
structure Counted (countBytes width : Nat) where
  items : List (Bytes width)
  fits : items.length < 256 ^ countBytes
  deriving DecidableEq

/-- The form of a scalar property whose values have `width` bytes. -/
inductive Form (width : Nat) where
  | none
  | range (minimum maximum step : Bytes width)
  | enumeration (formFlag : UInt8) (notNone : formFlag ≠ 0) (notRange : formFlag ≠ 1)
      (first second : Counted 2 width)

/-- Default value, current value and form, by data type. -/
inductive Body where
  | scalar (type : IntegerType) (defaultValue currentValue : Bytes type.size)
      (form : Form type.size)
  | string (defaultValue currentValue : Counted 1 2)
  | array (type : IntegerType) (defaultValue currentValue : Counted 4 type.size)

structure Record where
  propertyCode : UInt16
  firstFlag : UInt8
  secondFlag : UInt8
  body : Body

namespace Counted

variable {countBytes width : Nat}

/-- The count field. -/
def count (list : Counted countBytes width) : List UInt8 :=
  LittleEndian.ofNat countBytes list.items.length

/-- The values, one after the other. -/
def values (list : Counted countBytes width) : List UInt8 :=
  (list.items.map Subtype.val).flatten

@[simp] theorem length_count (list : Counted countBytes width) :
    list.count.length = countBytes :=
  LittleEndian.length_ofNat _ _

@[simp] theorem length_values (list : Counted countBytes width) :
    list.values.length = list.items.length * width := by
  rw [values]
  induction list.items with
  | nil => simp
  | cons item items ih =>
      rw [List.map_cons, List.flatten_cons, List.length_append, ih, item.property,
        List.length_cons, Nat.succ_mul, Nat.add_comm]

@[simp] theorem toNat_count (list : Counted countBytes width) :
    LittleEndian.toNat list.count = list.items.length :=
  LittleEndian.toNat_ofNat_of_lt list.fits

end Counted

namespace Form

variable {width : Nat}

def formFlag : Form width → UInt8
  | none => 0
  | range _ _ _ => 1
  | enumeration formFlag _ _ _ _ => formFlag

/-- What follows the form flag. -/
def tail : Form width → List UInt8
  | none => []
  | range minimum maximum step => minimum.val ++ maximum.val ++ step.val
  | enumeration _ _ _ first second =>
      first.count ++ first.values ++ (second.count ++ second.values)

def encode (form : Form width) : List UInt8 :=
  form.formFlag :: form.tail

end Form

namespace Body

def dataType : Body → UInt16
  | scalar type _ _ _ => type.scalarCode
  | string _ _ => ptpDtStr
  | array type _ _ => type.arrayCode

/-- The fields that the data type switch skips one by one. -/
def fields : Body → List (List UInt8)
  | scalar _ defaultValue currentValue _ => [defaultValue.val, currentValue.val]
  | string defaultValue currentValue =>
      [defaultValue.count, defaultValue.values, currentValue.count, currentValue.values]
  | array _ defaultValue currentValue =>
      [defaultValue.count, defaultValue.values, currentValue.count, currentValue.values]

/-- The widths of these fields. -/
def fieldWidths (body : Body) : List Nat :=
  body.fields.map List.length

/-- Width of one value of the form. -/
def formWidth : Body → Nat
  | scalar type _ _ _ => type.size
  | string _ _ | array _ _ _ => 0

/-- The form; strings and arrays have none. -/
def form : (body : Body) → Form body.formWidth
  | scalar _ _ _ form => form
  | string _ _ | array _ _ _ => .none

/-- The value recorded for the property: the unsigned current value of a scalar, zero
for a string, and the number of current elements of an array. -/
def recordedValue : Body → UInt64
  | scalar _ _ currentValue _ => UInt64.ofNat (LittleEndian.toNat currentValue.val)
  | string _ _ => 0
  | array _ _ currentValue => UInt64.ofNat currentValue.items.length

def encode (body : Body) : List UInt8 :=
  body.fields.flatten ++ body.form.encode

end Body

namespace Record

/-- Property code, data type and the two flag bytes. -/
def header (record : Record) : List UInt8 :=
  LittleEndian.ofNat 2 record.propertyCode.toNat ++
    (LittleEndian.ofNat 2 record.body.dataType.toNat ++ [record.firstFlag, record.secondFlag])

def encode (record : Record) : List UInt8 :=
  record.header ++ record.body.encode

@[simp] theorem length_header (record : Record) : record.header.length = 6 := by
  simp [header]

/-- A record is at least a header and a form flag. -/
theorem seven_le_length_encode (record : Record) : 7 ≤ record.encode.length := by
  simp only [encode, Body.encode, Form.encode, List.length_append, List.length_cons,
    length_header]
  omega

/-- A scalar property without a form. -/
def ofScalar (propertyCode : UInt16) (type : IntegerType) (value : Nat) : Record where
  propertyCode := propertyCode
  firstFlag := 1
  secondFlag := 1
  body := .scalar type ⟨LittleEndian.ofNat type.size 0, LittleEndian.length_ofNat _ _⟩
    ⟨LittleEndian.ofNat type.size value, LittleEndian.length_ofNat _ _⟩ .none

@[simp] theorem length_encode_ofScalar (propertyCode : UInt16) (type : IntegerType)
    (value : Nat) : (ofScalar propertyCode type value).encode.length = 7 + 2 * type.size := by
  simp [encode, ofScalar, Body.encode, Body.fields, Body.form, Form.encode, Form.tail]
  omega

end Record

/-- The records of a dataset, one after the other. -/
def encodeRecords (records : List Record) : List UInt8 :=
  (records.map Record.encode).flatten

/-- The entry of a record, which replaces an earlier one with the same code. -/
def insertRecord (out : PropertyMap) (record : Record) : PropertyMap :=
  out.insert record.propertyCode record.body.recordedValue

/-- The property map of a list of records, folded in order. -/
def recordedProperties (records : List Record) : PropertyMap :=
  records.foldl insertRecord ∅

@[simp] theorem encodeRecords_nil : encodeRecords [] = [] := rfl

@[simp] theorem encodeRecords_cons (record : Record) (records : List Record) :
    encodeRecords (record :: records) = record.encode ++ encodeRecords records := rfl

@[simp] theorem encodeRecords_append (left right : List Record) :
    encodeRecords (left ++ right) = encodeRecords left ++ encodeRecords right := by
  simp [encodeRecords]

/-- Records take seven bytes each at least. -/
theorem seven_mul_length_le (records : List Record) :
    7 * records.length ≤ (encodeRecords records).length := by
  induction records with
  | nil => exact Nat.le_refl _
  | cons record records ih =>
      have long := record.seven_le_length_encode
      rw [encodeRecords_cons, List.length_append, List.length_cons]
      omega

/-- The payload is the dataset of the records: their number and their encodings. -/
def IsDataset {sizeT : SizeT} (payload : ByteVector sizeT) (records : List Record) : Prop :=
  payload.bytes = LittleEndian.ofNat 8 records.length ++ encodeRecords records

/-- The number of the records of a dataset fits its field. -/
theorem IsDataset.length_lt {sizeT : SizeT} {payload : ByteVector sizeT} {records : List Record}
    (dataset : IsDataset payload records) : records.length < 2 ^ 64 := by
  have fits := payload.fits
  rw [dataset, List.length_append] at fits
  have long := seven_mul_length_le records
  have modulusLe : sizeT.modulus ≤ 2 ^ 64 := by cases sizeT <;> decide
  omega

/-- Records of other codes do not change what is recorded for a code. -/
theorem lookup_foldl_insertRecord_of_ne {records : List Record} {propertyCode : UInt16}
    (out : PropertyMap) (others : ∀ record ∈ records, record.propertyCode ≠ propertyCode) :
    (records.foldl insertRecord out).lookup propertyCode = out.lookup propertyCode := by
  induction records generalizing out with
  | nil => rfl
  | cons record records ih =>
      have different : propertyCode ≠ record.propertyCode := (others record (by simp)).symm
      rw [List.foldl_cons, ih _ fun other membership => others other (by simp [membership]),
        insertRecord, Finmap.lookup_insert_of_ne _ different]

/-- A code that no later record repeats has the value of its record. -/
theorem lookup_recordedProperties {before after : List Record} {record : Record}
    (others : ∀ other ∈ after, other.propertyCode ≠ record.propertyCode) :
    (recordedProperties (before ++ record :: after)).lookup record.propertyCode =
      some record.body.recordedValue := by
  rw [recordedProperties, List.foldl_append, List.foldl_cons,
    lookup_foldl_insertRecord_of_ne _ others, insertRecord, Finmap.lookup_insert]

end SimpleCamCtrl.DeviceProperties
