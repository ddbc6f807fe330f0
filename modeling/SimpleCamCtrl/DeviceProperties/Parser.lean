import SimpleCamCtrl.Commons
import SimpleCamCtrl.Library.LittleEndian
import Mathlib.Data.Finmap

/-!
# The device-property parser

`ParseDeviceProperties` of `SonyPTP3_aux.cpp`, on a payload whose offsets are
`size_t` values.  Additions and products of offsets are reduced modulo the range
of `size_t`, as in the source.  Every read, skip, product, iteration and recorded
entry is also appended to a ghost log, on which no result depends.
-/

namespace SimpleCamCtrl.DeviceProperties

abbrev ptpDtInt8 : UInt16 := 0x0001
abbrev ptpDtUint8 : UInt16 := 0x0002
abbrev ptpDtInt16 : UInt16 := 0x0003
abbrev ptpDtUint16 : UInt16 := 0x0004
abbrev ptpDtInt32 : UInt16 := 0x0005
abbrev ptpDtUint32 : UInt16 := 0x0006
abbrev ptpDtInt64 : UInt16 := 0x0007
abbrev ptpDtUint64 : UInt16 := 0x0008
abbrev ptpDtStr : UInt16 := 0xFFFF
abbrev ptpDtAint8 : UInt16 := 0x4001
abbrev ptpDtAuint8 : UInt16 := 0x4002
abbrev ptpDtAint16 : UInt16 := 0x4003
abbrev ptpDtAuint16 : UInt16 := 0x4004
abbrev ptpDtAint32 : UInt16 := 0x4005
abbrev ptpDtAuint32 : UInt16 := 0x4006
abbrev ptpDtAint64 : UInt16 := 0x4007
abbrev ptpDtAuint64 : UInt16 := 0x4008

/-- `std::unordered_map<uint16_t, uint64_t>`: property code to recorded value. -/
abbrev PropertyMap := Finmap fun _ : UInt16 => UInt64

/-- What the bytes fetched by a `read_*_buf` call are used as. -/
inductive Use where
  | length
  | code
  | dataType
  | value
  | count
  | formFlag
  deriving DecidableEq, Repr

/-- One observable action of the parser. -/
inductive Event where
  /-- A `read_*_buf` call of the given width. -/
  | read (use : Use) (offset width : Nat)
  /-- `off += nBytes`, with the value `off` takes. -/
  | move (offset nBytes target : Nat)
  /-- `static_cast<size_t>(value)`, with the value computed. -/
  | cast (value result : Nat)
  /-- `nUnits * nUnitBytes`, with the value computed. -/
  | product (nUnits nUnitBytes nBytes : Nat)
  /-- The body of the record loop is entered. -/
  | iteration (offset : Nat)
  /-- `out[propertyCode] = currentValue`, at the end of an iteration. -/
  | record (start stop : Nat) (propertyCode : UInt16) (currentValue : UInt64)
  deriving DecidableEq, Repr

/-- The offset and the variables local to one iteration of the record loop. -/
structure Scan where
  offset : Nat
  sizeofType : Nat := 0
  defaultValue : UInt64 := 0
  currentValue : UInt64 := 0
  numcharDefaultValue : UInt8 := 0
  numcharCurrentValue : UInt8 := 0
  log : List Event
  deriving DecidableEq

namespace Scan

/-- Append one event to the ghost log. -/
def note (scan : Scan) (event : Event) : Scan :=
  { scan with log := scan.log ++ [event] }

end Scan

variable {sizeT : SizeT}

/-- The common body of the `read_*_buf` helpers: the little-endian value of `width`
bytes, or zero when they do not lie inside the buffer. -/
def readBuf (buffer : ByteVector sizeT) (width offset : Nat) : Nat :=
  if offset ≤ buffer.size ∧ width ≤ buffer.size - offset then
    LittleEndian.toNat ((buffer.bytes.drop offset).take width)
  else
    0

def readU64Buf (buffer : ByteVector sizeT) (offset : Nat) : UInt64 :=
  UInt64.ofNat (readBuf buffer 8 offset)

def readU32Buf (buffer : ByteVector sizeT) (offset : Nat) : UInt32 :=
  UInt32.ofNat (readBuf buffer 4 offset)

def readU16Buf (buffer : ByteVector sizeT) (offset : Nat) : UInt16 :=
  UInt16.ofNat (readBuf buffer 2 offset)

def readU8Buf (buffer : ByteVector sizeT) (offset : Nat) : UInt8 :=
  UInt8.ofNat (readBuf buffer 1 offset)

/-- `static_cast<size_t>` of a count. -/
def castSize (sizeT : SizeT) (count : UInt64) : Nat :=
  count.toNat % sizeT.modulus

variable (payload : ByteVector sizeT)

def canRead (offset nBytes : Nat) : Bool :=
  decide (offset ≤ payload.size) && decide (nBytes ≤ payload.size - offset)

/-- `advance`: the result and, on success, the moved offset. -/
def advance (scan : Scan) (nBytes : Nat) : Bool × Scan :=
  if canRead payload scan.offset nBytes then
    let target := (scan.offset + nBytes) % sizeT.modulus
    (true, { scan.note (.move scan.offset nBytes target) with offset := target })
  else
    (false, scan)

def advanceMul (scan : Scan) (nUnits nUnitBytes : Nat) : Bool × Scan :=
  if nUnitBytes ≠ 0 ∧ nUnits > sizeT.max / nUnitBytes then
    (false, scan)
  else
    let nBytes := nUnits * nUnitBytes % sizeT.modulus
    advance payload (scan.note (.product nUnits nUnitBytes nBytes)) nBytes

/-- `if (can_read(offset, width)) variable = read(payload, offset);` -/
def load (use : Use) (width : Nat) (store : Scan → Scan) (scan : Scan) : Scan :=
  if canRead payload scan.offset width then
    store (scan.note (.read use scan.offset width))
  else
    scan

/-- `if (!skip) break; rest` inside the data type switch: a failed skip leaves the
switch, with the offset where it was. -/
def orBreak (skipped : Bool × Scan) (rest : Scan → Scan) : Scan :=
  if skipped.1 then rest skipped.2 else skipped.2

/-- The four scalar cases, for the width and the `read_*_buf` helper of the case. -/
def scalarCase (width : Nat) (read : Nat → UInt64) (scan : Scan) : Scan :=
  let scan := { scan with sizeofType := width }
  let scan := load payload .value width
    (fun scan => { scan with defaultValue := read scan.offset }) scan
  orBreak (advance payload scan width) fun scan =>
  let scan := load payload .value width
    (fun scan => { scan with currentValue := read scan.offset }) scan
  orBreak (advance payload scan width) fun scan => scan

/-- The string case: `sizeofType` and `currentValue` keep their initial zero. -/
def stringCase (scan : Scan) : Scan :=
  let scan := load payload .count 1
    (fun scan => { scan with numcharDefaultValue := readU8Buf payload scan.offset }) scan
  orBreak (advance payload scan 1) fun scan =>
  orBreak (advanceMul payload scan scan.numcharDefaultValue.toNat 2) fun scan =>
  let scan := load payload .count 1
    (fun scan => { scan with numcharCurrentValue := readU8Buf payload scan.offset }) scan
  orBreak (advance payload scan 1) fun scan =>
  orBreak (advanceMul payload scan scan.numcharCurrentValue.toNat 2) fun scan => scan

/-- The four array cases, for the element width of the case.  The element counts
are kept in `defaultValue` and `currentValue`; `sizeofType` is set to zero. -/
def arrayCase (unitBytes : Nat) (scan : Scan) : Scan :=
  let scan := { scan with sizeofType := 0 }
  let scan := load payload .count 4
    (fun scan => { scan with defaultValue := (readU32Buf payload scan.offset).toUInt64 }) scan
  orBreak (advance payload scan 4) fun scan =>
  let nUnits := castSize sizeT scan.defaultValue
  let scan := scan.note (.cast scan.defaultValue.toNat nUnits)
  orBreak (advanceMul payload scan nUnits unitBytes) fun scan =>
  let scan := load payload .count 4
    (fun scan => { scan with currentValue := (readU32Buf payload scan.offset).toUInt64 }) scan
  orBreak (advance payload scan 4) fun scan =>
  let nUnits := castSize sizeT scan.currentValue
  let scan := scan.note (.cast scan.currentValue.toNat nUnits)
  orBreak (advanceMul payload scan nUnits unitBytes) fun scan => scan

/-- `switch (dataType)`; `none` is the default case, which returns from the parser. -/
def dataTypeSwitch (dataType : UInt16) (scan : Scan) : Option Scan :=
  if dataType = ptpDtInt8 ∨ dataType = ptpDtUint8 then
    some (scalarCase payload 1 (fun offset => (readU8Buf payload offset).toUInt64) scan)
  else if dataType = ptpDtInt16 ∨ dataType = ptpDtUint16 then
    some (scalarCase payload 2 (fun offset => (readU16Buf payload offset).toUInt64) scan)
  else if dataType = ptpDtInt32 ∨ dataType = ptpDtUint32 then
    some (scalarCase payload 4 (fun offset => (readU32Buf payload offset).toUInt64) scan)
  else if dataType = ptpDtInt64 ∨ dataType = ptpDtUint64 then
    some (scalarCase payload 8 (readU64Buf payload) scan)
  else if dataType = ptpDtStr then
    some (stringCase payload scan)
  else if dataType = ptpDtAint8 ∨ dataType = ptpDtAuint8 then
    some (arrayCase payload 1 scan)
  else if dataType = ptpDtAint16 ∨ dataType = ptpDtAuint16 then
    some (arrayCase payload 2 scan)
  else if dataType = ptpDtAint32 ∨ dataType = ptpDtAuint32 then
    some (arrayCase payload 4 scan)
  else if dataType = ptpDtAint64 ∨ dataType = ptpDtAuint64 then
    some (arrayCase payload 8 scan)
  else
    none

/-- How an iteration ends: with a `break` or `return` of the loop, or with the entry
`out[propertyCode] = currentValue`. -/
inductive Flow where
  | exit (scan : Scan)
  | next (propertyCode : UInt16) (scan : Scan)

/-- `if (!skip) break; rest` outside the switch: a failed skip leaves the loop. -/
def orExit (skipped : Bool × Scan) (rest : Scan → Flow) : Flow :=
  if skipped.1 then rest skipped.2 else .exit skipped.2

/-- One of the two lists of an enumeration form: a count and that many values. -/
def enumerationList (scan : Scan) (rest : Scan → Flow) : Flow :=
  if canRead payload scan.offset 2 then
    let num := readU16Buf payload scan.offset
    let scan := scan.note (.read .count scan.offset 2)
    orExit (advance payload scan 2) fun scan =>
    orExit (advanceMul payload scan num.toNat scan.sizeofType) rest
  else
    .exit scan

/-- The form flag and the form it announces, after the switch. -/
def formPart (start : Nat) (propertyCode : UInt16) (scan : Scan) : Flow :=
  let commit (scan : Scan) : Flow :=
    .next propertyCode (scan.note (.record start scan.offset propertyCode scan.currentValue))
  let formFlag := if canRead payload scan.offset 1 then readU8Buf payload scan.offset else 0
  let scan := load payload .formFlag 1 id scan
  orExit (advance payload scan 1) fun scan =>
  if formFlag = 0x01 then
    orExit (advanceMul payload scan 3 scan.sizeofType) commit
  else if formFlag = 0 then
    commit scan
  else
    enumerationList payload scan fun scan =>
    enumerationList payload scan commit

/-- The body of the record loop. -/
def loopBody (scan : Scan) : Flow :=
  let start := scan.offset
  let scan : Scan := { offset := start, log := scan.log ++ [.iteration start] }
  if canRead payload scan.offset (2 * 2 + 2) then
    let propertyCode := readU16Buf payload scan.offset
    let scan := scan.note (.read .code scan.offset 2)
    orExit (advance payload scan 2) fun scan =>
    let dataType := readU16Buf payload scan.offset
    let scan := scan.note (.read .dataType scan.offset 2)
    orExit (advance payload scan 2) fun scan =>
    orExit (advance payload scan 1) fun scan =>
    orExit (advance payload scan 1) fun scan =>
    match dataTypeSwitch payload dataType scan with
    | none => .exit scan
    | some scan => formPart payload start propertyCode scan
  else
    .exit scan

/-- The record loop, by recursion on `length - i`, the iterations the counter still
allows. -/
def recordLoop : (remaining : Nat) → PropertyMap → Scan → PropertyMap × Scan
  | 0, out, scan => (out, scan)
  | remaining + 1, out, scan =>
      if scan.offset < payload.size then
        match loopBody payload scan with
        | .exit scan => (out, scan)
        | .next propertyCode scan =>
            recordLoop remaining (out.insert propertyCode scan.currentValue) scan
      else
        (out, scan)

/-- The state before the record loop, once the record count has been read. -/
def initialScan : Scan :=
  { offset := 8, log := [.read .length 0 8] }

/-- The parser's result together with its ghost log. -/
def parseRun : PropertyMap × List Event :=
  if payload.size < 8 then
    (∅, [])
  else
    let result := recordLoop payload (readU64Buf payload 0).toNat ∅ initialScan
    (result.1, result.2.log)

/-- `ParseDeviceProperties`. -/
def parseDeviceProperties : PropertyMap := (parseRun payload).1

end SimpleCamCtrl.DeviceProperties
