import SimpleCamCtrl.DeviceProperties.RoundTrip

/-!
# Enumeration forms of strings

The form handling skips the values of an enumeration by the width that the data type case
has set.  The string case sets none: of a string's enumeration the parser takes four bytes,
and reads the next record at whatever follows them.
-/

namespace SimpleCamCtrl.DeviceProperties

/-- A list of strings, each with its own count of characters. -/
structure StringList where
  items : List (Counted 1 2)
  fits : items.length < 256 ^ 2

namespace StringList

/-- The number of the strings. -/
def count (list : StringList) : List UInt8 :=
  LittleEndian.ofNat 2 list.items.length

/-- The strings, one after the other. -/
def strings (list : StringList) : List UInt8 :=
  (list.items.map fun string => string.count ++ string.values).flatten

end StringList

/-- A string property whose form is an enumeration of two lists of strings. -/
structure EnumeratedString where
  propertyCode : UInt16
  firstFlag : UInt8
  secondFlag : UInt8
  defaultValue : Counted 1 2
  currentValue : Counted 1 2
  formFlag : UInt8
  notNone : formFlag ≠ 0
  notRange : formFlag ≠ 1
  first : StringList
  second : StringList

namespace EnumeratedString

/-- The record with form none in place of the enumeration. -/
def plain (record : EnumeratedString) : Record :=
  ⟨record.propertyCode, record.firstFlag, record.secondFlag,
    .string record.defaultValue record.currentValue⟩

/-- What follows the form flag. -/
def tail (record : EnumeratedString) : List UInt8 :=
  record.first.count ++ record.first.strings ++ (record.second.count ++ record.second.strings)

def encode (record : EnumeratedString) : List UInt8 :=
  record.plain.header ++ (record.plain.body.fields.flatten ++ record.formFlag :: record.tail)

/-- Neither list has a string. -/
def EmptyLists (record : EnumeratedString) : Prop :=
  record.first.items = [] ∧ record.second.items = []

end EnumeratedString

variable {sizeT : SizeT} {payload : ByteVector sizeT}

/-- The payload is the dataset of the records with the enumerated string among them. -/
def IsEnumeratedDataset (payload : ByteVector sizeT) (before : List Record)
    (record : EnumeratedString) (after : List Record) : Prop :=
  payload.bytes = LittleEndian.ofNat 8 (before ++ record.plain :: after).length ++
    (encodeRecords before ++ (record.encode ++ encodeRecords after))

/-- The parser finds the same entries for the codes of the other records as it does when the
string has no form. -/
def SameEntries (sizeT : SizeT) (before : List Record) (record : EnumeratedString)
    (after : List Record) : Prop :=
  ∀ payload plain : ByteVector sizeT, IsEnumeratedDataset payload before record after →
    IsDataset plain (before ++ record.plain :: after) → ∀ other ∈ before ++ after,
      (parseDeviceProperties payload).lookup other.propertyCode =
        (parseDeviceProperties plain).lookup other.propertyCode

namespace EnumeratedString

/-- The bytes of the form that the parser does not take. -/
def leftover (record : EnumeratedString) : List UInt8 := record.tail.drop 4

theorem length_tail (record : EnumeratedString) :
    record.tail.length = 4 + (record.first.strings.length + record.second.strings.length) := by
  simp only [tail, StringList.count, List.length_append, LittleEndian.length_ofNat]
  omega

end EnumeratedString

theorem StringList.length_le_strings (list : StringList) :
    list.items.length ≤ list.strings.length := by
  rw [StringList.strings]
  induction list.items with
  | nil => exact Nat.le_refl _
  | cons string items ih =>
      simp only [List.map_cons, List.flatten_cons, List.length_append, List.length_cons,
        Counted.length_count]
      omega

namespace EnumeratedString

variable (record : EnumeratedString)

/-- Nothing is left of the form exactly when both lists are empty. -/
theorem leftover_eq_nil_iff : record.leftover = [] ↔ record.EmptyLists := by
  rw [leftover, List.drop_eq_nil_iff, length_tail, EmptyLists]
  constructor
  · intro short
    have first := record.first.length_le_strings
    have second := record.second.length_le_strings
    exact ⟨List.eq_nil_of_length_eq_zero (by omega), List.eq_nil_of_length_eq_zero (by omega)⟩
  · intro empty
    simp [StringList.strings, empty.1, empty.2]

/-- A count field without the bytes of its values. -/
def bareCount (field : Bytes 2) : Counted 2 0 where
  items := List.replicate (LittleEndian.toNat field.val) ⟨[], List.length_nil⟩
  fits := by
    have small := LittleEndian.toNat_lt field.val
    rw [field.property] at small
    rwa [List.length_replicate]

theorem encode_bareCount (field : Bytes 2) :
    (bareCount field).count ++ (bareCount field).values = field.val := by
  have written := LittleEndian.ofNat_toNat field.val
  rw [field.property] at written
  have number : (bareCount field).items.length = LittleEndian.toNat field.val :=
    List.length_replicate
  have noBytes : (bareCount field).values = [] := by
    apply List.eq_nil_of_length_eq_zero
    rw [Counted.length_values, Nat.mul_zero]
  rw [noBytes, List.append_nil, Counted.count, number, written]

/-- The form as the parser takes it: two lists of values without bytes. -/
def takenForm : Form 0 :=
  .enumeration record.formFlag record.notNone record.notRange
    (bareCount ⟨record.tail.take 2, by rw [List.length_take, length_tail]; omega⟩)
    (bareCount ⟨(record.tail.drop 2).take 2, by
      rw [List.length_take, List.length_drop, length_tail]; omega⟩)

theorem tail_takenForm : record.takenForm.tail = record.tail.take 4 := by
  rw [takenForm, Form.tail, encode_bareCount, encode_bareCount, ← List.take_add]

theorem length_tail_takenForm : record.takenForm.tail.length = 4 := by
  rw [tail_takenForm, List.length_take, length_tail]
  omega

/-- What is taken and what is left are the form. -/
theorem encode_takenForm :
    record.takenForm.encode ++ record.leftover = record.formFlag :: record.tail := by
  rw [Form.encode, tail_takenForm, leftover, List.cons_append, List.take_append_drop]
  rfl

theorem encode_eq :
    record.encode = record.plain.header ++ (record.plain.body.fields.flatten ++
      (record.takenForm.encode ++ record.leftover)) := by
  rw [encode_takenForm]
  rfl

theorem length_encode :
    record.encode.length = record.plain.encode.length + 4 + record.leftover.length := by
  have form := record.length_tail_takenForm
  simp only [encode_eq, Record.encode, Body.encode, Form.encode, List.length_append,
    List.length_cons, form]
  change _ = _ + (_ + (0 + 1)) + 4 + _
  omega

/-- An iteration on the string takes four bytes more than on the string without a form. -/
theorem loopBody_taken {scan : Scan} {stream : List UInt8}
    (unread : Unread payload scan.offset (record.encode ++ stream))
    (readable : canRead payload scan.offset (record.plain.encode.length + 4) = true) :
    ∃ after, loopBody payload scan = .next record.propertyCode after ∧
      after.offset = scan.offset + (record.plain.encode.length + 4) ∧
      after.currentValue = record.plain.body.recordedValue ∧
      Unread payload after.offset (record.leftover ++ stream) := by
  have form := record.length_tail_takenForm
  have parts : record.plain.encode.length + 4 =
      6 + record.plain.body.fields.flatten.length + (1 + record.takenForm.tail.length) := by
    rw [form, Record.encode, Body.encode, List.length_append, List.length_append,
      Record.length_header]
    change _ + (_ + (0 + 1)) + 4 = _
    omega
  have taken : (record.plain.header ++ (record.plain.body.fields.flatten ++
      record.takenForm.encode)).length = record.plain.encode.length + 4 := by
    rw [parts, Form.encode, List.length_append, List.length_append, List.length_cons,
      Record.length_header]
    omega
  have split : record.encode ++ stream = (record.plain.header ++
      (record.plain.body.fields.flatten ++ record.takenForm.encode)) ++
        (record.leftover ++ stream) := by
    rw [encode_eq]
    simp only [List.append_assoc]
  have beginning := unread
  rw [split] at beginning
  have behind := beginning.skip taken readable
  simp only [List.append_assoc] at beginning
  have whole := readable
  rw [parts] at whole
  rcases loopBody_form beginning whole with ⟨after, bodyEq, offset, value⟩
  have ends : after.offset = scan.offset + (record.plain.encode.length + 4) :=
    offset.trans (congrArg (scan.offset + ·) parts.symm)
  rw [← ends] at behind
  exact ⟨after, bodyEq, ends, value, behind⟩

end EnumeratedString

section Behind

variable {before after : List Record} {record : EnumeratedString}

theorem IsEnumeratedDataset.size_eq (dataset : IsEnumeratedDataset payload before record after) :
    payload.size = 8 + (encodeRecords before).length + (record.plain.encode.length + 4) +
      (record.leftover.length + (encodeRecords after).length) := by
  rw [ByteVector.size, dataset]
  simp only [List.length_append, LittleEndian.length_ofNat, record.length_encode]
  omega

/-- The number of the records of the dataset fits its field. -/
theorem IsEnumeratedDataset.length_lt
    (dataset : IsEnumeratedDataset payload before record after) :
    (before ++ record.plain :: after).length < 2 ^ 64 := by
  have fits : payload.size < sizeT.modulus := payload.fits
  have modulusLe : sizeT.modulus ≤ 2 ^ 64 := by cases sizeT <;> decide
  have longBefore := seven_mul_length_le before
  have longAfter := seven_mul_length_le after
  rw [dataset.size_eq] at fits
  rw [List.length_append, List.length_cons]
  omega

/-- The parser reaches the first byte of the form that it has not taken with the string
recorded, and goes on for as many records as follow. -/
theorem IsEnumeratedDataset.parsed (dataset : IsEnumeratedDataset payload before record after) :
    ∃ scan, Unread payload scan.offset (record.leftover ++ encodeRecords after) ∧
      payload.size = scan.offset + (record.leftover.length + (encodeRecords after).length) ∧
      parseDeviceProperties payload =
        (recordLoop payload after.length (recordedProperties (before ++ [record.plain]))
          scan).1 := by
  have sizeEq := dataset.size_eq
  have number : (UInt64.ofNat (before ++ record.plain :: after).length).toNat =
      before.length + (after.length + 1) := by
    rw [UInt64.toNat_ofNat_of_lt' dataset.length_lt, List.length_append, List.length_cons]
  have layout := dataset
  rw [IsEnumeratedDataset, List.length_append, List.length_cons, ← number] at layout
  rcases parseRun_of_count layout with ⟨unread, parsed⟩
  have readable : canRead payload initialScan.offset (encodeRecords before).length = true := by
    rw [canRead_iff, sizeEq]
    change 8 + _ ≤ _
    omega
  rcases recordLoop_records before (after.length + 1) ∅ initialScan unread readable with
    ⟨middle, recorded⟩
  have middleOffset : middle.offset = 8 + (encodeRecords before).length := recorded.offset
  have atString := unread.skip rfl readable
  have whole : canRead payload middle.offset (record.plain.encode.length + 4) = true :=
    (canRead_iff payload _ _).mpr (by omega)
  change Unread payload (8 + (encodeRecords before).length) _ at atString
  rw [← middleOffset] at atString
  rcases record.loopBody_taken atString whole with ⟨scan, bodyEq, offset, value, behind⟩
  refine ⟨scan, behind, by omega, ?_⟩
  rw [parseDeviceProperties, parsed, number, recorded.loop,
    recordLoop_next (by omega) bodyEq, value, recordedProperties, List.foldl_append]
  rfl

/-- A string whose lists are empty is followed by the next record. -/
theorem IsEnumeratedDataset.parseDeviceProperties_of_emptyLists
    (dataset : IsEnumeratedDataset payload before record after) (empty : record.EmptyLists) :
    parseDeviceProperties payload = recordedProperties (before ++ record.plain :: after) := by
  rcases dataset.parsed with ⟨scan, unread, sizeEq, parsed⟩
  rw [record.leftover_eq_nil_iff.mpr empty] at unread sizeEq
  have readable : canRead payload scan.offset (encodeRecords after).length = true := by
    rw [canRead_iff, sizeEq, List.length_nil, Nat.zero_add]
  have stream : Unread payload scan.offset (encodeRecords after ++ []) := by
    rw [List.append_nil]
    exact unread
  rcases recordLoop_records after 0 (recordedProperties (before ++ [record.plain])) scan stream
    readable with ⟨last, recorded⟩
  have loop := recorded.loop
  rw [Nat.add_zero, recordLoop] at loop
  rw [parsed, loop, recordedProperties, recordedProperties, List.foldl_append,
    List.foldl_append]
  rfl

theorem sameEntries_of_emptyLists (empty : record.EmptyLists) :
    SameEntries sizeT before record after := by
  intro payload plain enumerated isPlain other _
  rw [enumerated.parseDeviceProperties_of_emptyLists empty, isPlain.parseDeviceProperties_eq]

/-- A string that no record follows does no harm. -/
theorem IsEnumeratedDataset.parseDeviceProperties_of_last
    (dataset : IsEnumeratedDataset payload before record []) :
    parseDeviceProperties payload = recordedProperties (before ++ [record.plain]) := by
  rcases dataset.parsed with ⟨scan, _, _, parsed⟩
  exact parsed

end Behind

/-! ## A record that is lost -/

namespace Flow

/-- What the iteration records, if it records, is an entry for the code. -/
def Records (propertyCode : UInt16) : Flow → Prop
  | .exit _ => True
  | .next recorded _ => recorded = propertyCode

variable {propertyCode : UInt16} {rest : Scan → Flow}

theorem records_orExit (skipped : Bool × Scan)
    (onRest : ∀ scan, (rest scan).Records propertyCode) :
    (orExit skipped rest).Records propertyCode := by
  unfold orExit
  split
  · exact onRest _
  · trivial

theorem records_ite {condition : Prop} [Decidable condition] {left right : Flow}
    (onLeft : left.Records propertyCode) (onRight : right.Records propertyCode) :
    (if condition then left else right).Records propertyCode := by
  split
  · exact onLeft
  · exact onRight

theorem records_enumerationList (scan : Scan)
    (onRest : ∀ scan, (rest scan).Records propertyCode) :
    (enumerationList payload scan rest).Records propertyCode := by
  apply records_ite
  · apply records_orExit
    intro next
    exact records_orExit _ onRest
  · trivial

theorem records_formPart (start : Nat) (scan : Scan) :
    (formPart payload start propertyCode scan).Records propertyCode := by
  have committed (scan : Scan) : (commit start propertyCode scan).Records propertyCode := rfl
  unfold formPart
  apply records_orExit
  intro next
  apply records_ite
  · exact records_orExit _ committed
  · apply records_ite
    · exact committed next
    · apply records_enumerationList
      intro second
      exact records_enumerationList _ committed

/-- An iteration records for the code it reads first. -/
theorem records_loopBody (payload : ByteVector sizeT) (scan : Scan) :
    (loopBody payload scan).Records (readU16Buf payload scan.offset) := by
  apply records_ite
  · apply records_orExit
    intro behindCode
    apply records_orExit
    intro behindType
    apply records_orExit
    intro behindFirst
    apply records_orExit
    intro behindFlags
    dsimp only
    split
    · trivial
    · exact records_formPart _ _
  · trivial

end Flow

/-- One more iteration changes nothing for the codes that it does not read. -/
theorem lookup_recordLoop_one {out : PropertyMap} {scan : Scan} {propertyCode : UInt16}
    (other : propertyCode ≠ readU16Buf payload scan.offset) :
    (recordLoop payload 1 out scan).1.lookup propertyCode = out.lookup propertyCode := by
  have records := Flow.records_loopBody payload scan
  rw [recordLoop]
  split
  · cases iteration : loopBody payload scan with
    | exit last => rfl
    | next recorded last =>
        rw [iteration] at records
        change recorded = _ at records
        rw [← records] at other
        exact Finmap.lookup_insert_of_ne _ other
  · rfl

/-- The first byte of the stream is the low byte of the code that is read there. -/
theorem Unread.readU16Buf_mod {offset : Nat} {byte : UInt8} {stream : List UInt8}
    (unread : Unread payload offset (byte :: stream))
    (readable : canRead payload offset 2 = true) :
    (readU16Buf payload offset).toNat % 256 = byte.toNat := by
  have small : byte.toNat < 256 := byte.toNat_lt
  cases stream with
  | nil =>
      have within := (canRead_iff payload _ _).mp readable
      have short := unread.beginning.length_le
      rw [List.length_drop] at short
      change payload.size - offset ≤ 1 at short
      omega
  | cons next stream =>
      have field : Unread payload offset ([byte, next] ++ stream) := unread
      have fieldLength : [byte, next].length = 2 := rfl
      rw [readU16Buf_toNat, field.readBuf fieldLength readable, LittleEndian.toNat_cons,
        Nat.add_mul_mod_self_left, Nat.mod_eq_of_lt small]

/-- A code whose low byte is another one. -/
def codeApart (byte : UInt8) : UInt16 :=
  if byte = 0 then 1 else 0

theorem codeApart_ne {byte : UInt8} {propertyCode : UInt16}
    (low : propertyCode.toNat % 256 = byte.toNat) : codeApart byte ≠ propertyCode := by
  intro equal
  rw [← equal, codeApart] at low
  split at low
  · rename_i zero
    rw [zero] at low
    cases low
  · rename_i nonzero
    exact nonzero (UInt8.toNat.inj low.symm)

/-- A value that is not the entry. -/
def valueApart (entry : Option UInt64) : Nat :=
  if entry = some 0 then 1 else 0

/-- A scalar record that a parser starting at the byte does not find. -/
def lostRecord (byte : UInt8) (out : PropertyMap) : Record :=
  .ofScalar (codeApart byte) .uint8 (valueApart (out.lookup (codeApart byte)))

theorem recordedValue_lostRecord (byte : UInt8) (out : PropertyMap) :
    out.lookup (codeApart byte) ≠ some (lostRecord byte out).body.recordedValue := by
  have value : (lostRecord byte out).body.recordedValue =
      UInt64.ofNat (valueApart (out.lookup (codeApart byte))) := by
    have small : valueApart (out.lookup (codeApart byte)) < 256 ^ 1 := by
      unfold valueApart
      split <;> decide
    exact congrArg UInt64.ofNat (LittleEndian.toNat_ofNat_of_lt small)
  rw [value, valueApart]
  split
  · rename_i zero
    rw [zero]
    decide
  · rename_i nonzero
    exact nonzero

section Behind

variable {before : List Record} {record : EnumeratedString}

/-- With a byte left of the form, a record behind it leaves no entry for a code that does not
begin with this byte. -/
theorem IsEnumeratedDataset.lookup_codeApart {byte : UInt8} {rest : List UInt8} {other : Record}
    (dataset : IsEnumeratedDataset payload before record [other])
    (left : record.leftover = byte :: rest) :
    (parseDeviceProperties payload).lookup (codeApart byte) =
      (recordedProperties (before ++ [record.plain])).lookup (codeApart byte) := by
  rcases dataset.parsed with ⟨scan, unread, sizeEq, parsed⟩
  have long := seven_mul_length_le [other]
  rw [left] at unread sizeEq
  have readable : canRead payload scan.offset 2 = true := by
    rw [canRead_iff, sizeEq]
    rw [List.length_singleton] at long
    omega
  rw [parsed]
  exact lookup_recordLoop_one (codeApart_ne (unread.readU16Buf_mod readable))

/-- Room for the one dataset is room for the other. -/
theorem exists_datasets {after : List Record}
    (room : 8 + ((encodeRecords before).length + (record.encode.length +
      (encodeRecords after).length)) < sizeT.modulus) :
    ∃ payload plain : ByteVector sizeT, IsEnumeratedDataset payload before record after ∧
      IsDataset plain (before ++ record.plain :: after) := by
  have length := record.length_encode
  have enumerated : (LittleEndian.ofNat 8 (before ++ record.plain :: after).length ++
      (encodeRecords before ++ (record.encode ++ encodeRecords after))).length <
        sizeT.modulus := by
    simpa only [List.length_append, LittleEndian.length_ofNat] using room
  have plain : (LittleEndian.ofNat 8 (before ++ record.plain :: after).length ++
      encodeRecords (before ++ record.plain :: after)).length < sizeT.modulus := by
    simp only [encodeRecords_append, encodeRecords_cons, List.length_append,
      LittleEndian.length_ofNat]
    omega
  exact ⟨⟨_, enumerated⟩, ⟨_, plain⟩, rfl, rfl⟩

/-- With a string left in one of the lists some record behind it is lost. -/
theorem exists_not_sameEntries
    (room : (encodeRecords before).length + record.encode.length + 17 < sizeT.modulus)
    (strings : ¬record.EmptyLists) : ∃ after, ¬SameEntries sizeT before record after := by
  cases left : record.leftover with
  | nil => exact (strings (record.leftover_eq_nil_iff.mp left)).elim
  | cons byte rest =>
      let lost := lostRecord byte (recordedProperties (before ++ [record.plain]))
      have lostLength : (encodeRecords [lost]).length = 9 := rfl
      refine ⟨[lost], fun same => ?_⟩
      have bothRoom : 8 + ((encodeRecords before).length + (record.encode.length +
          (encodeRecords [lost]).length)) < sizeT.modulus := by
        omega
      rcases exists_datasets bothRoom with ⟨payload, plain, enumerated, isPlain⟩
      have entries := same payload plain enumerated isPlain lost (by simp)
      have noLater : ∀ other ∈ ([] : List Record), other.propertyCode ≠ lost.propertyCode :=
        List.forall_mem_nil _
      rw [isPlain.parseDeviceProperties_eq, List.append_cons, lookup_recordedProperties noLater]
        at entries
      have missed : (parseDeviceProperties payload).lookup lost.propertyCode =
          (recordedProperties (before ++ [record.plain])).lookup lost.propertyCode :=
        enumerated.lookup_codeApart left
      exact recordedValue_lostRecord byte _ (missed.symm.trans entries)

end Behind

/-- A string of at most 255 characters, with its count. -/
theorem StringList.length_strings_le (list : StringList) :
    list.strings.length ≤ 511 * list.items.length := by
  rw [StringList.strings]
  induction list.items with
  | nil => exact Nat.le_refl _
  | cons string items ih =>
      have characters : string.items.length < 256 := string.fits
      simp only [List.map_cons, List.flatten_cons, List.length_append, List.length_cons,
        Counted.length_count, Counted.length_values]
      omega

/-- Any such record is small against the range of `size_t`. -/
theorem EnumeratedString.length_encode_le (record : EnumeratedString) :
    record.encode.length + 17 < sizeT.modulus := by
  have length := record.length_encode
  have tail := record.length_tail
  have plain : record.plain.encode.length =
      6 + (1 + record.defaultValue.items.length * 2 +
        (1 + record.currentValue.items.length * 2)) + 1 := by
    simp only [Record.encode, Body.encode, List.length_append, Record.length_header, plain,
      Body.fields, List.flatten_cons, List.flatten_nil, Counted.length_count,
      Counted.length_values, List.length_nil]
    change _ + (_ + (0 + 1)) = _
    omega
  have defaultSmall : record.defaultValue.items.length < 256 := record.defaultValue.fits
  have currentSmall : record.currentValue.items.length < 256 := record.currentValue.fits
  have firstSmall : record.first.items.length < 65536 := record.first.fits
  have secondSmall : record.second.items.length < 65536 := record.second.fits
  have first := record.first.length_strings_le
  have second := record.second.length_strings_le
  have leftoverLength : record.leftover.length = record.tail.length - 4 := List.length_drop
  have modulusLe := sizeT.pow_32_le_modulus
  omega

/-- Where a string and one more record have room, the records behind the string keep their
entries exactly when both lists of its form are empty. -/
theorem sameEntries_iff_of_room {before : List Record} {record : EnumeratedString}
    (room : (encodeRecords before).length + record.encode.length + 17 < sizeT.modulus) :
    (∀ after, SameEntries sizeT before record after) ↔ record.EmptyLists := by
  constructor
  · intro same
    by_contra strings
    rcases exists_not_sameEntries room strings with ⟨after, different⟩
    exact different (same after)
  · intro empty after
    exact sameEntries_of_emptyLists empty

/-- A string with an enumeration form leaves the entries of the other records as they are
without the form, whatever records stand around it, exactly when both lists of the form are
empty.  With strings in them, a record is lost behind any records before the string.  Only a
string that no record follows does no harm. -/
theorem sameEntries_iff_emptyLists (sizeT : SizeT) (record : EnumeratedString) :
    ((∀ before after, SameEntries sizeT before record after) ↔ record.EmptyLists) ∧
      (∀ before, (encodeRecords before).length + record.encode.length + 17 < sizeT.modulus →
        ((∀ after, SameEntries sizeT before record after) ↔ record.EmptyLists)) ∧
      ∀ before, SameEntries sizeT before record [] := by
  refine ⟨⟨?_, ?_⟩, fun before room => sameEntries_iff_of_room room, ?_⟩
  · intro same
    have room : (encodeRecords []).length + record.encode.length + 17 < sizeT.modulus := by
      rw [encodeRecords_nil, List.length_nil, Nat.zero_add]
      exact record.length_encode_le
    exact (sameEntries_iff_of_room room).mp (same [])
  · intro empty before after
    exact sameEntries_of_emptyLists empty
  · intro before payload plain enumerated isPlain other _
    rw [enumerated.parseDeviceProperties_of_last, isPlain.parseDeviceProperties_eq]

/-- The string "A". -/
def letterA : Counted 1 2 :=
  ⟨[⟨LittleEndian.ofNat 2 65, LittleEndian.length_ofNat _ _⟩], by decide⟩

theorem enumeration_ne_none : (2 : UInt8) ≠ 0 := by decide

theorem enumeration_ne_range : (2 : UInt8) ≠ 1 := by decide

/-- A string property that allows one string. -/
def labelled : EnumeratedString where
  propertyCode := 0x501E
  firstFlag := 1
  secondFlag := 1
  defaultValue := letterA
  currentValue := letterA
  formFlag := 2
  notNone := enumeration_ne_none
  notRange := enumeration_ne_range
  first := ⟨[letterA], by decide⟩
  second := ⟨[], by decide⟩

theorem not_sameEntries_labelled :
    ¬SameEntries .bits32 [] labelled [.ofScalar 0xD21E .uint32 400] := by
  intro same
  have entries := same ⟨_, by decide⟩ ⟨_, by decide⟩ rfl rfl (.ofScalar 0xD21E .uint32 400)
    (by simp)
  revert entries
  decide

theorem sameEntries_labelled :
    (∃ after, ¬SameEntries .bits64 [] labelled after) ∧ SameEntries .bits64 [] labelled [] := by
  rcases sameEntries_iff_emptyLists .bits64 labelled with ⟨_, behind, last⟩
  refine ⟨?_, last []⟩
  by_contra same
  rw [not_exists_not, behind [] (by decide)] at same
  cases same.1

end SimpleCamCtrl.DeviceProperties
