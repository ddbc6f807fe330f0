import SimpleCamCtrl.DeviceProperties.Record
import SimpleCamCtrl.DeviceProperties.Bounds

/-!
# Reading one record

What the parser does at an offset from which the payload continues with an encoded
record, whole or cut off.  `Unread` says that the rest of the payload is a beginning
of a given byte stream, so that one set of lemmas serves both situations.
-/

namespace SimpleCamCtrl.DeviceProperties

variable {sizeT : SizeT} {payload : ByteVector sizeT}

/-- The payload continues at `offset` with `stream`, as far as it reaches. -/
structure Unread (payload : ByteVector sizeT) (offset : Nat) (stream : List UInt8) : Prop where
  inside : offset ≤ payload.size
  beginning : payload.bytes.drop offset <+: stream

namespace Unread

variable {offset width : Nat} {field stream : List UInt8}

/-- A readable field is read as it was written. -/
theorem readBuf (unread : Unread payload offset (field ++ stream))
    (fieldLength : field.length = width)
    (readable : canRead payload offset width = true) :
    readBuf payload width offset = LittleEndian.toNat field := by
  have within := (canRead_iff payload _ _).mp readable
  have bound : offset ≤ payload.size ∧ width ≤ payload.size - offset := by omega
  have long : width ≤ (payload.bytes.drop offset).length := by
    rw [List.length_drop]
    exact bound.2
  rcases unread.beginning with ⟨missing, split⟩
  have prefixes := congrArg (List.take width) split
  rw [List.take_append_of_le_length long, ← fieldLength, List.take_left] at prefixes
  rw [DeviceProperties.readBuf, if_pos bound, ← fieldLength, prefixes]

/-- Behind a readable field the stream goes on. -/
theorem skip (unread : Unread payload offset (field ++ stream))
    (fieldLength : field.length = width)
    (readable : canRead payload offset width = true) :
    Unread payload (offset + width) stream := by
  have within := (canRead_iff payload _ _).mp readable
  refine ⟨within, ?_⟩
  rcases unread.beginning with ⟨missing, split⟩
  have long : width ≤ (payload.bytes.drop offset).length := by
    rw [List.length_drop]
    change width ≤ payload.size - offset
    omega
  have rests := congrArg (List.drop width) split
  rw [List.drop_append_of_le_length long, ← fieldLength, List.drop_left, List.drop_drop] at rests
  rw [← fieldLength]
  exact ⟨missing, rests⟩

end Unread

/-- The value of `width` bytes is below the range of the type it is stored in. -/
theorem readBuf_lt (payload : ByteVector sizeT) (width offset : Nat) :
    readBuf payload width offset < 256 ^ width := by
  unfold readBuf
  split
  · rename_i bound
    have short : ((payload.bytes.drop offset).take width).length ≤ width :=
      List.length_take_le _ _
    have below := LittleEndian.toNat_lt ((payload.bytes.drop offset).take width)
    exact Nat.lt_of_lt_of_le below (Nat.pow_le_pow_right (by decide) short)
  · exact Nat.pow_pos (by decide)

theorem readU8Buf_toNat (offset : Nat) :
    (readU8Buf payload offset).toNat = readBuf payload 1 offset :=
  UInt8.toNat_ofNat_of_lt' (readBuf_lt payload 1 offset)

theorem readU16Buf_toNat (offset : Nat) :
    (readU16Buf payload offset).toNat = readBuf payload 2 offset :=
  UInt16.toNat_ofNat_of_lt' (readBuf_lt payload 2 offset)

theorem readU32Buf_toNat (offset : Nat) :
    (readU32Buf payload offset).toNat = readBuf payload 4 offset :=
  UInt32.toNat_ofNat_of_lt' (readBuf_lt payload 4 offset)

theorem readU64Buf_toNat (offset : Nat) :
    (readU64Buf payload offset).toNat = readBuf payload 8 offset :=
  UInt64.toNat_ofNat_of_lt' (readBuf_lt payload 8 offset)

/-- Where skipping fields of the given widths one by one comes to rest. -/
def fieldsEnd (payload : ByteVector sizeT) (offset : Nat) : List Nat → Nat
  | [] => offset
  | width :: widths =>
      if canRead payload offset width then fieldsEnd payload (offset + width) widths
      else offset

/-- Fields that fit the payload are all skipped. -/
theorem fieldsEnd_of_canRead {offset : Nat} {widths : List Nat}
    (readable : canRead payload offset widths.sum = true) :
    fieldsEnd payload offset widths = offset + widths.sum := by
  induction widths generalizing offset with
  | nil => rfl
  | cons width widths ih =>
      have bound := (canRead_iff payload _ _).mp readable
      rw [List.sum_cons] at bound
      have head : canRead payload offset width = true :=
        (canRead_iff payload _ _).mpr (by omega)
      have tail : canRead payload (offset + width) widths.sum = true :=
        (canRead_iff payload _ _).mpr (by omega)
      rw [fieldsEnd, if_pos head, ih tail, List.sum_cons, Nat.add_assoc]

/-- A piece of the switch that skips fields of the given widths: where it comes to
rest, and what holds once all of them have been skipped. -/
structure Rests (payload : ByteVector sizeT) (offset : Nat) (widths : List Nat)
    (complete : Scan → Prop) (after : Scan) : Prop where
  offset_eq : after.offset = fieldsEnd payload offset widths
  holds : canRead payload offset widths.sum = true → complete after

namespace Rests

variable {offset : Nat} {widths : List Nat} {complete : Scan → Prop}

theorem nil {after : Scan} (here : after.offset = offset) (holds : complete after) :
    Rests payload offset [] complete after :=
  ⟨here, fun _ => holds⟩

/-- The first field fits, and the others come to rest. -/
theorem cons {width : Nat} {after : Scan} (readable : canRead payload offset width = true)
    (rests : Rests payload (offset + width) widths complete after) :
    Rests payload offset (width :: widths) complete after := by
  refine ⟨?_, fun whole => rests.holds ?_⟩
  · rw [fieldsEnd, if_pos readable, rests.offset_eq]
  · rw [canRead_iff, List.sum_cons] at whole
    rw [canRead_iff]
    omega

/-- The first field does not fit: the offset stays where it was. -/
theorem stuck {width : Nat} {after : Scan} (unreadable : canRead payload offset width = false)
    (offset_eq : after.offset = offset) :
    Rests payload offset (width :: widths) complete after := by
  refine ⟨?_, fun whole => ?_⟩
  · rw [fieldsEnd, unreadable, offset_eq]
    rfl
  · rw [canRead_iff, List.sum_cons] at whole
    rw [canRead_eq_false_iff] at unreadable
    omega

/-- A field that is read and skipped. -/
theorem load {use : Use} {width : Nat} {store rest : Scan → Scan} {scan : Scan}
    (here : scan.offset = offset) (storeOffset : ∀ scan, (store scan).offset = scan.offset)
    (onRest : canRead payload offset width = true →
      Rests payload (offset + width) widths complete
        (rest ((store (scan.note (.read use scan.offset width))).moved width))) :
    Rests payload offset (width :: widths) complete
      (orBreak (advance payload (DeviceProperties.load payload use width store scan) width)
        rest) := by
  subst here
  rw [orBreak_load payload _ _ _ _ _ storeOffset]
  split
  · rename_i readable
    exact cons readable (onRest readable)
  · rename_i unreadable
    exact stuck (Bool.eq_false_of_not_eq_true unreadable) rfl

/-- A field of several units that is skipped. -/
theorem advanceMul {nUnits nUnitBytes width : Nat} {rest : Scan → Scan} {scan : Scan}
    (here : scan.offset = offset) (width_eq : nUnits * nUnitBytes = width)
    (onRest : canRead payload offset width = true →
      Rests payload (offset + width) widths complete
        (rest ((scan.note (.product nUnits nUnitBytes width)).moved width))) :
    Rests payload offset (width :: widths) complete
      (orBreak (DeviceProperties.advanceMul payload scan nUnits nUnitBytes) rest) := by
  subst here width_eq
  cases readable : canRead payload scan.offset (nUnits * nUnitBytes) with
  | true =>
      rw [advanceMul_of_canRead payload scan _ _ readable]
      exact cons readable (onRest readable)
  | false =>
      rcases advanceMul_of_not_canRead payload scan _ _ readable with unchanged | noted
      · rw [unchanged]
        exact stuck readable rfl
      · rw [noted]
        exact stuck readable rfl

end Rests

/-- What the switch leaves behind for the form once it has skipped a whole body. -/
def Body.Kept (body : Body) (after : Scan) : Prop :=
  after.sizeofType = body.formWidth ∧ after.currentValue = body.recordedValue

variable {stream : List UInt8} {scan : Scan}

theorem scalarCase_rests {type : IntegerType} {read : Nat → UInt64}
    {defaultValue currentValue : Bytes type.size} {form : Form type.size}
    (reads : ∀ offset, (read offset).toNat = readBuf payload type.size offset)
    (unread : Unread payload scan.offset
      (defaultValue.val ++ (currentValue.val ++ stream))) :
    Rests payload scan.offset [type.size, type.size]
      (Body.scalar type defaultValue currentValue form).Kept
      (scalarCase payload type.size read scan) := by
  unfold scalarCase
  refine Rests.load (by rfl) (by intro _; rfl) fun first => ?_
  have next := unread.skip defaultValue.property first
  refine Rests.load (by rfl) (by intro _; rfl) fun second => ?_
  refine Rests.nil (by rfl) ⟨rfl, ?_⟩
  have value := next.readBuf currentValue.property second
  change read (scan.offset + type.size) = UInt64.ofNat (LittleEndian.toNat currentValue.val)
  apply UInt64.toNat.inj
  have small : LittleEndian.toNat currentValue.val < 2 ^ 64 := by
    have below := readBuf_lt payload type.size (scan.offset + type.size)
    rw [value] at below
    cases type <;> exact Nat.lt_of_lt_of_le below (by decide)
  rw [reads, value, UInt64.toNat_ofNat_of_lt' small]

theorem stringCase_rests {defaultValue currentValue : Counted 1 2}
    (fresh : scan.sizeofType = 0 ∧ scan.currentValue = 0)
    (unread : Unread payload scan.offset
      (defaultValue.count ++ (defaultValue.values ++
        (currentValue.count ++ (currentValue.values ++ stream))))) :
    Rests payload scan.offset
      [1, defaultValue.values.length, 1, currentValue.values.length]
      (Body.string defaultValue currentValue).Kept (stringCase payload scan) := by
  unfold stringCase
  refine Rests.load (by rfl) (by intro _; rfl) fun first => ?_
  have values := unread.skip defaultValue.length_count first
  have count := unread.readBuf defaultValue.length_count first
  refine Rests.advanceMul (by rfl) ?_ fun skipped => ?_
  · change (readU8Buf payload scan.offset).toNat * 2 = _
    rw [readU8Buf_toNat, count, Counted.toNat_count, Counted.length_values]
  have counts := values.skip rfl skipped
  refine Rests.load (by rfl) (by intro _; rfl) fun second => ?_
  have count := counts.readBuf currentValue.length_count second
  refine Rests.advanceMul (by rfl) ?_ fun last => ?_
  · change (readU8Buf payload (scan.offset + 1 + defaultValue.values.length)).toNat * 2 = _
    rw [readU8Buf_toNat, count, Counted.toNat_count, Counted.length_values]
  exact Rests.nil (by rfl) fresh

/-- The count of an array, converted to `size_t`, is the number of its elements. -/
theorem castSize_count {width offset : Nat} {list : Counted 4 width}
    (count : readBuf payload 4 offset = LittleEndian.toNat list.count) :
    castSize sizeT (readU32Buf payload offset).toUInt64 * width = list.values.length := by
  rw [castSize_toUInt64, UInt32.toNat_toUInt64, readU32Buf_toNat, count, Counted.toNat_count,
    Counted.length_values]

theorem arrayCase_rests {type : IntegerType} {defaultValue currentValue : Counted 4 type.size}
    (unread : Unread payload scan.offset
      (defaultValue.count ++ (defaultValue.values ++
        (currentValue.count ++ (currentValue.values ++ stream))))) :
    Rests payload scan.offset
      [4, defaultValue.values.length, 4, currentValue.values.length]
      (Body.array type defaultValue currentValue).Kept (arrayCase payload type.size scan) := by
  unfold arrayCase
  refine Rests.load (by rfl) (by intro _; rfl) fun first => ?_
  have values := unread.skip defaultValue.length_count first
  have count := unread.readBuf defaultValue.length_count first
  refine Rests.advanceMul (by rfl) (castSize_count count) fun skipped => ?_
  have counts := values.skip rfl skipped
  refine Rests.load (by rfl) (by intro _; rfl) fun second => ?_
  have count := counts.readBuf currentValue.length_count second
  refine Rests.advanceMul (by rfl) (castSize_count count) fun last => ?_
  refine Rests.nil (by rfl) ⟨rfl, ?_⟩
  change (readU32Buf payload (scan.offset + 4 + defaultValue.values.length)).toUInt64 =
    UInt64.ofNat currentValue.items.length
  apply UInt64.toNat.inj
  have small : currentValue.items.length < 2 ^ 64 :=
    Nat.lt_trans currentValue.fits (by decide)
  rw [UInt32.toNat_toUInt64, readU32Buf_toNat, count, Counted.toNat_count,
    UInt64.toNat_ofNat_of_lt' small]

/-- The switch skips the fields of a body as far as they fit, whatever its data type. -/
theorem dataTypeSwitch_rests {body : Body} (fresh : scan.sizeofType = 0 ∧ scan.currentValue = 0)
    (unread : Unread payload scan.offset (body.fields.flatten ++ stream)) :
    ∃ after, dataTypeSwitch payload body.dataType scan = some after ∧
      Rests payload scan.offset body.fieldWidths body.Kept after := by
  cases body with
  | scalar type defaultValue currentValue form =>
      have widths : (Body.scalar type defaultValue currentValue form).fieldWidths =
          [type.size, type.size] := by
        simp [Body.fieldWidths, Body.fields, defaultValue.property, currentValue.property]
      rw [widths]
      simp only [Body.fields, List.flatten_cons, List.flatten_nil, List.append_nil,
        List.append_assoc] at unread
      cases type with
      | int8 | uint8 => exact ⟨_, rfl, scalarCase_rests readU8Buf_toNat unread⟩
      | int16 | uint16 => exact ⟨_, rfl, scalarCase_rests readU16Buf_toNat unread⟩
      | int32 | uint32 => exact ⟨_, rfl, scalarCase_rests readU32Buf_toNat unread⟩
      | int64 | uint64 => exact ⟨_, rfl, scalarCase_rests readU64Buf_toNat unread⟩
  | string defaultValue currentValue =>
      simp only [Body.fields, List.flatten_cons, List.flatten_nil, List.append_nil,
        List.append_assoc] at unread
      have rests := stringCase_rests fresh unread
      refine ⟨_, rfl, ?_⟩
      simpa [Body.fieldWidths, Body.fields] using rests
  | array type defaultValue currentValue =>
      simp only [Body.fields, List.flatten_cons, List.flatten_nil, List.append_nil,
        List.append_assoc] at unread
      have rests := arrayCase_rests unread
      refine ⟨arrayCase payload type.size scan, ?_, ?_⟩
      · cases type <;> rfl
      · simpa [Body.fieldWidths, Body.fields] using rests

/-! ## The form -/

/-- A piece of the form handling that takes `width` bytes and goes on with `rest` when
they are there, and leaves the loop when they are not.  It reads counts only. -/
def Takes (payload : ByteVector sizeT) (scan : Scan) (width : Nat) (rest : Scan → Flow)
    (flow : Flow) : Prop :=
  ∃ after, Advances payload (· = .count) scan after ∧
    if canRead payload scan.offset width then
      flow = rest after ∧ after.offset = scan.offset + width ∧
        after.sizeofType = scan.sizeofType ∧ after.currentValue = scan.currentValue
    else
      flow = .exit after

namespace Takes

variable {width : Nat} {rest : Scan → Flow} {flow : Flow}

theorem nothing (inside : scan.offset ≤ payload.size) :
    Takes payload scan 0 rest (rest scan) := by
  refine ⟨scan, Advances.refl scan, ?_⟩
  rw [if_pos ((canRead_iff payload _ _).mpr inside)]
  exact ⟨rfl, rfl, rfl, rfl⟩

theorem advanceMul (scan : Scan) (rest : Scan → Flow) {nUnits nUnitBytes width : Nat}
    (width_eq : nUnits * nUnitBytes = width) :
    Takes payload scan width rest
      (orExit (DeviceProperties.advanceMul payload scan nUnits nUnitBytes) rest) := by
  subst width_eq
  refine ⟨_, Advances.advanceMul scan nUnits nUnitBytes, ?_⟩
  cases readable : canRead payload scan.offset (nUnits * nUnitBytes) with
  | true =>
      rw [advanceMul_of_canRead payload scan _ _ readable]
      exact ⟨rfl, rfl, rfl, rfl⟩
  | false =>
      rcases advanceMul_of_not_canRead payload scan _ _ readable with unchanged | noted
      · rw [unchanged]
        rfl
      · rw [noted]
        rfl

/-- Two pieces one after the other. -/
theorem trans {width' : Nat} {rest' : Scan → Flow}
    (first : Takes payload scan width rest flow)
    (second : ∀ next, canRead payload scan.offset width = true →
      next.offset = scan.offset + width → next.sizeofType = scan.sizeofType →
      Takes payload next width' rest' (rest next)) :
    Takes payload scan (width + width') rest' flow := by
  rcases first with ⟨middle, reached, cases⟩
  cases readable : canRead payload scan.offset width with
  | false =>
      have short : canRead payload scan.offset (width + width') = false := by
        rw [canRead_eq_false_iff] at readable ⊢
        omega
      simp only [readable, Bool.false_eq_true, if_false] at cases
      refine ⟨middle, reached, ?_⟩
      simp only [short, Bool.false_eq_true, if_false]
      exact cases
  | true =>
      simp only [readable, if_true] at cases
      rcases cases with ⟨flowEq, offset, sizeofType, currentValue⟩
      rcases second middle readable offset sizeofType with ⟨after, onward, cases'⟩
      refine ⟨after, reached.trans onward, ?_⟩
      have within := (canRead_iff payload _ _).mp readable
      have same : canRead payload middle.offset width' =
          canRead payload scan.offset (width + width') := by
        rw [Bool.eq_iff_iff, canRead_iff, canRead_iff, offset]
        omega
      rw [same, offset, sizeofType, currentValue, Nat.add_assoc] at cases'
      rw [flowEq]
      exact cases'

end Takes

theorem enumerationList_takes {width : Nat} (list : Counted 2 width) (rest : Scan → Flow)
    (sizeofType : scan.sizeofType = width)
    (unread : Unread payload scan.offset (list.count ++ stream)) :
    Takes payload scan (2 + list.values.length) rest (enumerationList payload scan rest) := by
  unfold enumerationList
  split
  · rename_i readable
    have count := unread.readBuf list.length_count readable
    have counted : Takes payload scan 2
        (fun scan => orExit (DeviceProperties.advanceMul payload scan list.items.length width) rest)
        (orExit
          (DeviceProperties.advanceMul payload (scan.fetched .count 2) list.items.length width)
          rest) := by
      refine ⟨scan.fetched .count 2, Advances.fetched scan rfl readable, ?_⟩
      rw [if_pos readable]
      exact ⟨rfl, rfl, rfl, rfl⟩
    have values := counted.trans fun next _ _ _ =>
      Takes.advanceMul next rest list.length_values.symm
    rw [orExit_advance]
    simp only [Scan.note_offset, readable, if_true]
    have number : (readU16Buf payload scan.offset).toNat = list.items.length := by
      rw [readU16Buf_toNat, count, Counted.toNat_count]
    rw [number]
    change Takes payload scan _ rest
      (orExit (DeviceProperties.advanceMul payload (scan.fetched .count 2) _ scan.sizeofType) rest)
    rw [sizeofType]
    exact values
  · rename_i unreadable
    refine ⟨scan, Advances.refl scan, ?_⟩
    have short : canRead payload scan.offset (2 + list.values.length) = false := by
      rw [canRead_iff] at unreadable
      rw [canRead_eq_false_iff]
      omega
    rw [short]
    rfl

/-- The entry recorded at the end of an iteration that began at `start`. -/
def commit (start : Nat) (propertyCode : UInt16) (scan : Scan) : Flow :=
  .next propertyCode (scan.note (.record start scan.offset propertyCode scan.currentValue))

/-- A form is read behind its flag, and the entry is recorded if it is complete. -/
theorem formPart_takes {width : Nat} (start : Nat) (propertyCode : UInt16) {form : Form width}
    (sizeofType : scan.sizeofType = width)
    (unread : Unread payload scan.offset (form.encode ++ stream))
    (readable : canRead payload scan.offset 1 = true) :
    Takes payload (scan.fetched .formFlag 1) form.tail.length (commit start propertyCode)
      (formPart payload start propertyCode scan) := by
  have oneByte : Unread payload scan.offset ([form.formFlag] ++ (form.tail ++ stream)) := unread
  have tail := oneByte.skip (by rfl) readable
  have flag : readU8Buf payload scan.offset = form.formFlag := by
    apply UInt8.toNat.inj
    rw [readU8Buf_toNat, oneByte.readBuf (by rfl) readable]
    simp
  subst sizeofType
  have unfolded : formPart payload start propertyCode scan =
      if form.formFlag = 0x01 then
        orExit (advanceMul payload (scan.fetched .formFlag 1) 3 scan.sizeofType)
          (commit start propertyCode)
      else if form.formFlag = 0 then
        commit start propertyCode (scan.fetched .formFlag 1)
      else
        enumerationList payload (scan.fetched .formFlag 1) fun scan =>
        enumerationList payload scan (commit start propertyCode) := by
    unfold formPart
    simp only [load, readable, if_true, id_eq, orExit_advance, Scan.note_offset, flag]
    rfl
  rw [unfolded]
  cases form with
  | none =>
      have inside := (canRead_iff payload _ _).mp readable
      exact Takes.nothing inside
  | range minimum maximum step =>
      refine Takes.advanceMul _ _ ?_
      simp only [Form.tail, List.length_append, minimum.property, maximum.property, step.property]
      omega
  | enumeration formFlag notNone notRange first second =>
      simp only [Form.formFlag, notNone, notRange, if_false]
      simp only [Form.tail, List.append_assoc] at tail
      simp only [Form.tail, List.length_append, Counted.length_count]
      have taken := enumerationList_takes first
        (fun scan => enumerationList payload scan (commit start propertyCode))
        (scan.fetched_sizeofType .formFlag 1) tail
      refine taken.trans fun next whole offset nextSize => ?_
      have listLength : (first.count ++ first.values).length = 2 + first.values.length := by
        rw [List.length_append, Counted.length_count]
      rw [← List.append_assoc] at tail
      have counts := tail.skip listLength whole
      rw [← scan.fetched_offset .formFlag, ← offset] at counts
      exact enumerationList_takes second _ nextSize counts

/-- The state before the data type switch: the header has been read and skipped. -/
def headerRead (scan : Scan) : Scan :=
  ((((entered scan).fetched .code 2).fetched .dataType 2).moved 1).moved 1

/-- Without a whole header left the loop ends, and nothing has been read. -/
theorem loopBody_of_not_canRead (unreadable : canRead payload scan.offset 6 = false) :
    loopBody payload scan = .exit (entered scan) := by
  simp [loopBody, unreadable, entered]

/-- On a readable header the iteration is the form handling after the switch. -/
theorem loopBody_record {record : Record}
    (unread : Unread payload scan.offset
      (record.header ++ (record.body.fields.flatten ++ stream)))
    (readable : canRead payload scan.offset 6 = true) :
    ∃ after, Advances payload Use.ofData (headerRead scan) after ∧
      Rests payload (scan.offset + 6) record.body.fieldWidths record.body.Kept after ∧
      loopBody payload scan = formPart payload scan.offset record.propertyCode after := by
  have within := (canRead_iff payload _ _).mp readable
  have fits (offset nBytes : Nat) (bound : offset + nBytes ≤ scan.offset + 6) :
      canRead payload offset nBytes = true :=
    (canRead_iff payload _ _).mpr (by omega)
  have body := unread.skip record.length_header readable
  simp only [Record.header, List.append_assoc] at unread
  have codeReadable := fits scan.offset 2 (by omega)
  have typeReadable := fits (scan.offset + 2) 2 (by omega)
  have code : readU16Buf payload scan.offset = record.propertyCode := by
    apply UInt16.toNat.inj
    rw [readU16Buf_toNat, unread.readBuf (by simp) codeReadable,
      LittleEndian.toNat_ofNat_of_lt record.propertyCode.toNat_lt]
  have next := unread.skip (LittleEndian.length_ofNat 2 _) codeReadable
  have dataType : readU16Buf payload (scan.offset + 2) = record.body.dataType := by
    apply UInt16.toNat.inj
    rw [readU16Buf_toNat, next.readBuf (by simp) typeReadable,
      LittleEndian.toNat_ofNat_of_lt record.body.dataType.toNat_lt]
  have skipped : ∃ after,
      dataTypeSwitch payload record.body.dataType (headerRead scan) = some after ∧
      Rests payload (scan.offset + 6) record.body.fieldWidths record.body.Kept after :=
    dataTypeSwitch_rests ⟨rfl, rfl⟩ body
  rcases skipped with ⟨after, switched, rests⟩
  refine ⟨after, dataTypeSwitch_advances switched, rests, ?_⟩
  have first := fits (scan.offset + 2 + 2) 1 (by omega)
  have second := fits (scan.offset + 2 + 2 + 1) 1 (by omega)
  unfold loopBody
  simp only [readable, codeReadable, typeReadable, first, second, if_true, orExit_advance,
    Scan.note_offset, Scan.moved_offset, code, dataType]
  simp only [headerRead, entered, Scan.fetched, Scan.moved_offset, Scan.note_offset] at switched
  rw [switched]

end SimpleCamCtrl.DeviceProperties
