import SimpleCamCtrl.DeviceProperties.Reading

/-!
# Parsing undoes encoding

On an encoded dataset the parser returns the map of its records, for every mixture of
data types and forms.  The induction is on the records; what carries it is that each
iteration comes to rest exactly where the next record begins.
-/

namespace SimpleCamCtrl.DeviceProperties

variable {sizeT : SizeT} {payload : ByteVector sizeT} {stream : List UInt8}

namespace Unread

variable {offset width : Nat}

/-- The stream is there in full when the payload ends with it. -/
theorem of_append {front back : List UInt8} (split : payload.bytes = front ++ back) :
    Unread payload front.length back := by
  refine ⟨?_, ?_⟩
  · rw [ByteVector.size, split, List.length_append]
    exact Nat.le_add_right _ _
  · rw [split, List.drop_left]

end Unread

/-- Skipping a whole body comes to rest where its form begins. -/
theorem Rests.whole {offset : Nat} {body : Body} {after : Scan}
    (rests : Rests payload offset body.fieldWidths body.Kept after)
    (readable : canRead payload offset body.fields.flatten.length = true) :
    after.offset = offset + body.fields.flatten.length ∧ body.Kept after := by
  rw [List.length_flatten] at readable ⊢
  exact ⟨rests.offset_eq.trans (fieldsEnd_of_canRead readable), rests.holds readable⟩

/-- An iteration on a whole record with any form of its width records it and stops right
behind the form. -/
theorem loopBody_form {scan : Scan} {record : Record} {form : Form record.body.formWidth}
    (unread : Unread payload scan.offset
      (record.header ++ (record.body.fields.flatten ++ (form.encode ++ stream))))
    (readable : canRead payload scan.offset
      (6 + record.body.fields.flatten.length + (1 + form.tail.length)) = true) :
    ∃ after, loopBody payload scan = .next record.propertyCode after ∧
      after.offset =
        scan.offset + (6 + record.body.fields.flatten.length + (1 + form.tail.length)) ∧
      after.currentValue = record.body.recordedValue := by
  have within := (canRead_iff payload _ _).mp readable
  have header : canRead payload scan.offset 6 = true :=
    (canRead_iff payload _ _).mpr (by omega)
  have fields : canRead payload (scan.offset + 6) record.body.fields.flatten.length = true :=
    (canRead_iff payload _ _).mpr (by omega)
  rcases loopBody_record unread header with ⟨middle, _, rests, bodyEq⟩
  rcases rests.whole fields with ⟨middleOffset, sizeofType, currentValue⟩
  have atForm := (unread.skip record.length_header header).skip rfl fields
  rw [← middleOffset] at atForm
  have flag : canRead payload middle.offset 1 = true :=
    (canRead_iff payload _ _).mpr (by omega)
  have tail : canRead payload (middle.fetched .formFlag 1).offset form.tail.length = true := by
    rw [canRead_iff, Scan.fetched_offset, middleOffset]
    omega
  rcases formPart_takes scan.offset record.propertyCode sizeofType atForm flag with
    ⟨after, _, taken⟩
  rw [if_pos tail] at taken
  rcases taken with ⟨committed, afterOffset, _, afterValue⟩
  refine ⟨_, bodyEq.trans committed, ?_, ?_⟩
  · rw [Scan.note_offset, afterOffset, Scan.fetched_offset, middleOffset]
    omega
  · rw [Scan.note_currentValue, afterValue, Scan.fetched_currentValue, currentValue]

/-- An iteration on a whole record records it and stops right behind it. -/
theorem loopBody_whole {scan : Scan} {record : Record}
    (unread : Unread payload scan.offset (record.encode ++ stream))
    (readable : canRead payload scan.offset record.encode.length = true) :
    ∃ after, loopBody payload scan = .next record.propertyCode after ∧
      after.offset = scan.offset + record.encode.length ∧
      after.currentValue = record.body.recordedValue := by
  have parts : record.encode.length =
      6 + record.body.fields.flatten.length + (1 + record.body.form.tail.length) := by
    simp only [Record.encode, Body.encode, Form.encode, List.length_append, List.length_cons,
      Record.length_header]
    omega
  rw [parts] at readable ⊢
  simp only [Record.encode, Body.encode, List.append_assoc] at unread
  exact loopBody_form unread readable

/-- What the loop has done after the iterations on a list of whole records. -/
structure Recorded (payload : ByteVector sizeT) (records : List Record) (out : PropertyMap)
    (remaining : Nat) (before after : Scan) : Prop where
  loop : recordLoop payload (records.length + remaining) out before =
    recordLoop payload remaining (records.foldl insertRecord out) after
  offset : after.offset = before.offset + (encodeRecords records).length
  added : ∃ events, after.log = before.log ++ events ∧
    Stretch before.offset after.offset events

/-- The log of an iteration that records an entry. -/
theorem loopBody_next_log {scan after : Scan} {propertyCode : UInt16}
    (bodyEq : loopBody payload scan = .next propertyCode after) :
    ∃ events, after.log = scan.log ++ events ∧ Stretch scan.offset after.offset events := by
  have progresses : Progresses payload (fun _ => True) scan.offset (entered scan)
      (loopBody payload scan) := loopBody_progresses scan
  rcases progresses with ⟨middle, advances, outcome⟩
  rcases entered_stretch advances with ⟨events, log, stretch, _⟩
  rcases outcome with exits | ⟨recordedCode, far, records⟩
  · rw [bodyEq] at exits
    cases exits
  · rw [bodyEq] at records
    cases records
    have record :
        (Event.record scan.offset middle.offset propertyCode middle.currentValue).Within
          scan.offset middle.offset :=
      ⟨Nat.le_refl _, far, Nat.le_refl _⟩
    refine ⟨_, ?_, stretch.snoc record rfl⟩
    rw [Scan.note_log, log, List.append_assoc]

/-- An iteration that records an entry hands on to the next one. -/
theorem recordLoop_next {remaining : Nat} {out : PropertyMap} {scan after : Scan}
    {propertyCode : UInt16} (more : scan.offset < payload.size)
    (bodyEq : loopBody payload scan = .next propertyCode after) :
    recordLoop payload (remaining + 1) out scan =
      recordLoop payload remaining (out.insert propertyCode after.currentValue) after := by
  rw [recordLoop, if_pos more, bodyEq]

/-- The loop records one encoded record after the other. -/
theorem recordLoop_records (records : List Record) (remaining : Nat) (out : PropertyMap)
    (scan : Scan) (unread : Unread payload scan.offset (encodeRecords records ++ stream))
    (readable : canRead payload scan.offset (encodeRecords records).length = true) :
    ∃ after, Recorded payload records out remaining scan after := by
  induction records generalizing out scan with
  | nil => exact ⟨scan, by simp, rfl, [], by simp, Stretch.nil _ _⟩
  | cons record records ih =>
      have within := (canRead_iff payload _ _).mp readable
      rw [encodeRecords_cons, List.length_append] at within
      rw [encodeRecords_cons, List.append_assoc] at unread
      have long := record.seven_le_length_encode
      have head : canRead payload scan.offset record.encode.length = true :=
        (canRead_iff payload _ _).mpr (by omega)
      rcases loopBody_whole unread head with ⟨middle, bodyEq, offset, value⟩
      rcases loopBody_next_log bodyEq with ⟨events, log, stretch⟩
      have rest := unread.skip rfl head
      rw [← offset] at rest
      rcases ih (insertRecord out record) middle rest
        ((canRead_iff payload _ _).mpr (by omega)) with ⟨after, recorded⟩
      have more : scan.offset < payload.size := by omega
      refine ⟨after, ?_, ?_, ?_⟩
      · rw [List.length_cons, Nat.add_right_comm, recordLoop_next more bodyEq, value]
        exact recorded.loop
      · rw [recorded.offset, offset, encodeRecords_cons, List.length_append, Nat.add_assoc]
      · rcases recorded.added with ⟨later, laterLog, laterStretch⟩
        refine ⟨events ++ later, ?_, stretch.append laterStretch ?_ ?_⟩
        · rw [laterLog, log, List.append_assoc]
        · rw [offset]
          exact Nat.le_add_right _ _
        · rw [recorded.offset]
          exact Nat.le_add_right _ _

/-- At the end of the payload the loop stops, whatever the count still allows. -/
theorem recordLoop_of_size_le {remaining : Nat} {out : PropertyMap} {scan : Scan}
    (ended : payload.size ≤ scan.offset) :
    recordLoop payload remaining out scan = (out, scan) := by
  cases remaining with
  | zero => rfl
  | succ remaining => rw [recordLoop, if_neg (Nat.not_lt.mpr ended)]

/-- Behind the count field the parser is the record loop. -/
theorem parseRun_of_count {count : UInt64} {dataset : List UInt8}
    (layout : payload.bytes = LittleEndian.ofNat 8 count.toNat ++ dataset) :
    Unread payload 8 dataset ∧
      parseRun payload =
        ((recordLoop payload count.toNat ∅ initialScan).1,
          (recordLoop payload count.toNat ∅ initialScan).2.log) := by
  have fieldLength := LittleEndian.length_ofNat 8 count.toNat
  have unread : Unread payload 8 dataset := by
    have behind := Unread.of_append layout
    rwa [fieldLength] at behind
  have long : ¬payload.size < 8 := Nat.not_lt.mpr unread.inside
  have field : readU64Buf payload 0 = count := by
    apply UInt64.toNat.inj
    have start : Unread payload 0 (LittleEndian.ofNat 8 count.toNat ++ dataset) := by
      have whole : payload.bytes = [] ++ payload.bytes := rfl
      rw [← layout]
      exact Unread.of_append whole
    rw [readU64Buf_toNat,
      start.readBuf fieldLength ((canRead_iff payload _ _).mpr (Nat.not_lt.mp long)),
      LittleEndian.toNat_ofNat_of_lt count.toNat_lt]
  refine ⟨unread, ?_⟩
  rw [parseRun, if_neg long, field]

/-- A dataset whose count covers all its records gives their map. -/
theorem parseDeviceProperties_of_covered {records : List Record} {count : UInt64}
    {suffix : List UInt8}
    (layout : payload.bytes =
      LittleEndian.ofNat 8 count.toNat ++ (encodeRecords records ++ suffix))
    (covered : records.length ≤ count.toNat)
    (noSuffix : records.length < count.toNat → suffix = []) :
    parseDeviceProperties payload = recordedProperties records := by
  rcases parseRun_of_count layout with ⟨unread, parsed⟩
  have sizeEq : payload.size = 8 + (encodeRecords records).length + suffix.length := by
    rw [ByteVector.size, layout]
    simp only [List.length_append, LittleEndian.length_ofNat]
    omega
  have readable : canRead payload initialScan.offset (encodeRecords records).length = true :=
    (canRead_iff payload _ _).mpr (by rw [sizeEq]; exact Nat.le_add_right _ _)
  rcases recordLoop_records records (count.toNat - records.length) ∅ initialScan unread
    readable with ⟨after, recorded⟩
  have loop := recorded.loop
  rw [Nat.add_sub_cancel' covered] at loop
  have stopped : recordLoop payload (count.toNat - records.length) (recordedProperties records)
      after = (recordedProperties records, after) := by
    rcases Nat.eq_or_lt_of_le covered with exactly | more
    · rw [exactly, Nat.sub_self]
      rfl
    · apply recordLoop_of_size_le
      rw [recorded.offset, sizeEq, noSuffix more]
      exact Nat.le_refl _
  rw [parseDeviceProperties, parsed, loop]
  exact congrArg Prod.fst stopped

/-- A dataset gives the map of its records. -/
theorem IsDataset.parseDeviceProperties_eq {records : List Record}
    (dataset : IsDataset payload records) :
    parseDeviceProperties payload = recordedProperties records := by
  have number : (UInt64.ofNat records.length).toNat = records.length :=
    UInt64.toNat_ofNat_of_lt' dataset.length_lt
  have layout : payload.bytes =
      LittleEndian.ofNat 8 (UInt64.ofNat records.length).toNat ++
        (encodeRecords records ++ []) := by
    rw [number, List.append_nil]
    exact dataset
  exact parseDeviceProperties_of_covered layout (Nat.le_of_eq number.symm) fun _ => rfl

/-- Parsing the encoding of a list of records, announced with any count and followed by
any bytes, gives the map of the records that the count covers.  Bytes behind the records
are never reached unless the count announces more records than there are. -/
theorem parseDeviceProperties_encodeRecords (payload : ByteVector sizeT)
    (records : List Record) (count : UInt64) (suffix : List UInt8)
    (layout : payload.bytes =
      LittleEndian.ofNat 8 count.toNat ++ encodeRecords records ++ suffix)
    (noSuffix : records.length < count.toNat → suffix = []) :
    parseDeviceProperties payload =
      recordedProperties (records.take (min count.toNat records.length)) := by
  rw [List.append_assoc] at layout
  rcases Nat.lt_or_ge records.length count.toNat with more | fewer
  · rw [Nat.min_eq_right (Nat.le_of_lt more), List.take_length]
    exact parseDeviceProperties_of_covered layout (Nat.le_of_lt more) noSuffix
  · have taken : (records.take count.toNat).length = count.toNat := List.length_take_of_le fewer
    have split : encodeRecords records =
        encodeRecords (records.take count.toNat) ++ encodeRecords (records.drop count.toNat) := by
      rw [← encodeRecords_append, List.take_append_drop]
    rw [Nat.min_eq_left fewer]
    rw [split, List.append_assoc] at layout
    exact parseDeviceProperties_of_covered layout (Nat.le_of_eq taken)
      fun more => (Nat.ne_of_lt more taken).elim

/-- The default value of the sample ISO properties. -/
def iso100 : Bytes 4 := ⟨[100, 0, 0, 0], rfl⟩

/-- An ISO value with an enumeration form, and a string. -/
def sampleRecords : List Record :=
  [{ propertyCode := 0xD21E, firstFlag := 1, secondFlag := 1,
     body := .scalar .uint32 iso100 ⟨[0x90, 1, 0, 0], rfl⟩
       (.enumeration 2 (by decide) (by decide)
         ⟨[iso100, ⟨[0x90, 1, 0, 0], rfl⟩], by decide⟩
         ⟨[⟨[0x90, 1, 0, 0], rfl⟩], by decide⟩) },
   { propertyCode := 0x501E, firstFlag := 0, secondFlag := 2,
     body := .string ⟨[], by decide⟩ ⟨[⟨[65, 0], rfl⟩, ⟨[0, 0], rfl⟩], by decide⟩ }]

theorem parseDeviceProperties_sampleRecords :
    parseDeviceProperties (⟨LittleEndian.ofNat 8 2 ++ encodeRecords sampleRecords ++ [0xAA, 0xBB],
        by decide⟩ : ByteVector .bits32) =
      recordedProperties (sampleRecords.take (min 2 2)) ∧
    (recordedProperties sampleRecords).lookup 0xD21E = some 400 :=
  ⟨parseDeviceProperties_encodeRecords _ sampleRecords 2 [0xAA, 0xBB] rfl (by decide),
    by decide⟩

end SimpleCamCtrl.DeviceProperties
