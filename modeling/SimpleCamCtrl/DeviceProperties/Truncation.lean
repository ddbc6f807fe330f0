import SimpleCamCtrl.DeviceProperties.RoundTrip

/-!
# Replies that end inside a record

A reply whose last record is cut off.  Outside the data type switch a field that does
not fit ends the record loop; inside the switch the same `break` leaves only the switch,
and the form handling goes on at the offset of the field that did not fit.  The cut
record is ignored exactly when no field of the switch is torn.
-/

namespace SimpleCamCtrl.DeviceProperties

variable {sizeT : SizeT} {payload : ByteVector sizeT}

/-- The parser used a byte of the payload as part of a field of the given kind. -/
def UsedAs (payload : ByteVector sizeT) (use : Use) (byte : Nat) : Prop :=
  ∃ offset width, .read use offset width ∈ (parseRun payload).2 ∧
    offset ≤ byte ∧ byte < offset + width

/-- Where the record behind `records` begins. -/
def recordStart (records : List Record) : Nat :=
  8 + (encodeRecords records).length

/-- A reply that announces more than `records` and ends inside one more `record`, of
which only the bytes `cut` are there. -/
structure CutReply (payload : ByteVector sizeT) (count : UInt64) (records : List Record)
    (record : Record) (cut : List UInt8) : Prop where
  layout : payload.bytes = LittleEndian.ofNat 8 count.toNat ++ encodeRecords records ++ cut
  announced : records.length < count.toNat
  nonempty : cut ≠ []
  beginning : cut <+: record.encode
  proper : cut.length < record.encode.length

/-- The cut record leaves no trace: no entry, no byte taken for a form flag other than
the record's own, and no byte taken for the code of another record. -/
structure IgnoresCutRecord (payload : ByteVector sizeT) (records : List Record)
    (record : Record) : Prop where
  map_eq : parseDeviceProperties payload = recordedProperties records
  formFlags : ∀ byte, recordStart records ≤ byte → UsedAs payload .formFlag byte →
    byte = recordStart records + 6 + record.body.fields.flatten.length
  codes : ∀ byte, recordStart records ≤ byte → UsedAs payload .code byte →
    byte < recordStart records + 2

/-- The first `length` bytes of a record end in its header, between two fields of the
data type switch, or behind the last of them. -/
def CleanCut (body : Body) (length : Nat) : Prop :=
  length < 6 ∨ (∃ fields, length = 6 + (body.fieldWidths.take fields).sum) ∨
    6 + body.fieldWidths.sum ≤ length

theorem fieldsEnd_le {offset : Nat} {widths : List Nat} (inside : offset ≤ payload.size) :
    fieldsEnd payload offset widths ≤ payload.size := by
  induction widths generalizing offset with
  | nil => exact inside
  | cons width widths ih =>
      rw [fieldsEnd]
      split
      · rename_i readable
        exact ih ((canRead_iff payload _ _).mp readable)
      · exact inside

/-- Fields that do not all fit are skipped to the end of the payload only when the
payload ends between two of them. -/
theorem fieldsEnd_eq_size_iff {offset : Nat} {widths : List Nat}
    (inside : offset ≤ payload.size) (short : payload.size < offset + widths.sum) :
    fieldsEnd payload offset widths = payload.size ↔
      ∃ fields, payload.size = offset + (widths.take fields).sum := by
  induction widths generalizing offset with
  | nil =>
      rw [List.sum_nil] at short
      omega
  | cons width widths ih =>
      rw [List.sum_cons] at short
      cases readable : canRead payload offset width with
      | true =>
          have within := (canRead_iff payload _ _).mp readable
          rw [fieldsEnd, if_pos readable, ih within (by omega)]
          constructor
          · intro between
            rcases between with ⟨fields, ends⟩
            refine ⟨fields + 1, ?_⟩
            rw [List.take_succ_cons, List.sum_cons, ends, Nat.add_assoc]
          · intro between
            rcases between with ⟨fields, ends⟩
            cases fields with
            | zero =>
                refine ⟨0, ?_⟩
                simp only [List.take_zero, List.sum_nil] at ends ⊢
                omega
            | succ fields =>
                refine ⟨fields, ?_⟩
                rw [List.take_succ_cons, List.sum_cons, ← Nat.add_assoc] at ends
                exact ends
      | false =>
          have beyond := (canRead_eq_false_iff payload _ _).mp readable
          have stays : fieldsEnd payload offset (width :: widths) = offset := by
            rw [fieldsEnd, readable]
            rfl
          rw [stays]
          constructor
          · intro ends
            exact ⟨0, by simpa using ends.symm⟩
          · intro between
            rcases between with ⟨fields, ends⟩
            cases fields with
            | zero => simpa using ends.symm
            | succ fields =>
                rw [List.take_succ_cons, List.sum_cons] at ends
                omega

/-! ## The last iteration -/

/-- The state in which the loop meets the cut record. -/
structure LastIteration (payload : ByteVector sizeT) (records : List Record)
    (record : Record) (cut : List UInt8) (remaining : Nat) (scan : Scan) : Prop where
  offset : scan.offset = recordStart records
  size : payload.size = scan.offset + cut.length
  unread : Unread payload scan.offset record.encode
  log : Stretch 0 scan.offset scan.log
  parsed : parseRun payload =
    ((recordLoop payload (remaining + 1) (recordedProperties records) scan).1,
      (recordLoop payload (remaining + 1) (recordedProperties records) scan).2.log)

theorem CutReply.lastIteration {count : UInt64} {records : List Record} {record : Record}
    {cut : List UInt8} (reply : CutReply payload count records record cut) :
    ∃ remaining scan, LastIteration payload records record cut remaining scan := by
  have layout := reply.layout
  rw [List.append_assoc] at layout
  rcases parseRun_of_count layout with ⟨unread, parsed⟩
  have sizeEq : payload.size = 8 + ((encodeRecords records).length + cut.length) := by
    rw [ByteVector.size, layout]
    simp only [List.length_append, LittleEndian.length_ofNat]
  have readable : canRead payload initialScan.offset (encodeRecords records).length = true := by
    rw [canRead_iff, sizeEq]
    change 8 + _ ≤ _
    omega
  rcases recordLoop_records records (count.toNat - records.length - 1 + 1) ∅ initialScan unread
    readable with ⟨scan, recorded⟩
  have offset : scan.offset = recordStart records := recorded.offset
  have loop := recorded.loop
  have announced := reply.announced
  have iterations : records.length + (count.toNat - records.length - 1 + 1) = count.toNat := by
    omega
  rw [iterations] at loop
  refine ⟨count.toNat - records.length - 1, scan, offset, ?_, ?_, ?_, ?_⟩
  · rw [offset, sizeEq, recordStart, Nat.add_assoc]
  · have behind := unread.skip rfl readable
    have atCut : Unread payload scan.offset cut := by
      rw [offset]
      exact behind
    exact ⟨atCut.inside, atCut.beginning.trans reply.beginning⟩
  · rcases recorded.added with ⟨events, log, stretch⟩
    have lengthField : Stretch 0 initialScan.offset initialScan.log :=
      Stretch.singleton ⟨Nat.le_refl _, Nat.le_refl _⟩
    rw [log]
    refine lengthField.append stretch (Nat.zero_le _) ?_
    rw [offset]
    exact Nat.le_add_right _ _
  · rw [parsed, loop]
    rfl

/-- Events that do not touch the cut record, apart from its own code and form flag. -/
def Event.Harmless (start flagOffset : Nat) : Event → Prop
  | .read .formFlag offset width => offset = flagOffset ∧ width = 1
  | .read .code offset width => offset = start ∧ width = 2
  | _ => True

theorem Event.Quiet.harmless {uses : Use → Prop} {start flagOffset : Nat} {event : Event}
    (quiet : event.Quiet uses) (others : ∀ use, uses use → use ≠ .formFlag ∧ use ≠ .code) :
    event.Harmless start flagOffset := by
  cases event with
  | read use offset width =>
      have other := others use quiet
      cases use with
      | formFlag => exact (other.1 rfl).elim
      | code => exact (other.2 rfl).elim
      | length | dataType | value | count => trivial
  | move _ _ _ | cast _ _ | product _ _ _ | iteration _ | record _ _ _ _ => trivial

/-- Offset of the form flag of the record behind `records`. -/
def flagOffset (records : List Record) (record : Record) : Nat :=
  recordStart records + 6 + record.body.fields.flatten.length

section LastIteration

variable {records : List Record} {record : Record} {cut : List UInt8} {remaining : Nat}
variable {scan : Scan}

/-- Leaving the loop with harmless events only ignores the cut record. -/
theorem LastIteration.ignores_of_exit {after : Scan} (events : List Event)
    (last : LastIteration payload records record cut remaining scan)
    (exits : loopBody payload scan = .exit after) (log : after.log = scan.log ++ events)
    (harmless : ∀ event ∈ events,
      event.Harmless (recordStart records) (flagOffset records record))
    (nonempty : cut ≠ []) :
    IgnoresCutRecord payload records record := by
  have more : scan.offset < payload.size := by
    have positive := List.length_pos_of_ne_nil nonempty
    rw [last.size]
    omega
  have result : parseRun payload = (recordedProperties records, after.log) := by
    rw [last.parsed, recordLoop, if_pos more, exits]
  -- A byte of the cut record was used after the iteration began.
  have newUse (use : Use) (byte : Nat) (behind : recordStart records ≤ byte)
      (used : UsedAs payload use byte) :
      ∃ offset width, Event.read use offset width ∈ events ∧ offset ≤ byte ∧
        byte < offset + width := by
    rcases used with ⟨offset, width, membership, low, high⟩
    rw [result, log] at membership
    rcases List.mem_append.mp membership with old | new
    · have within := last.log.within _ old
      simp only [Event.Within, last.offset] at within
      omega
    · exact ⟨offset, width, new, low, high⟩
  refine ⟨?_, ?_, ?_⟩
  · rw [parseDeviceProperties, result]
  · intro byte behind used
    rcases newUse _ byte behind used with ⟨offset, width, membership, low, high⟩
    have own := harmless _ membership
    simp only [Event.Harmless, flagOffset] at own
    omega
  · intro byte behind used
    rcases newUse _ byte behind used with ⟨offset, width, membership, low, high⟩
    have own := harmless _ membership
    simp only [Event.Harmless] at own
    omega

/-- The events of an iteration up to the data type switch. -/
def headerEvents (offset : Nat) : List Event :=
  [.iteration offset, .read .code offset 2, .move offset 2 (offset + 2),
    .read .dataType (offset + 2) 2, .move (offset + 2) 2 (offset + 4),
    .move (offset + 4) 1 (offset + 5), .move (offset + 5) 1 (offset + 6)]

theorem headerRead_log (scan : Scan) :
    (headerRead scan).log = scan.log ++ headerEvents scan.offset := by
  simp [headerRead, entered, Scan.fetched, headerEvents]

theorem headerEvents_harmless {offset flagOffset : Nat} {event : Event}
    (membership : event ∈ headerEvents offset) : event.Harmless offset flagOffset := by
  simp only [headerEvents, List.mem_cons, List.not_mem_nil, or_false] at membership
  rcases membership with rfl | rfl | rfl | rfl | rfl | rfl | rfl <;> simp [Event.Harmless]

theorem Use.ofData_harmless {use : Use} (ofData : Use.ofData use) :
    use ≠ .formFlag ∧ use ≠ .code := by
  rcases ofData with rfl | rfl <;> decide

/-- The events of an iteration up to the form, when they are harmless. -/
theorem switch_log {after : Scan} (advances : Advances payload Use.ofData (headerRead scan) after)
    (flagOffset : Nat) :
    ∃ events, after.log = scan.log ++ events ∧
      ∀ event ∈ events, event.Harmless scan.offset flagOffset := by
  rcases advances.added with ⟨events, log, _, quiet⟩
  refine ⟨headerEvents scan.offset ++ events, ?_, ?_⟩
  · rw [log, headerRead_log, List.append_assoc]
  · intro event membership
    rcases List.mem_append.mp membership with inHeader | inSwitch
    · exact headerEvents_harmless inHeader
    · exact (quiet event inSwitch).harmless fun use => Use.ofData_harmless

/-- A cut inside the header: the loop ends without reading it. -/
theorem LastIteration.ignores_of_header
    (last : LastIteration payload records record cut remaining scan)
    (nonempty : cut ≠ []) (short : cut.length < 6) :
    IgnoresCutRecord payload records record := by
  have unreadable : canRead payload scan.offset 6 = false := by
    rw [canRead_eq_false_iff, last.size]
    omega
  have exits := loopBody_of_not_canRead unreadable
  refine last.ignores_of_exit [.iteration scan.offset] exits rfl ?_ nonempty
  intro event membership
  rw [List.mem_singleton.mp membership]
  trivial

/-- Behind the header, the iteration is the form handling wherever the switch stopped. -/
theorem LastIteration.switch (last : LastIteration payload records record cut remaining scan)
    (long : 6 ≤ cut.length) :
    ∃ after, Advances payload Use.ofData (headerRead scan) after ∧
      Rests payload (scan.offset + 6) record.body.fieldWidths record.body.Kept after ∧
      loopBody payload scan = formPart payload scan.offset record.propertyCode after := by
  have readable : canRead payload scan.offset 6 = true := by
    rw [canRead_iff, last.size]
    omega
  have unread := last.unread
  simp only [Record.encode, Body.encode] at unread
  exact loopBody_record unread readable

/-- A cut between two fields of the switch: there is no byte left for a form flag. -/
theorem LastIteration.ignores_of_ended
    (last : LastIteration payload records record cut remaining scan)
    (nonempty : cut ≠ []) {after : Scan}
    (advances : Advances payload Use.ofData (headerRead scan) after)
    (body : loopBody payload scan = formPart payload scan.offset record.propertyCode after)
    (ended : after.offset = payload.size) :
    IgnoresCutRecord payload records record := by
  have unreadable : canRead payload after.offset 1 = false := by
    rw [canRead_eq_false_iff]
    omega
  rw [formPart_of_not_canRead unreadable] at body
  rcases switch_log advances (flagOffset records record) with ⟨events, log, harmless⟩
  rw [last.offset] at harmless
  exact last.ignores_of_exit events body log harmless nonempty

/-- A cut behind the fields of the switch: the form flag read is the record's own, and
the missing part of the form ends the loop. -/
theorem LastIteration.ignores_of_form
    (last : LastIteration payload records record cut remaining scan)
    (nonempty : cut ≠ []) (proper : cut.length < record.encode.length)
    (long : 6 + record.body.fieldWidths.sum ≤ cut.length) :
    IgnoresCutRecord payload records record := by
  have sizeEq := last.size
  rcases last.switch (by omega) with ⟨after, advances, rests, body⟩
  have widths : record.body.fieldWidths.sum = record.body.fields.flatten.length :=
    List.length_flatten.symm
  have fields : canRead payload (scan.offset + 6) record.body.fields.flatten.length = true := by
    rw [canRead_iff, ← widths]
    omega
  rcases rests.whole fields with ⟨afterOffset, sizeofType, _⟩
  cases readable : canRead payload after.offset 1 with
  | false =>
      have beyond := (canRead_eq_false_iff payload _ _).mp readable
      exact last.ignores_of_ended nonempty advances body (by omega)
  | true =>
      have header : canRead payload scan.offset 6 = true := by
        rw [canRead_iff]
        omega
      have unread := last.unread
      simp only [Record.encode, Body.encode] at unread
      have atForm := (unread.skip record.length_header header).skip rfl fields
      rw [← afterOffset, ← List.append_nil record.body.form.encode] at atForm
      rcases formPart_takes scan.offset record.propertyCode sizeofType atForm readable with
        ⟨final, counts, taken⟩
      have incomplete : canRead payload (after.fetched .formFlag 1).offset
          record.body.form.tail.length = false := by
        rw [canRead_eq_false_iff, Scan.fetched_offset, afterOffset]
        simp only [Record.encode, Body.encode, Form.encode, List.length_append,
          List.length_cons, Record.length_header] at proper
        omega
      simp only [incomplete, Bool.false_eq_true, if_false] at taken
      rw [taken] at body
      rcases switch_log advances (flagOffset records record) with ⟨events, log, harmless⟩
      rcases counts.added with ⟨formEvents, formLog, _, quiet⟩
      rw [last.offset] at harmless
      have start := last.offset
      have own : after.offset = flagOffset records record := by
        rw [afterOffset, last.offset, flagOffset]
      refine last.ignores_of_exit (events ++ (.read .formFlag after.offset 1 ::
        .move after.offset 1 (after.offset + 1) :: formEvents)) body ?_ ?_ nonempty
      · simp [formLog, Scan.fetched, log]
      · intro event membership
        simp only [List.mem_append, List.mem_cons] at membership
        rcases membership with inSwitch | rfl | rfl | inForm
        · exact harmless event inSwitch
        · exact ⟨own, rfl⟩
        · trivial
        · refine (quiet event inForm).harmless fun use isCount => ?_
          rw [isCount]
          decide

/-- Whatever an iteration has logged is still in the log of the whole parse. -/
theorem LastIteration.mem_log (last : LastIteration payload records record cut remaining scan)
    (nonempty : cut ≠ []) {start : Nat} {uses : Use → Prop} {before : Scan} {event : Event}
    (progresses : Progresses payload uses start before (loopBody payload scan))
    (inside : before.offset ≤ payload.size) (membership : event ∈ before.log) :
    event ∈ (parseRun payload).2 := by
  have more : scan.offset < payload.size := by
    have positive := List.length_pos_of_ne_nil nonempty
    rw [last.size]
    omega
  rcases progresses with ⟨after, advances, outcome⟩
  rcases advances.added with ⟨events, log, _⟩
  have kept : event ∈ after.log := by
    rw [log]
    exact List.mem_append_left _ membership
  rw [last.parsed, recordLoop, if_pos more]
  rcases outcome with exits | ⟨propertyCode, _, continues⟩
  · rw [exits]
    exact kept
  · rw [continues]
    have rest : LoopBounds payload remaining _ _ _ :=
      recordLoop_bounds remaining
        ((recordedProperties records).insert propertyCode after.currentValue)
        (after.note (.record start after.offset propertyCode after.currentValue))
        (advances.inside inside)
    rcases rest.added with ⟨later, laterLog, _⟩
    simp only [Scan.note_currentValue]
    rw [laterLog]
    exact List.mem_append_left _ (List.mem_append_left _ kept)

/-- A torn field: the form flag is read from the middle of the record's values. -/
theorem LastIteration.not_ignores_of_torn
    (last : LastIteration payload records record cut remaining scan) (nonempty : cut ≠ [])
    (torn : ¬CleanCut record.body cut.length) :
    ¬IgnoresCutRecord payload records record := by
  intro ignores
  simp only [CleanCut, not_or, Nat.not_lt, Nat.not_le] at torn
  rcases torn with ⟨long, notBetween, short⟩
  have sizeEq := last.size
  rcases last.switch long with ⟨after, advances, rests, body⟩
  have inside : scan.offset + 6 ≤ payload.size := by omega
  have stops : after.offset ≤ payload.size := by
    rw [rests.offset_eq]
    exact fieldsEnd_le inside
  have notEnd : after.offset ≠ payload.size := by
    rw [rests.offset_eq]
    intro ends
    rcases (fieldsEnd_eq_size_iff inside (by omega)).mp ends with ⟨fields, between⟩
    exact notBetween ⟨fields, by omega⟩
  have readable : canRead payload after.offset 1 = true :=
    (canRead_iff payload _ _).mpr (by omega)
  have far : scan.offset + 6 ≤ after.offset := advances.forward
  have flagged := formPart_progresses_of_canRead record.propertyCode readable far
  rw [← body] at flagged
  have used : UsedAs payload .formFlag after.offset := by
    refine ⟨after.offset, 1, ?_, Nat.le_refl _, Nat.lt_succ_self _⟩
    refine last.mem_log nonempty flagged ((canRead_iff payload _ _).mp readable) ?_
    simp [Scan.fetched]
  have own := ignores.formFlags after.offset (by rw [← last.offset]; omega) used
  have widths : record.body.fieldWidths.sum = record.body.fields.flatten.length :=
    List.length_flatten.symm
  rw [← last.offset] at own
  omega

end LastIteration

/-- A cut-off record leaves no trace if and only if the cut tears no field of the data
type switch.  A torn field ends the switch only, and the byte at which it begins is
then taken for the form flag. -/
theorem ignoresCutRecord_iff (payload : ByteVector sizeT) (count : UInt64)
    (records : List Record) (record : Record) (cut : List UInt8)
    (reply : CutReply payload count records record cut) :
    IgnoresCutRecord payload records record ↔ CleanCut record.body cut.length := by
  rcases reply.lastIteration with ⟨remaining, scan, last⟩
  constructor
  · intro ignores
    by_contra torn
    exact last.not_ignores_of_torn reply.nonempty torn ignores
  · intro clean
    rcases clean with short | ⟨fields, between⟩ | long
    · exact last.ignores_of_header reply.nonempty short
    · rcases Nat.lt_or_ge cut.length (6 + record.body.fieldWidths.sum) with torn | long
      · have sizeEq := last.size
        rcases last.switch (by omega) with ⟨after, advances, rests, body⟩
        have ended : after.offset = payload.size := by
          rw [rests.offset_eq]
          exact (fieldsEnd_eq_size_iff (by omega) (by omega)).mpr ⟨fields, by omega⟩
        exact last.ignores_of_ended reply.nonempty advances body ended
      · exact last.ignores_of_form reply.nonempty reply.proper long
    · exact last.ignores_of_form reply.nonempty reply.proper long

/-- ISO 25600 as a `uint32` property without a form. -/
def isoRecord : Record where
  propertyCode := 0xD21E
  firstFlag := 1
  secondFlag := 1
  body := .scalar .uint32 iso100 ⟨[0, 100, 0, 0], rfl⟩ .none

/-- A reply that ends behind the first byte of the current ISO value. -/
def cutIsoReply : ByteVector .bits64 :=
  ⟨LittleEndian.ofNat 8 1 ++ isoRecord.encode.take 11, by decide⟩

/-- The cut value is not ignored: the reply is parsed to an ISO value of zero. -/
theorem cutIsoReply_invents_value :
    CutReply cutIsoReply 1 [] isoRecord (isoRecord.encode.take 11) ∧
      (parseDeviceProperties cutIsoReply).lookup 0xD21E = some 0 ∧
      ¬IgnoresCutRecord cutIsoReply [] isoRecord := by
  refine ⟨⟨rfl, by decide, by decide, List.take_prefix _ _, by decide⟩, by decide, ?_⟩
  intro ignores
  have invented : (parseDeviceProperties cutIsoReply).lookup 0xD21E ≠
      (recordedProperties []).lookup 0xD21E := by decide
  rw [ignores.map_eq] at invented
  exact invented rfl

/-- A reply that ends behind the default value is cut between two fields. -/
theorem ignoresCutRecord_between_fields :
    IgnoresCutRecord
      (⟨LittleEndian.ofNat 8 1 ++ isoRecord.encode.take 10, by decide⟩ : ByteVector .bits64)
      [] isoRecord :=
  (ignoresCutRecord_iff _ 1 [] isoRecord (isoRecord.encode.take 10)
    ⟨rfl, by decide, by decide, List.take_prefix _ _, by decide⟩).mpr
    (Or.inr (Or.inl ⟨1, by decide⟩))

end SimpleCamCtrl.DeviceProperties
