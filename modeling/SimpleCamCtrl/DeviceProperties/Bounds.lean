import SimpleCamCtrl.DeviceProperties.Steps
import Mathlib.Tactic.SplitIfs

/-!
# Bounds and progress of the parser

On every payload the parser reads inside the payload, never moves back and never
wraps an offset, although the record count, the array counts and the string
lengths are untrusted.  The loop is bounded by the payload and not only by the
announced record count.
-/

namespace SimpleCamCtrl.DeviceProperties

variable {sizeT : SizeT} {payload : ByteVector sizeT}

/-- Uses of the bytes read inside the data type switch. -/
def Use.ofData (use : Use) : Prop := use = .value ∨ use = .count

theorem Use.ofData_value : Use.ofData .value := Or.inl rfl

theorem Use.ofData_count : Use.ofData .count := Or.inr rfl

theorem scalarCase_advances (width : Nat) (read : Nat → UInt64) (scan : Scan) :
    Advances payload Use.ofData scan (scalarCase payload width read scan) := by
  have body : Advances payload Use.ofData { scan with sizeofType := width }
      (scalarCase payload width read scan) := by
    unfold scalarCase
    refine Advances.orBreak_load Use.ofData_value (by intro _; rfl) (by intro _; rfl) ?_
    intro first
    refine first.trans ?_
    refine Advances.orBreak_load Use.ofData_value (by intro _; rfl) (by intro _; rfl) ?_
    intro second
    exact second
  exact ⟨body.forward, body.inside, body.added⟩

theorem stringCase_advances (scan : Scan) :
    Advances payload Use.ofData scan (stringCase payload scan) := by
  unfold stringCase
  refine Advances.orBreak_load Use.ofData_count (by intro _; rfl) (by intro _; rfl) fun first => ?_
  refine Advances.orBreak_advanceMul first fun next sofar => ?_
  refine sofar.trans ?_
  refine Advances.orBreak_load Use.ofData_count (by intro _; rfl) (by intro _; rfl) fun second => ?_
  exact Advances.orBreak_advanceMul second fun last reached => reached

theorem arrayCase_advances (unitBytes : Nat) (scan : Scan) :
    Advances payload Use.ofData scan (arrayCase payload unitBytes scan) := by
  have body : Advances payload Use.ofData { scan with sizeofType := 0 }
      (arrayCase payload unitBytes scan) := by
    unfold arrayCase
    refine Advances.orBreak_load Use.ofData_count (by intro _; rfl) (by intro _; rfl) ?_
    intro first
    refine Advances.orBreak_advanceMul (first.cast (readU32Buf payload _)) fun next sofar => ?_
    refine sofar.trans ?_
    refine Advances.orBreak_load Use.ofData_count (by intro _; rfl) (by intro _; rfl) ?_
    intro second
    refine Advances.orBreak_advanceMul (second.cast (readU32Buf payload _)) ?_
    intro last reached
    exact reached
  exact ⟨body.forward, body.inside, body.added⟩

/-- A case of the switch that is taken, or the cases after it. -/
theorem eq_or_of_ite_eq_some {case : Prop} [Decidable case] {taken after : Scan}
    {others : Option Scan} (switched : (if case then some taken else others) = some after) :
    after = taken ∨ others = some after := by
  by_cases isCase : case
  · rw [if_pos isCase] at switched
    exact Or.inl (Option.some.inj switched).symm
  · rw [if_neg isCase] at switched
    exact Or.inr switched

/-- Every case of the switch is a scalar, a string or an array case. -/
theorem dataTypeSwitch_cases {dataType : UInt16} {scan after : Scan}
    (switched : dataTypeSwitch payload dataType scan = some after) :
    (∃ width read, after = scalarCase payload width read scan) ∨
      after = stringCase payload scan ∨
      ∃ unitBytes, after = arrayCase payload unitBytes scan := by
  unfold dataTypeSwitch at switched
  rcases eq_or_of_ite_eq_some switched with int8 | switched
  · exact Or.inl ⟨_, _, int8⟩
  rcases eq_or_of_ite_eq_some switched with int16 | switched
  · exact Or.inl ⟨_, _, int16⟩
  rcases eq_or_of_ite_eq_some switched with int32 | switched
  · exact Or.inl ⟨_, _, int32⟩
  rcases eq_or_of_ite_eq_some switched with int64 | switched
  · exact Or.inl ⟨_, _, int64⟩
  rcases eq_or_of_ite_eq_some switched with str | switched
  · exact Or.inr (Or.inl str)
  rcases eq_or_of_ite_eq_some switched with aint8 | switched
  · exact Or.inr (Or.inr ⟨_, aint8⟩)
  rcases eq_or_of_ite_eq_some switched with aint16 | switched
  · exact Or.inr (Or.inr ⟨_, aint16⟩)
  rcases eq_or_of_ite_eq_some switched with aint32 | switched
  · exact Or.inr (Or.inr ⟨_, aint32⟩)
  rcases eq_or_of_ite_eq_some switched with aint64 | switched
  · exact Or.inr (Or.inr ⟨_, aint64⟩)
  · cases switched

/-- Whatever the data type, the switch only moves forward inside the payload. -/
theorem dataTypeSwitch_advances {dataType : UInt16} {scan after : Scan}
    (switched : dataTypeSwitch payload dataType scan = some after) :
    Advances payload Use.ofData scan after := by
  rcases dataTypeSwitch_cases switched with
    ⟨width, read, rfl⟩ | rfl | ⟨unitBytes, rfl⟩
  · exact scalarCase_advances width read scan
  · exact stringCase_advances scan
  · exact arrayCase_advances unitBytes scan

/-- Outcome of an iteration that began at `start`: it advances from `before` and
either leaves the loop or records one entry, at least seven bytes further on. -/
def Progresses (payload : ByteVector sizeT) (uses : Use → Prop) (start : Nat)
    (before : Scan) (flow : Flow) : Prop :=
  ∃ after, Advances payload uses before after ∧
    (flow = .exit after ∨
      ∃ propertyCode, start + 7 ≤ after.offset ∧
        flow = .next propertyCode
          (after.note (.record start after.offset propertyCode after.currentValue)))

namespace Progresses

variable {uses : Use → Prop} {start : Nat} {before middle : Scan}

theorem exit (sofar : Advances payload uses before middle) :
    Progresses payload uses start before (.exit middle) :=
  ⟨middle, sofar, Or.inl rfl⟩

theorem next (sofar : Advances payload uses before middle) (propertyCode : UInt16)
    (far : start + 7 ≤ middle.offset) :
    Progresses payload uses start before
      (.next propertyCode
        (middle.note (.record start middle.offset propertyCode middle.currentValue))) :=
  ⟨middle, sofar, Or.inr ⟨propertyCode, far, rfl⟩⟩

theorem orExit_advanceMul {nUnits nUnitBytes : Nat} {rest : Scan → Flow}
    (sofar : Advances payload uses before middle)
    (onRest : ∀ next, Advances payload uses middle next →
      Progresses payload uses start before (rest next)) :
    Progresses payload uses start before
      (orExit (advanceMul payload middle nUnits nUnitBytes) rest) := by
  have skipped : Advances payload uses middle _ :=
    Advances.advanceMul middle nUnits nUnitBytes
  unfold orExit
  split
  · exact onRest _ skipped
  · exact exit (sofar.trans skipped)

/-- A skip of bytes known to be readable. -/
theorem orExit_advance {nBytes : Nat} {rest : Scan → Flow}
    (readable : canRead payload middle.offset nBytes = true)
    (onRest : Progresses payload uses start before (rest (middle.moved nBytes))) :
    Progresses payload uses start before
      (orExit (advance payload middle nBytes) rest) := by
  simpa [orExit, advance_eq, readable] using onRest

theorem enumerationList {rest : Scan → Flow} (counts : uses .count)
    (sofar : Advances payload uses before middle)
    (onRest : ∀ next, Advances payload uses middle next →
      Progresses payload uses start before (rest next)) :
    Progresses payload uses start before (enumerationList payload middle rest) := by
  unfold DeviceProperties.enumerationList
  split
  · rename_i readable
    have fetched : Advances payload uses middle (middle.fetched .count 2) :=
      Advances.fetched middle counts readable
    refine orExit_advance readable ?_
    refine orExit_advanceMul (sofar.trans fetched) fun next skipped => ?_
    exact onRest next (fetched.trans skipped)
  · exact exit sofar

theorem trans {flow : Flow} (first : Advances payload uses before middle)
    (second : Progresses payload uses start middle flow) :
    Progresses payload uses start before flow := by
  rcases second with ⟨after, onward, outcome⟩
  exact ⟨after, first.trans onward, outcome⟩

theorem mono {uses' : Use → Prop} {flow : Flow}
    (progresses : Progresses payload uses start before flow)
    (implies : ∀ use, uses use → uses' use) :
    Progresses payload uses' start before flow := by
  rcases progresses with ⟨after, advances, outcome⟩
  exact ⟨after, advances.mono implies, outcome⟩

end Progresses

/-- Without a byte left for the form flag the loop ends. -/
theorem formPart_of_not_canRead {start : Nat} {propertyCode : UInt16} {scan : Scan}
    (unreadable : canRead payload scan.offset 1 = false) :
    formPart payload start propertyCode scan = .exit scan := by
  simp [formPart, load, orExit, advance_eq, unreadable]

/-- Behind the form flag only counts are read. -/
theorem formPart_progresses_of_canRead {start : Nat} {scan : Scan} (propertyCode : UInt16)
    (readable : canRead payload scan.offset 1 = true) (far : start + 6 ≤ scan.offset) :
    Progresses payload (· = .count) start (scan.fetched .formFlag 1)
      (formPart payload start propertyCode scan) := by
  unfold formPart
  simp only [load, readable, if_true, id_eq, orExit_advance, Scan.note_offset]
  have passed : start + 7 ≤ (scan.fetched .formFlag 1).offset := by
    simp only [Scan.fetched_offset]
    omega
  have flagged : Advances payload (· = .count) (scan.fetched .formFlag 1)
      (scan.fetched .formFlag 1) := Advances.refl _
  split
  · refine Progresses.orExit_advanceMul flagged fun next skipped => ?_
    exact Progresses.next skipped propertyCode (Nat.le_trans passed skipped.forward)
  · split
    · exact Progresses.next flagged propertyCode passed
    · refine Progresses.enumerationList rfl flagged fun first left => ?_
      refine Progresses.enumerationList rfl left fun second right => ?_
      exact Progresses.next (left.trans right) propertyCode
        (Nat.le_trans passed (Nat.le_trans left.forward right.forward))

theorem formPart_progresses {start : Nat} {before scan : Scan} (propertyCode : UInt16)
    (sofar : Advances payload (fun _ => True) before scan) (far : start + 6 ≤ scan.offset) :
    Progresses payload (fun _ => True) start before
      (formPart payload start propertyCode scan) := by
  cases readable : canRead payload scan.offset 1 with
  | false =>
      rw [formPart_of_not_canRead readable]
      exact Progresses.exit sofar
  | true =>
      have flagged : Advances payload (fun _ => True) before (scan.fetched .formFlag 1) :=
        sofar.trans (Advances.fetched scan trivial readable)
      have behind := formPart_progresses_of_canRead propertyCode readable far
      exact Progresses.trans flagged (behind.mono fun _ _ => trivial)

/-- The state in which an iteration begins: fresh locals, and the iteration noted. -/
def entered (scan : Scan) : Scan :=
  { offset := scan.offset, log := scan.log ++ [.iteration scan.offset] }

theorem loopBody_progresses (scan : Scan) :
    Progresses payload (fun _ => True) scan.offset (entered scan)
      (loopBody payload scan) := by
  unfold loopBody
  change Progresses _ _ _ _ (if canRead payload (entered scan).offset (2 * 2 + 2) then _ else _)
  split
  · rename_i readable
    have header := (canRead_iff payload _ _).mp readable
    have codeReadable : canRead payload (entered scan).offset 2 = true :=
      (canRead_iff payload _ _).mpr (by omega)
    refine Progresses.orExit_advance codeReadable ?_
    have code : Advances payload (fun _ => True) (entered scan)
        ((entered scan).fetched .code 2) := Advances.fetched _ trivial codeReadable
    have typeReadable : canRead payload ((entered scan).fetched .code 2).offset 2 = true :=
      (canRead_iff payload _ _).mpr (by simp only [Scan.fetched_offset]; omega)
    refine Progresses.orExit_advance typeReadable ?_
    have fetched : Advances payload (fun _ => True) ((entered scan).fetched .code 2)
        (((entered scan).fetched .code 2).fetched .dataType 2) :=
      Advances.fetched _ trivial typeReadable
    have dataType := code.trans fetched
    have firstReadable :
        canRead payload (((entered scan).fetched .code 2).fetched .dataType 2).offset 1 = true :=
      (canRead_iff payload _ _).mpr (by simp only [Scan.fetched_offset]; omega)
    refine Progresses.orExit_advance firstReadable ?_
    have first := dataType.trans (Advances.moved _ firstReadable)
    have secondReadable :
        canRead payload
          ((((entered scan).fetched .code 2).fetched .dataType 2).moved 1).offset 1 = true :=
      (canRead_iff payload _ _).mpr (by
        simp only [Scan.moved_offset, Scan.fetched_offset]
        omega)
    refine Progresses.orExit_advance secondReadable ?_
    have flags := first.trans (Advances.moved _ secondReadable)
    split
    · exact Progresses.exit flags
    · rename_i after switched
      have data := dataTypeSwitch_advances switched
      refine formPart_progresses _ (flags.trans (data.mono fun _ _ => trivial)) ?_
      exact Nat.le_trans (Nat.le_of_eq rfl) data.forward
  · exact Progresses.exit (Advances.refl _)

/-! ## The record loop -/

namespace Event

def isIteration : Event → Bool
  | .iteration _ => true
  | _ => false

theorem Quiet.not_isIteration {uses : Use → Prop} {event : Event} (quiet : event.Quiet uses) :
    event.isIteration = false := by
  cases event <;> simp_all [Quiet, isIteration]

end Event

/-- What a loop that starts at `before` with `remaining` iterations left may do: move
forward inside the payload, enter an iteration for every seven bytes and once more,
and add an entry for every seven bytes. -/
structure LoopBounds (payload : ByteVector sizeT) (remaining : Nat) (out : PropertyMap)
    (before : Scan) (result : PropertyMap × Scan) : Prop where
  forward : before.offset ≤ result.2.offset
  inside : result.2.offset ≤ payload.size
  added : ∃ events, result.2.log = before.log ++ events ∧
    Stretch before.offset result.2.offset events ∧
    events.countP Event.isIteration ≤ remaining ∧
    7 * events.countP Event.isIteration ≤ result.2.offset - before.offset + 7
  entries : ∃ added, result.1.keys.card ≤ out.keys.card + added ∧ added ≤ remaining ∧
    7 * added ≤ result.2.offset - before.offset

theorem card_keys_insert_le (out : PropertyMap) (propertyCode : UInt16) (value : UInt64) :
    (out.insert propertyCode value).keys.card ≤ out.keys.card + 1 := by
  have keysEq : (out.insert propertyCode value).keys = insert propertyCode out.keys := by
    ext key
    simp [Finmap.mem_keys, Finmap.mem_insert]
  rw [keysEq]
  exact Finset.card_insert_le _ _

/-- The events of one iteration that stays quiet after being entered. -/
theorem entered_stretch {uses : Use → Prop} {scan after : Scan}
    (advances : Advances payload uses (entered scan) after) :
    ∃ events, after.log = scan.log ++ events ∧
      Stretch scan.offset after.offset events ∧
      events.countP Event.isIteration = 1 := by
  rcases advances.added with ⟨events, log, stretch, quiet⟩
  have enters : Stretch scan.offset scan.offset [Event.iteration scan.offset] :=
    Stretch.singleton ⟨Nat.le_refl _, Nat.le_refl _⟩
  refine ⟨.iteration scan.offset :: events, ?_, ?_, ?_⟩
  · simp [log, entered]
  · exact enters.append stretch (Nat.le_refl _) advances.forward
  · have noneInside : events.countP Event.isIteration = 0 := by
      rw [List.countP_eq_zero]
      intro event membership
      simp [(quiet event membership).not_isIteration]
    rw [List.countP_cons, noneInside]
    rfl

/-- One recording iteration in front of a bounded loop. -/
theorem LoopBounds.cons {remaining : Nat} {out : PropertyMap} {scan after : Scan}
    {result : PropertyMap × Scan} {propertyCode : UInt16} {events : List Event}
    (rest : LoopBounds payload remaining (out.insert propertyCode after.currentValue)
      (after.note (.record scan.offset after.offset propertyCode after.currentValue)) result)
    (far : scan.offset + 7 ≤ after.offset)
    (log : after.log = scan.log ++ events)
    (stretch : Stretch scan.offset after.offset events)
    (once : events.countP Event.isIteration = 1) :
    LoopBounds payload (remaining + 1) out scan result := by
  have forward : scan.offset ≤ after.offset := by omega
  have onward : after.offset ≤ result.2.offset := rest.forward
  have record :
      (Event.record scan.offset after.offset propertyCode after.currentValue).Within
        scan.offset after.offset :=
    ⟨Nat.le_refl _, far, Nat.le_refl _⟩
  have recorded := stretch.snoc record rfl
  refine ⟨Nat.le_trans forward onward, rest.inside, ?_, ?_⟩
  · rcases rest.added with ⟨later, laterLog, laterStretch, laterCount, laterBound⟩
    refine ⟨_, ?_, recorded.append laterStretch forward onward, ?_, ?_⟩
    · simp [laterLog, log]
    · simp only [List.countP_append, once, List.countP_singleton, Event.isIteration]
      simp
      omega
    · simp only [List.countP_append, once, List.countP_singleton, Event.isIteration]
      simp only [Scan.note_offset] at laterBound
      simp
      omega
  · rcases rest.entries with ⟨added, card, count, bound⟩
    have inserted := card_keys_insert_le out propertyCode after.currentValue
    simp only [Scan.note_offset] at bound
    exact ⟨added + 1, by omega, by omega, by omega⟩

theorem recordLoop_bounds (remaining : Nat) (out : PropertyMap) (scan : Scan)
    (inside : scan.offset ≤ payload.size) :
    LoopBounds payload remaining out scan (recordLoop payload remaining out scan) := by
  induction remaining generalizing out scan with
  | zero =>
      exact ⟨Nat.le_refl _, inside, ⟨[], by simp [recordLoop], Stretch.nil _ _, by simp, by simp⟩,
        0, by simp [recordLoop], by simp, by simp⟩
  | succ remaining ih =>
      rw [recordLoop]
      split
      · have progresses : Progresses payload (fun _ => True) scan.offset (entered scan) _ :=
          loopBody_progresses scan
        rcases progresses with ⟨after, advances, outcome⟩
        have forward : scan.offset ≤ after.offset := advances.forward
        have afterInside : after.offset ≤ payload.size := advances.inside inside
        rcases entered_stretch advances with ⟨events, log, stretch, once⟩
        rcases outcome with leaves | ⟨propertyCode, far, continues⟩
        · rw [leaves]
          exact ⟨forward, afterInside, ⟨events, log, stretch, by omega, by omega⟩,
            0, by simp, by simp, by simp⟩
        · rw [continues]
          have rest := ih (out.insert propertyCode after.currentValue)
            (after.note (.record scan.offset after.offset propertyCode after.currentValue))
            afterInside
          exact rest.cons far log stretch once
      · exact ⟨Nat.le_refl _, inside, ⟨[], by simp, Stretch.nil _ _, by simp, by simp⟩,
          0, by simp, by simp, by simp⟩

/-- The bounds of a whole parse: the log is one stretch from the length field on, and
both the iterations and the entries are limited by the bytes of the payload. -/
theorem parseRun_bounds (long : 8 ≤ payload.size) :
    Stretch 0 payload.size (parseRun payload).2 ∧
      (8 :: (parseRun payload).2.filterMap Event.target?).Pairwise (· ≤ ·) ∧
      (parseRun payload).2.countP Event.isIteration ≤
        min (readU64Buf payload 0).toNat ((payload.size - 8) / 7 + 1) ∧
      (parseRun payload).1.keys.card ≤
        min (readU64Buf payload 0).toNat ((payload.size - 8) / 7) := by
  have bounds : LoopBounds payload _ ∅ initialScan _ :=
    recordLoop_bounds (readU64Buf payload 0).toNat ∅ initialScan long
  have begins : initialScan.offset = 8 := rfl
  have inside := bounds.inside
  have notShort : ¬payload.size < 8 := by omega
  simp only [parseRun, if_neg notShort]
  rcases bounds.added with ⟨events, log, stretch, iterations, sparse⟩
  rcases bounds.entries with ⟨added, card, entries, spaced⟩
  simp only [Finmap.keys_empty, Finset.card_empty] at card
  rw [begins] at stretch sparse spaced
  rw [log]
  have lengthField : Stretch 0 8 initialScan.log :=
    Stretch.singleton ⟨Nat.le_refl _, Nat.le_refl _⟩
  have onward : Stretch 8 payload.size events :=
    ⟨fun event membership =>
      (stretch.within event membership).mono (Nat.le_refl _) inside, stretch.ordered⟩
  refine ⟨lengthField.append onward (Nat.zero_le _) long, ?_, ?_, ?_⟩
  · rw [List.filterMap_append, List.pairwise_cons]
    refine ⟨?_, stretch.ordered⟩
    intro target membership
    rcases List.mem_filterMap.mp membership with ⟨event, eventMem, moves⟩
    exact ((stretch.within event eventMem).target_mem moves).1
  · have quiet : initialScan.log.countP Event.isIteration = 0 := rfl
    rw [List.countP_append, quiet]
    omega
  · omega

/-- A payload too short for the record count gives the empty map.  On any other, for
either width of `size_t`: every read lies inside the payload, so that the zero
fallback of the `read_*_buf` helpers is never taken; every addition, product and
conversion is exact; the offset starts at 8, never decreases and never exceeds the
payload; an iteration that records an entry consumes at least seven bytes; and the
numbers of iterations and of entries are bounded by the count and by the payload. -/
theorem parseDeviceProperties_in_bounds (sizeT : SizeT) (payload : ByteVector sizeT) :
    (payload.size < 8 → parseDeviceProperties payload = ∅) ∧
    (8 ≤ payload.size →
      (∀ use offset width, .read use offset width ∈ (parseRun payload).2 →
        offset ≤ payload.size ∧ width ≤ payload.size - offset) ∧
      (∀ offset nBytes target, .move offset nBytes target ∈ (parseRun payload).2 →
        target = offset + nBytes ∧ target ≤ payload.size) ∧
      (∀ nUnits nUnitBytes nBytes, .product nUnits nUnitBytes nBytes ∈ (parseRun payload).2 →
        nBytes = nUnits * nUnitBytes) ∧
      (∀ value result, .cast value result ∈ (parseRun payload).2 → result = value) ∧
      (8 :: (parseRun payload).2.filterMap Event.target?).Pairwise (· ≤ ·) ∧
      (∀ start stop propertyCode value,
        .record start stop propertyCode value ∈ (parseRun payload).2 → start + 7 ≤ stop) ∧
      (parseRun payload).2.countP Event.isIteration ≤
        min (readU64Buf payload 0).toNat ((payload.size - 8) / 7 + 1) ∧
      (parseDeviceProperties payload).keys.card ≤
        min (readU64Buf payload 0).toNat ((payload.size - 8) / 7)) := by
  constructor
  · intro short
    simp [parseDeviceProperties, parseRun, short]
  · intro long
    rcases parseRun_bounds long with ⟨stretch, ordered, iterations, entries⟩
    refine ⟨?_, ?_, ?_, ?_, ordered, ?_, iterations, entries⟩
    · intro use offset width membership
      have within := stretch.within _ membership
      simp only [Event.Within] at within
      omega
    · intro offset nBytes target membership
      exact (stretch.within _ membership).2
    · intro nUnits nUnitBytes nBytes membership
      exact stretch.within _ membership
    · intro value result membership
      exact stretch.within _ membership
    · intro start stop propertyCode value membership
      exact (stretch.within _ membership).2.1

end SimpleCamCtrl.DeviceProperties
