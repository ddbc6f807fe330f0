import SimpleCamCtrl.DeviceProperties.Parser

/-!
# What one parser step does

Equations for the skipping helpers without the reductions modulo `size_t`, which
never take effect, and the relation `Advances` between the states before and after
a piece of the parser.
-/

namespace SimpleCamCtrl.DeviceProperties

variable {sizeT : SizeT} (payload : ByteVector sizeT)

namespace Scan

/-- The state after a successful skip. -/
def moved (scan : Scan) (nBytes : Nat) : Scan :=
  { scan.note (.move scan.offset nBytes (scan.offset + nBytes)) with
    offset := scan.offset + nBytes }

/-- The state after reading `width` bytes for `use` and skipping them. -/
def fetched (scan : Scan) (use : Use) (width : Nat) : Scan :=
  (scan.note (.read use scan.offset width)).moved width

@[simp] theorem note_offset (scan : Scan) (event : Event) :
    (scan.note event).offset = scan.offset := rfl

@[simp] theorem note_sizeofType (scan : Scan) (event : Event) :
    (scan.note event).sizeofType = scan.sizeofType := rfl

@[simp] theorem note_currentValue (scan : Scan) (event : Event) :
    (scan.note event).currentValue = scan.currentValue := rfl

@[simp] theorem note_log (scan : Scan) (event : Event) :
    (scan.note event).log = scan.log ++ [event] := rfl

@[simp] theorem moved_offset (scan : Scan) (nBytes : Nat) :
    (scan.moved nBytes).offset = scan.offset + nBytes := rfl

@[simp] theorem moved_sizeofType (scan : Scan) (nBytes : Nat) :
    (scan.moved nBytes).sizeofType = scan.sizeofType := rfl

@[simp] theorem moved_currentValue (scan : Scan) (nBytes : Nat) :
    (scan.moved nBytes).currentValue = scan.currentValue := rfl

@[simp] theorem moved_log (scan : Scan) (nBytes : Nat) :
    (scan.moved nBytes).log =
      scan.log ++ [.move scan.offset nBytes (scan.offset + nBytes)] := rfl

@[simp] theorem fetched_offset (scan : Scan) (use : Use) (width : Nat) :
    (scan.fetched use width).offset = scan.offset + width := rfl

@[simp] theorem fetched_sizeofType (scan : Scan) (use : Use) (width : Nat) :
    (scan.fetched use width).sizeofType = scan.sizeofType := rfl

@[simp] theorem fetched_currentValue (scan : Scan) (use : Use) (width : Nat) :
    (scan.fetched use width).currentValue = scan.currentValue := rfl

end Scan

theorem canRead_iff (offset nBytes : Nat) :
    canRead payload offset nBytes = true ↔ offset + nBytes ≤ payload.size := by
  simp only [canRead, Bool.and_eq_true, decide_eq_true_eq]
  omega

theorem canRead_eq_false_iff (offset nBytes : Nat) :
    canRead payload offset nBytes = false ↔ payload.size < offset + nBytes := by
  rw [← Bool.not_eq_true, canRead_iff, Nat.not_le]

theorem advance_eq (scan : Scan) (nBytes : Nat) :
    advance payload scan nBytes =
      if canRead payload scan.offset nBytes then (true, scan.moved nBytes)
      else (false, scan) := by
  unfold advance
  split
  · rename_i readable
    have inside := (canRead_iff payload scan.offset nBytes).mp readable
    have fits : payload.size < sizeT.modulus := payload.fits
    have target : (scan.offset + nBytes) % sizeT.modulus = scan.offset + nBytes :=
      Nat.mod_eq_of_lt (by omega)
    simp only [target]
    rfl
  · rfl

/-- The guard of `advance_mul` admits exactly the products that fit `size_t`. -/
theorem advanceMul_guard (nUnits nUnitBytes : Nat) :
    (nUnitBytes ≠ 0 ∧ nUnits > sizeT.max / nUnitBytes) ↔
      sizeT.modulus ≤ nUnits * nUnitBytes := by
  have positive := sizeT.modulus_pos
  have maxEq : sizeT.max + 1 = sizeT.modulus := Nat.sub_add_cancel positive
  constructor
  · intro guard
    have unitPos : 0 < nUnitBytes := Nat.pos_of_ne_zero guard.1
    have above : sizeT.max < nUnits * nUnitBytes :=
      (Nat.div_lt_iff_lt_mul unitPos).mp guard.2
    omega
  · intro large
    have unitNe : nUnitBytes ≠ 0 := by
      intro zero
      rw [zero, Nat.mul_zero] at large
      omega
    have unitPos : 0 < nUnitBytes := Nat.pos_of_ne_zero unitNe
    exact ⟨unitNe, (Nat.div_lt_iff_lt_mul unitPos).mpr (by omega)⟩

theorem advanceMul_of_canRead (scan : Scan) (nUnits nUnitBytes : Nat)
    (readable : canRead payload scan.offset (nUnits * nUnitBytes) = true) :
    advanceMul payload scan nUnits nUnitBytes =
      (true, (scan.note (.product nUnits nUnitBytes (nUnits * nUnitBytes))).moved
        (nUnits * nUnitBytes)) := by
  have inside := (canRead_iff payload _ _).mp readable
  have fits : payload.size < sizeT.modulus := payload.fits
  have small : nUnits * nUnitBytes < sizeT.modulus := by omega
  have guard : ¬(nUnitBytes ≠ 0 ∧ nUnits > sizeT.max / nUnitBytes) := by
    rw [advanceMul_guard]
    omega
  rw [advanceMul, if_neg guard]
  simp only [Nat.mod_eq_of_lt small]
  rw [advance_eq]
  simp [readable]

/-- A product that cannot be skipped leaves the offset where it was. -/
theorem advanceMul_of_not_canRead (scan : Scan) (nUnits nUnitBytes : Nat)
    (unreadable : canRead payload scan.offset (nUnits * nUnitBytes) = false) :
    advanceMul payload scan nUnits nUnitBytes = (false, scan) ∨
      advanceMul payload scan nUnits nUnitBytes =
        (false, scan.note (.product nUnits nUnitBytes (nUnits * nUnitBytes))) := by
  unfold advanceMul
  split
  · exact Or.inl rfl
  · rename_i guard
    rw [advanceMul_guard, Nat.not_le] at guard
    simp only [Nat.mod_eq_of_lt guard]
    rw [advance_eq]
    simp [unreadable]

/-- The 32-bit counts of an array convert to `size_t` without loss. -/
theorem castSize_toUInt64 (count : UInt32) :
    castSize sizeT count.toUInt64 = count.toUInt64.toNat := by
  have small : count.toNat < 2 ^ 32 := count.toNat_lt
  have fits := sizeT.pow_32_le_modulus
  rw [castSize, Nat.mod_eq_of_lt]
  simp only [UInt32.toNat_toUInt64]
  omega

/-- `if (can_read(…)) variable = read(…); if (!advance(…)) break;` either reads and
skips the whole field or leaves the state untouched. -/
theorem orBreak_load (use : Use) (width : Nat) (store rest : Scan → Scan) (scan : Scan)
    (storeOffset : ∀ scan, (store scan).offset = scan.offset) :
    orBreak (advance payload (load payload use width store scan) width) rest =
      if canRead payload scan.offset width then
        rest ((store (scan.note (.read use scan.offset width))).moved width)
      else
        scan := by
  by_cases readable : canRead payload scan.offset width = true
  · simp [orBreak, load, advance_eq, readable, storeOffset]
  · simp [orBreak, load, advance_eq, readable]

/-- A skip outside the switch goes on or leaves the loop. -/
theorem orExit_advance (scan : Scan) (nBytes : Nat) (rest : Scan → Flow) :
    orExit (advance payload scan nBytes) rest =
      if canRead payload scan.offset nBytes then rest (scan.moved nBytes) else .exit scan := by
  rw [advance_eq]
  split <;> rfl

namespace Event

/-- An event of the inside of an iteration whose reads have one of the given uses. -/
def Quiet (uses : Use → Prop) : Event → Prop
  | .read use _ _ => uses use
  | .move _ _ _ | .cast _ _ | .product _ _ _ => True
  | .iteration _ | .record _ _ _ _ => False

/-- The event takes place between two offsets, and its arithmetic is exact. -/
def Within (low high : Nat) : Event → Prop
  | .read _ offset width => low ≤ offset ∧ offset + width ≤ high
  | .move offset nBytes target =>
      low ≤ offset ∧ target = offset + nBytes ∧ target ≤ high
  | .cast value result => result = value
  | .product nUnits nUnitBytes nBytes => nBytes = nUnits * nUnitBytes
  | .iteration offset => low ≤ offset ∧ offset ≤ high
  | .record start stop _ _ => low ≤ start ∧ start + 7 ≤ stop ∧ stop ≤ high

/-- The value the offset takes at a skip. -/
def target? : Event → Option Nat
  | .move _ _ target => some target
  | _ => none

theorem Within.mono {low low' high high' : Nat} {event : Event}
    (within : event.Within low high) (lower : low' ≤ low) (upper : high ≤ high') :
    event.Within low' high' := by
  cases event <;> simp only [Within] at within ⊢ <;> omega

theorem Within.target_mem {low high target : Nat} {event : Event}
    (within : event.Within low high) (moves : event.target? = some target) :
    low ≤ target ∧ target ≤ high := by
  cases event <;> simp only [target?, Within, Option.some.injEq, reduceCtorEq] at moves within
  omega

end Event

/-- A stretch of events between two offsets: each lies between them, and the values
the offset takes never decrease. -/
structure Stretch (low high : Nat) (events : List Event) : Prop where
  within : ∀ event ∈ events, event.Within low high
  ordered : (events.filterMap Event.target?).Pairwise (· ≤ ·)

namespace Stretch

theorem nil (low high : Nat) : Stretch low high [] :=
  ⟨by simp, by simp⟩

theorem singleton {low high : Nat} {event : Event} (within : event.Within low high) :
    Stretch low high [event] where
  within := by simpa using within
  ordered := by
    cases target : event.target? <;> simp [target]

theorem append {low middle high : Nat} {left right : List Event}
    (onLeft : Stretch low middle left) (onRight : Stretch middle high right)
    (lower : low ≤ middle) (upper : middle ≤ high) :
    Stretch low high (left ++ right) where
  within := by
    intro event membership
    rcases List.mem_append.mp membership with inLeft | inRight
    · exact (onLeft.within event inLeft).mono (Nat.le_refl _) upper
    · exact (onRight.within event inRight).mono lower (Nat.le_refl _)
  ordered := by
    rw [List.filterMap_append, List.pairwise_append]
    refine ⟨onLeft.ordered, onRight.ordered, ?_⟩
    intro first firstMem second secondMem
    rcases List.mem_filterMap.mp firstMem with ⟨event, eventMem, moves⟩
    rcases List.mem_filterMap.mp secondMem with ⟨event', eventMem', moves'⟩
    have below := ((onLeft.within event eventMem).target_mem moves).2
    have above := ((onRight.within event' eventMem').target_mem moves').1
    exact Nat.le_trans below above

/-- An event that leaves the offset alone may look back over the stretch. -/
theorem snoc {low high : Nat} {events : List Event} {event : Event}
    (stretch : Stretch low high events) (within : event.Within low high)
    (still : event.target? = none) : Stretch low high (events ++ [event]) where
  within := by
    intro other membership
    rcases List.mem_append.mp membership with old | new
    · exact stretch.within other old
    · rw [List.mem_singleton.mp new]
      exact within
  ordered := by
    simpa [List.filterMap_append, still] using stretch.ordered

end Stretch

/-- `after` is reached from `before` inside one iteration: the offset stays inside
the payload and does not decrease, and the log grows by a stretch of quiet events. -/
structure Advances (uses : Use → Prop) (before after : Scan) : Prop where
  forward : before.offset ≤ after.offset
  inside : before.offset ≤ payload.size → after.offset ≤ payload.size
  added : ∃ events, after.log = before.log ++ events ∧
    Stretch before.offset after.offset events ∧ ∀ event ∈ events, event.Quiet uses

namespace Advances

variable {payload} {uses : Use → Prop} {before middle after : Scan}

theorem refl (scan : Scan) : Advances payload uses scan scan :=
  ⟨Nat.le_refl _, id, [], by simp, Stretch.nil _ _, by simp⟩

theorem trans (first : Advances payload uses before middle)
    (second : Advances payload uses middle after) :
    Advances payload uses before after := by
  rcases first.added with ⟨left, leftLog, leftStretch, leftQuiet⟩
  rcases second.added with ⟨right, rightLog, rightStretch, rightQuiet⟩
  refine ⟨Nat.le_trans first.forward second.forward,
    fun inside => second.inside (first.inside inside), left ++ right, ?_,
    leftStretch.append rightStretch first.forward second.forward, ?_⟩
  · rw [rightLog, leftLog, List.append_assoc]
  · intro event membership
    rcases List.mem_append.mp membership with inLeft | inRight
    · exact leftQuiet event inLeft
    · exact rightQuiet event inRight

/-- Only the offset and the log matter. -/
theorem of_eq {after' : Scan} (advances : Advances payload uses before after)
    (offset : after'.offset = after.offset) (log : after'.log = after.log) :
    Advances payload uses before after' := by
  rcases advances with ⟨forward, inside, added⟩
  rw [← offset] at forward inside added
  rw [← log] at added
  exact ⟨forward, inside, added⟩

theorem mono {uses' : Use → Prop} (advances : Advances payload uses before after)
    (implies : ∀ use, uses use → uses' use) : Advances payload uses' before after := by
  rcases advances.added with ⟨events, log, stretch, quiet⟩
  refine ⟨advances.forward, advances.inside, events, log, stretch, ?_⟩
  intro event membership
  have quietEvent := quiet event membership
  cases event <;> simp only [Event.Quiet] at quietEvent ⊢
  exact implies _ quietEvent

/-- A single event that leaves the offset where it is. -/
theorem note (scan : Scan) {event : Event} (quiet : event.Quiet uses)
    (within : event.Within scan.offset scan.offset) :
    Advances payload uses scan (scan.note event) :=
  ⟨Nat.le_refl _, id, [event], rfl, Stretch.singleton within, by simpa using quiet⟩

/-- Converting a 32-bit count to `size_t`. -/
theorem cast (sofar : Advances payload uses before middle) (count : UInt32) :
    Advances payload uses before
      (middle.note (.cast count.toUInt64.toNat (castSize sizeT count.toUInt64))) := by
  have quiet : (Event.cast count.toUInt64.toNat (castSize sizeT count.toUInt64)).Quiet uses :=
    trivial
  exact sofar.trans (note middle quiet (castSize_toUInt64 count))

theorem moved (scan : Scan) {nBytes : Nat}
    (readable : canRead payload scan.offset nBytes = true) :
    Advances payload uses scan (scan.moved nBytes) := by
  have inside := (canRead_iff payload _ _).mp readable
  refine ⟨Nat.le_add_right _ _, fun _ => inside, [_], rfl, Stretch.singleton ?_, ?_⟩
  · simp [Event.Within]
  · simp [Event.Quiet]

theorem fetched (scan : Scan) {use : Use} {width : Nat} (allowed : uses use)
    (readable : canRead payload scan.offset width = true) :
    Advances payload uses scan (scan.fetched use width) := by
  have inside := (canRead_iff payload _ _).mp readable
  refine ⟨Nat.le_add_right _ _, fun _ => inside,
    [.read use scan.offset width, .move scan.offset width (scan.offset + width)],
    by simp [Scan.fetched], ⟨?_, ?_⟩, ?_⟩
  · simp [Event.Within]
  · simp [List.filterMap_cons, Event.target?]
  · simp [Event.Quiet, allowed]

/-- A skip of several units advances whether it succeeds or not. -/
theorem advanceMul (scan : Scan) (nUnits nUnitBytes : Nat) :
    Advances payload uses scan (advanceMul payload scan nUnits nUnitBytes).2 := by
  have product : Advances payload uses scan
      (scan.note (.product nUnits nUnitBytes (nUnits * nUnitBytes))) :=
    note scan trivial rfl
  cases readable : canRead payload scan.offset (nUnits * nUnitBytes) with
  | true =>
      rw [advanceMul_of_canRead payload scan _ _ readable]
      exact product.trans (moved _ readable)
  | false =>
      rcases advanceMul_of_not_canRead payload scan _ _ readable with unchanged | noted
      · rw [unchanged]
        exact refl scan
      · rw [noted]
        exact product

/-- A field that is read and skipped, or not, before the rest of a switch case. -/
theorem orBreak_load {use : Use} {width : Nat} {store rest : Scan → Scan} {scan : Scan}
    (allowed : uses use) (storeOffset : ∀ scan, (store scan).offset = scan.offset)
    (storeLog : ∀ scan, (store scan).log = scan.log)
    (onRest : Advances payload uses scan
        ((store (scan.note (.read use scan.offset width))).moved width) →
      Advances payload uses scan
        (rest ((store (scan.note (.read use scan.offset width))).moved width))) :
    Advances payload uses scan
      (orBreak (advance payload (load payload use width store scan) width) rest) := by
  rw [DeviceProperties.orBreak_load payload _ _ _ _ _ storeOffset]
  split
  · rename_i readable
    apply onRest
    apply (fetched scan allowed readable).of_eq
    · simp [storeOffset]
    · simp [storeOffset, storeLog, Scan.fetched]
  · exact refl scan

/-- A skip of several units before the rest of a switch case. -/
theorem orBreak_advanceMul {nUnits nUnitBytes : Nat} {rest : Scan → Scan}
    (sofar : Advances payload uses before middle)
    (onRest : ∀ next, Advances payload uses before next →
      Advances payload uses before (rest next)) :
    Advances payload uses before
      (orBreak (DeviceProperties.advanceMul payload middle nUnits nUnitBytes) rest) := by
  have skipped := sofar.trans (advanceMul middle nUnits nUnitBytes)
  unfold orBreak
  split
  · exact onRest _ skipped
  · exact skipped

end Advances

end SimpleCamCtrl.DeviceProperties
