import SimpleCamCtrl.Impl.Runs

/-!
# UpdateStatus

One status reply is taken over as a whole or not at all.  Every cached field follows the
code that it stands for, and nothing else of the object changes.
-/

namespace SimpleCamCtrl.Impl

open Interaction

section UpdateStatus

variable {τ : Type} {sizeT : SizeT} [Commons]

/-- A field takes the decoding of the value that was found, or keeps its own. -/
structure Follows {α : Type} (found : Option UInt64) (decode : UInt64 → α) (old new : α) :
    Prop where
  present : ∀ raw, found = some raw → new = decode raw
  absent : found = none → new = old

/-- The object after the properties of a reply have been taken over. -/
structure TakenOver (props : DeviceProperties.PropertyMap) (before after : SonyPTP3Impl τ) :
    Prop where
  shutterSpeed : Follows (findProperty props dpcShutterSpeed)
    (fun raw => Exposure.decodeShutterSpeedReciprocal raw.toUInt32)
    before.cache.exposureParams.shutterSpeed after.cache.exposureParams.shutterSpeed
  fNumber : Follows (findProperty props dpcFNumber)
    (fun raw => Exposure.decodeFNumber raw.toUInt16)
    before.cache.exposureParams.fNumber after.cache.exposureParams.fNumber
  iso : Follows (findProperty props dpcIso) UInt64.toUInt32
    before.cache.exposureParams.iso after.cache.exposureParams.iso
  exposureComp : Follows (findProperty props dpcExposureCompensation) toInt32
    before.cache.exposureParams.exposureComp after.cache.exposureParams.exposureComp
  exposureMode : Follows (findProperty props dpcExposureMode) UInt64.toUInt32
    before.cache.exposureMode after.cache.exposureMode
  movieRecording : Follows (findProperty props dpcMovieRec) (fun raw => raw != 0)
    before.cache.movieRecording after.cache.movieRecording
  liveviewValid : after.cache.liveviewValid = before.cache.liveviewValid
  connectionState : after.connectionState = before.connectionState
  transport : after.transport = before.transport
  hasStatus : after.hasStatus = true

/-- The five codes that stand for an exposure field. -/
def exposureCodes : List UInt32 :=
  [dpcShutterSpeed, dpcFNumber, dpcIso, dpcExposureCompensation, dpcExposureMode]

/-- The reply of a device that answered OK, with one of the exposure codes unless there is
a status already. -/
structure CarriesStatus (hasStatus : Bool) (reply : EscapeResult sizeT) : Prop where
  hr : Commons.hrFailed reply.hr = false
  responseCode : reply.responseCode = ptpRcOk
  carried : (∃ code ∈ exposureCodes,
    (findProperty (DeviceProperties.parseDeviceProperties reply.payload) code).isSome = true) ∨
      hasStatus = true

variable {self after : SonyPTP3Impl τ} {transport : τ} {exchanges : List (Exchange τ sizeT)}
variable {reply : EscapeResult sizeT}

omit [Commons] in
theorem hasAnyExposureField_iff {props : DeviceProperties.PropertyMap} :
    hasAnyExposureField props = true ↔
      ∃ code ∈ exposureCodes, (findProperty props code).isSome = true := by
  simp [hasAnyExposureField, exposureCodes, or_assoc]

theorem takesStatus_iff : TakesStatus self reply ↔ CarriesStatus self.hasStatus reply := by
  rw [TakesStatus, Bool.or_eq_true, hasAnyExposureField_iff]
  constructor
  · intro takes
    exact ⟨takes.1.1, takes.1.2, takes.2⟩
  · intro carries
    exact ⟨⟨carries.hr, carries.responseCode⟩, carries.carried⟩

omit [Commons] in
theorem follows_match {α : Type} (found : Option UInt64) (decode : UInt64 → α) (old : α) :
    Follows found decode old
      (match found with
        | some raw => decode raw
        | none => old) := by
  constructor
  · intro raw same
    rw [same]
  · intro same
    rw [same]

/-- A reply that is taken over changes what it carries and nothing else. -/
theorem takenOver_afterStatus (taken : TakesStatus self reply) :
    TakenOver (DeviceProperties.parseDeviceProperties reply.payload) self
      (afterStatus self (DeviceProperties.parseDeviceProperties reply.payload)) where
  shutterSpeed := follows_match _ _ _
  fNumber := follows_match _ _ _
  iso := follows_match _ _ _
  exposureComp := follows_match _ _ _
  exposureMode := follows_match _ _ _
  movieRecording := follows_match _ _ _
  liveviewValid := rfl
  connectionState := rfl
  transport := rfl
  hasStatus := taken.2

/-- In an open session every reply is possible. -/
theorem exists_exec_updateStatus (opened : ensureConnected self = some transport)
    (reply : EscapeResult sizeT) :
    ∃ result after,
      Exec (updateStatus self) [(statusRequest transport, reply)] (result, after) := by
  rcases exists_exec_of_oracle (updateStatus self) fun _ _ => reply with
    ⟨exchanges, ⟨result, after⟩, execution, answered⟩
  rcases (updateStatus_outcome execution).of_updateStatus rfl with
    ⟨closed, _⟩ | ⟨endpoint, answer, opened', rfl, _⟩
  · rw [closed] at opened
    cases opened
  · rw [opened] at opened'
    cases opened'
    have same : answer = reply := (History.each_singleton _).mp answered
    rw [same] at execution
    exact ⟨result, after, execution⟩

variable [DecidableEq τ] {state state' : Option (SonyPTP3Impl τ)} {call : Call τ sizeT}

/-- An UpdateStatus that returns false changes nothing.  One that returns true has taken
over one status reply.  With the lock it returns true exactly when a session is open and
the reply carries a status; and in an open session every reply is possible. -/
theorem updateStatus_atomic (performs : Performs state call state')
    (isUpdate : call.op = .updateStatus) :
    (call.result = false → call.after = call.before) ∧
      (call.result = true → ∃ transport reply,
        call.exchanges = [(statusRequest transport, reply)] ∧
          TakenOver (DeviceProperties.parseDeviceProperties reply.payload)
            call.before call.after) ∧
      (call.locked = true → (call.result = true ↔ isConnected call.before = true ∧
        ∃ exchange ∈ call.exchanges, CarriesStatus call.before.hasStatus exchange.2)) ∧
      ∀ transport (reply : EscapeResult sizeT), ensureConnected call.before = some transport →
        ∃ result after, Performs state ⟨.updateStatus, true, call.before,
          [(statusRequest transport, reply)], result, after⟩ (some after) := by
  have anyReply : ∀ transport (reply : EscapeResult sizeT),
      ensureConnected call.before = some transport →
        ∃ result after, Performs state ⟨.updateStatus, true, call.before,
          [(statusRequest transport, reply)], result, after⟩ (some after) := by
    intro transport reply opened
    rcases exists_exec_updateStatus opened reply with ⟨result, after, execution⟩
    exact ⟨result, after, performs.alive, execution, rfl⟩
  rcases performs.cases with ⟨unlocked, silent, failed, unchanged⟩ | ⟨locked, outcome⟩
  · refine ⟨fun _ => unchanged, ?_, ?_, anyReply⟩
    · simp [failed]
    · simp [unlocked]
  · rcases outcome.of_updateStatus isUpdate with ⟨closed, silent, failed, unchanged⟩ |
      ⟨transport, reply, opened, exchanges, ⟨refused, failed, unchanged⟩ | ⟨taken, success, after⟩⟩
    · refine ⟨fun _ => unchanged, ?_, ?_, anyReply⟩
      · simp [failed]
      · simp [failed, silent]
    · refine ⟨fun _ => unchanged, ?_, ?_, anyReply⟩
      · simp [failed]
      · rw [takesStatus_iff] at refused
        simp [failed, exchanges, refused]
    · refine ⟨?_, fun _ => ⟨transport, reply, exchanges, ?_⟩, ?_, anyReply⟩
      · simp [success]
      · rw [after]
        exact takenOver_afterStatus taken
      · have connected := isConnected_iff.mpr ⟨transport, opened⟩
        rw [takesStatus_iff] at taken
        simp [success, exchanges, connected, taken]

end UpdateStatus

/-- A reply that carries no exposure field. -/
def movieReply : EscapeResult .bits64 :=
  ⟨0, ptpRcOk, ⟨[1, 0, 0, 0, 0, 0, 0, 0, 0xC8, 0xD2, 2, 0, 0, 0, 0, 1, 0], by decide⟩⟩

/-- An object in an open session that has a status. -/
def reportedObject : SonyPTP3Impl Unit :=
  { (construct : SonyPTP3Impl Unit) with
    transport := some (), connectionState := .sessionOpen, hasStatus := true }

/-- With a status it is taken over, and sets the flag only. -/
def movieCall : Call Unit .bits64 :=
  ⟨.updateStatus, true, reportedObject, [(statusRequest (), movieReply)], true,
    setMovieRecording reportedObject true⟩

theorem movieCall_atomic :
    isConnected movieCall.before = true ∧
      ∃ exchange ∈ movieCall.exchanges, CarriesStatus movieCall.before.hasStatus exchange.2 := by
  have replayed : replayCall reportedObject .updateStatus (some [movieReply]) = some movieCall := by
    decide
  exact ((updateStatus_atomic (performs_of_replayCall replayed) rfl).2.2.1 rfl).mp rfl

end SimpleCamCtrl.Impl
