import SimpleCamCtrl.Impl.Recording
import SimpleCamCtrl.Impl.Status
import SimpleCamCtrl.Library.Registers

/-!
# The coding of the movie state

MovieRecStart and MovieRecEnd write 2 and 1 to MOVIE_REC; UpdateStatus reads every value
but 0 of the same property as recording.  A camera keeps the last control value that it
accepted, also the release at the end of a session, and reports it from then on.  With such
cameras the flag follows the commands exactly until a status reply is taken over while no
recording has been started: every control that the camera has ever accepted reads as one.
-/

namespace SimpleCamCtrl.Impl

open History

section MovieCoding

variable {τ : Type} {sizeT : SizeT} [Commons] [DecidableEq τ]

/-- The camera that takes over a control of MOVIE_REC, and whether it was a press. -/
def acceptedMovieControl (exchange : Exchange τ sizeT) : Option (τ × Option Bool) :=
  let transport := exchange.1.transport
  if ¬Accepted exchange.2 then none
  else if exchange.1 = controlRequest transport .movieRec true then some (transport, some true)
  else if exchange.1 = controlRequest transport .movieRec false then some (transport, some false)
  else none

/-- The last control of MOVIE_REC that the camera behind a transport has accepted, in whichever
session; before the first exchange it may have accepted one, or none. -/
def lastMovieControl (initial : τ → Option Bool) (exchanges : List (Exchange τ sizeT)) :
    τ → Option Bool :=
  Registers.contents acceptedMovieControl initial exchanges

/-- What a camera reports as MOVIE_REC: the value of the last control that it accepted.  As long
as it has accepted none there is nothing to report, or nothing but a zero. -/
def ReportsControl (last : Option Bool) (found : Option UInt64) : Prop :=
  match last with
  | some pressed => found = some (buttonValue pressed).toUInt64
  | none => found = none ∨ found = some 0

/-- The cameras: every status reply that is answered OK reports as MOVIE_REC the last control
value that its camera accepted. -/
def EchoesMovie (initial : τ → Option Bool) (exchanges : List (Exchange τ sizeT)) : Prop :=
  Each (fun before exchange => exchange.1.opcode = ptpOcSDIOGetAllExtDeviceInfo →
    Accepted exchange.2 → ReportsControl (lastMovieControl initial before exchange.1.transport)
      (findProperty (reported exchange) dpcMovieRec)) exchanges

/-- A successful UpdateStatus does not change what IsMovieRecording returns. -/
def UpdateKeepsFlag (call : Call τ sizeT) : Prop :=
  call.op = .updateStatus → call.result = true →
    isMovieRecording call.after = isMovieRecording call.before

/-- What is read back of the movie state agrees with what was written: no UpdateStatus changes
the flag, and after every call it is true exactly if a MovieRecStart has been accepted and no
MovieRecEnd since. -/
def MovieCodingAgrees (calls : List (Call τ sizeT)) : Prop :=
  Each (fun before call => UpdateKeepsFlag call ∧
    (isMovieRecording call.after = true ↔ PendingMovie (before ++ [call]))) calls

/-- The guard on a call: where it takes over a status reply with MOVIE_REC in it, a MovieRecStart
has been accepted and no MovieRecEnd since, exactly if the camera has ever accepted a control of
MOVIE_REC, be it a press or a release. -/
def StatusFits (initial : τ → Option Bool) (before : List (Call τ sizeT)) (call : Call τ sizeT) :
    Prop :=
  call.op = .updateStatus → ∀ exchange ∈ call.exchanges, TakesStatus call.before exchange.2 →
    (findProperty (reported exchange) dpcMovieRec).isSome = true →
      (PendingMovie before ↔
        (lastMovieControl initial (trace before) exchange.1.transport).isSome = true)

/-- The run meets the guard at every call. -/
def StatusAlwaysFits (initial : τ → Option Bool) (calls : List (Call τ sizeT)) : Prop :=
  Each (StatusFits initial) calls

instance (last : Option Bool) (found : Option UInt64) : Decidable (ReportsControl last found) :=
  match last with
  | some _ => inferInstanceAs (Decidable (_ = _))
  | none => inferInstanceAs (Decidable (_ ∨ _))

instance (initial : τ → Option Bool) (exchanges : List (Exchange τ sizeT)) :
    Decidable (EchoesMovie initial exchanges) :=
  inferInstanceAs (Decidable (Each _ _))

instance (self : SonyPTP3Impl τ) (reply : EscapeResult sizeT) :
    Decidable (TakesStatus self reply) :=
  inferInstanceAs (Decidable (_ ∧ _))

instance (initial : τ → Option Bool) (before : List (Call τ sizeT)) (call : Call τ sizeT) :
    Decidable (StatusFits initial before call) :=
  inferInstanceAs (Decidable (_ → ∀ exchange ∈ call.exchanges, _ → _ → (_ ↔ _)))

instance (initial : τ → Option Bool) (calls : List (Call τ sizeT)) :
    Decidable (StatusAlwaysFits initial calls) :=
  inferInstanceAs (Decidable (Each _ _))

section Step

variable {self : SonyPTP3Impl τ} {calls : List (Call τ sizeT)} {call : Call τ sizeT}
variable {initial : τ → Option Bool} {props : DeviceProperties.PropertyMap}

omit [Commons] [DecidableEq τ] in
theorem isMovieRecording_afterStatus {raw : UInt64}
    (found : findProperty props dpcMovieRec = some raw) :
    isMovieRecording (afterStatus self props) = (raw != 0) := by
  simp [isMovieRecording, afterStatus, updateCache, found]

omit [Commons] [DecidableEq τ] in
theorem isMovieRecording_afterStatus_of_absent
    (absent : findProperty props dpcMovieRec = none) :
    isMovieRecording (afterStatus self props) = isMovieRecording self := by
  simp [isMovieRecording, afterStatus, updateCache, absent]

omit [Commons] [DecidableEq τ] in
/-- A status that reports MOVIE_REC sets the flag if the camera has accepted any control of it,
since both control values are read as recording. -/
theorem ReportsControl.isMovieRecording_afterStatus {last : Option Bool}
    (reports : ReportsControl last (findProperty props dpcMovieRec))
    (present : (findProperty props dpcMovieRec).isSome = true) :
    isMovieRecording (afterStatus self props) = last.isSome := by
  cases last with
  | none =>
      rcases reports with absent | zero
      · rw [absent] at present
        cases present
      · rw [Impl.isMovieRecording_afterStatus zero]
        rfl
  | some pressed =>
      rw [Impl.isMovieRecording_afterStatus reports]
      cases pressed <;> rfl

omit [DecidableEq τ] in
/-- UpdateStatus is no movie command. -/
theorem pendingMovie_snoc_of_update (isUpdate : call.op = .updateStatus) :
    PendingMovie (calls ++ [call]) ↔ PendingMovie calls := by
  rw [pendingMovie_snoc, Answered, Answered, isUpdate]
  simp

/-- A call that sends nothing and leaves the object alone changes nothing about the coding. -/
theorem movieCoding_of_silent (initial : τ → Option Bool) (silent : call.exchanges = [])
    (unchanged : call.after = call.before)
    (flag : isMovieRecording call.before = true ↔ PendingMovie calls) :
    (UpdateKeepsFlag call ∧
        (isMovieRecording call.after = true ↔ PendingMovie (calls ++ [call]))) ∧
      StatusFits initial calls call := by
  have kept : isMovieRecording call.after = true ↔ PendingMovie (calls ++ [call]) :=
    flag_iff_of_commanded_or_kept (Or.inr ⟨by simp [silent], by rw [unchanged]⟩) flag
  refine ⟨⟨fun _ _ => by rw [unchanged], kept⟩, ?_⟩
  intro _ exchange membership
  rw [silent] at membership
  cases membership

omit [DecidableEq τ] in
/-- Only UpdateStatus reads the flag from a reply. -/
theorem Outcome.flag_iff_of_not_update
    (outcome : Outcome call.before call.op call.exchanges call.result call.after)
    (notUpdate : call.op ≠ .updateStatus)
    (flag : isMovieRecording call.before = true ↔ PendingMovie calls) :
    isMovieRecording call.after = true ↔ PendingMovie (calls ++ [call]) := by
  cases outcome.flagEffect with
  | commanded control accepted set =>
      exact flag_iff_of_commanded_or_kept (Or.inl ⟨_, control, accepted, set⟩) flag
  | taken isUpdate => exact (notUpdate isUpdate).elim
  | kept refused same => exact flag_iff_of_commanded_or_kept (Or.inr ⟨refused, same⟩) flag

/-- A status that is taken over keeps the flag exactly when it fits. -/
theorem TakesReply.movieCoding_iff {transport : τ} {reply : EscapeResult sizeT}
    (takes : TakesReply call transport reply)
    (echoes : EchoesMovie initial (trace calls ++ call.exchanges))
    (flag : isMovieRecording call.before = true ↔ PendingMovie calls) :
    (UpdateKeepsFlag call ∧
        (isMovieRecording call.after = true ↔ PendingMovie (calls ++ [call]))) ↔
      StatusFits initial calls call := by
  rw [takes.exchanges, EchoesMovie, each_snoc] at echoes
  have reports : ReportsControl (lastMovieControl initial (trace calls) transport)
      (findProperty (DeviceProperties.parseDeviceProperties reply.payload) dpcMovieRec) :=
    echoes.2 rfl takes.taken.1
  have fits_iff : StatusFits initial calls call ↔
      ((findProperty (DeviceProperties.parseDeviceProperties reply.payload)
          dpcMovieRec).isSome = true →
        (isMovieRecording call.before = true ↔
          (lastMovieControl initial (trace calls) transport).isSome = true)) := by
    rw [StatusFits, takes.exchanges, flag]
    simp [takes.op, takes.taken, reported, statusRequest]
  rw [fits_iff, pendingMovie_snoc_of_update takes.op, ← flag, UpdateKeepsFlag, takes.after]
  cases found : findProperty (DeviceProperties.parseDeviceProperties reply.payload) dpcMovieRec with
  | none => simp [isMovieRecording_afterStatus_of_absent found]
  | some raw =>
      rw [reports.isMovieRecording_afterStatus (by rw [found]; rfl)]
      generalize (lastMovieControl initial (trace calls) transport).isSome = accepted
      generalize isMovieRecording call.before = recording
      cases accepted <;> cases recording <;> simp [takes.op, takes.result]

/-- One call keeps the codings in agreement exactly when it meets the guard. -/
theorem Performs.movieCoding_iff {state state' : Option (SonyPTP3Impl τ)}
    (performs : Performs state call state')
    (echoes : EchoesMovie initial (trace calls ++ call.exchanges))
    (flag : isMovieRecording call.before = true ↔ PendingMovie calls) :
    (UpdateKeepsFlag call ∧
        (isMovieRecording call.after = true ↔ PendingMovie (calls ++ [call]))) ↔
      StatusFits initial calls call := by
  rcases performs.cases with ⟨_, silent, _, unchanged⟩ | ⟨_, outcome⟩
  · have both := movieCoding_of_silent initial silent unchanged flag
    exact iff_of_true both.1 both.2
  by_cases isUpdate : call.op = .updateStatus
  · rcases outcome.of_updateStatus isUpdate with ⟨_, silent, _, unchanged⟩ |
      ⟨transport, reply, session, asked, ⟨refused, _, unchanged⟩ | ⟨taken, succeeded, after⟩⟩
    · have both := movieCoding_of_silent initial silent unchanged flag
      exact iff_of_true both.1 both.2
    · rw [pendingMovie_snoc_of_update isUpdate, unchanged]
      refine iff_of_true ⟨fun _ _ => by rw [unchanged], flag⟩ ?_
      intro _ exchange membership taken
      rw [asked, List.mem_singleton] at membership
      rw [membership] at taken
      exact (refused taken).elim
    · exact TakesReply.movieCoding_iff ⟨isUpdate, succeeded, asked, session, taken, after⟩ echoes
        flag
  · have kept := outcome.flag_iff_of_not_update isUpdate flag
    exact iff_of_true ⟨fun updates => (isUpdate updates).elim, kept⟩
      fun updates => (isUpdate updates).elim

end Step

variable {initial : τ → Option Bool} {calls : List (Call τ sizeT)}
variable {state : Option (SonyPTP3Impl τ)}

/-- What holds of every run against cameras that echo, whatever its calls. -/
structure MovieRun (initial : τ → Option Bool) (calls : List (Call τ sizeT))
    (state : Option (SonyPTP3Impl τ)) : Prop where
  agrees_iff : MovieCodingAgrees calls ↔ StatusAlwaysFits initial calls
  flag : ∀ object, state = some object → MovieCodingAgrees calls →
    (isMovieRecording object = true ↔ PendingMovie calls)

theorem CallRun.movieRun (run : CallRun calls state)
    (echoes : EchoesMovie initial (trace calls)) : MovieRun initial calls state := by
  induction run with
  | start begins =>
      refine ⟨⟨fun _ => each_nil, fun _ => each_nil⟩, ?_⟩
      intro object alive _
      rw [begins] at alive
      cases alive
      simp [isMovieRecording, construct, PendingMovie]
  | snoc run performs ih =>
      rename_i calls state state' call
      rw [trace_append, trace_singleton] at echoes
      have earlier := ih ((each_append _ _).mp echoes).1
      have flag := earlier.flag _ performs.alive
      refine ⟨?_, ?_⟩
      · rw [MovieCodingAgrees, StatusAlwaysFits, each_snoc, each_snoc, ← MovieCodingAgrees,
          ← StatusAlwaysFits, ← earlier.agrees_iff]
        exact and_congr_right fun agrees => performs.movieCoding_iff echoes (flag agrees)
      · intro object alive agrees
        rw [MovieCodingAgrees, each_snoc] at agrees
        rw [performs.after_of_alive alive]
        exact agrees.2.2

end MovieCoding

/-- The reply of a camera that reports an ISO value of 25600 and the last control value it
accepted for MOVIE_REC. -/
def controlReply (pressed : Bool) : EscapeResult .bits64 :=
  ⟨0, ptpRcOk, ⟨LittleEndian.ofNat 8 2 ++ DeviceProperties.encodeRecords
    [.ofScalar 0xD21E .uint32 25600, .ofScalar 0xD2C8 .uint16 (buttonValue pressed).toNat], by
      cases pressed <;> decide⟩⟩

/-- Connect, start a recording and read the status; end the recording, and perhaps read the
status again. -/
def movieScript (polled : Bool) : List (Op Unit × Option (List (EscapeResult .bits64))) :=
  [(.setPtpTransport (some ()), some []),
    (.connect, some [okReply, okReply, infoReply, okReply, okReply]),
    (.movieRecStart, some [okReply]),
    (.updateStatus, some [controlReply true]),
    (.movieRecEnd, some [okReply])] ++
    if polled then [(.updateStatus, some [controlReply false])] else []

end SimpleCamCtrl.Impl
