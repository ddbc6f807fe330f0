import SimpleCamCtrl.Impl.Buttons

/-!
# The recording flag

As long as no status reply mentions MOVIE_REC, the flag records the answers to
MovieRecStart and MovieRecEnd only.  The release of MOVIE_REC at the end of a session does
not clear it, so it agrees with the session exactly when no session is ended while it is
set.
-/

namespace SimpleCamCtrl.Impl

open History

section Recording

variable {τ : Type} {sizeT : SizeT} [Commons]
variable {self after : SonyPTP3Impl τ} {transport : τ} {exchanges : List (Exchange τ sizeT)}

/-- No status reply carries the MOVIE_REC code. -/
def NoMovieStatus (calls : List (Call τ sizeT)) : Prop :=
  ∀ exchange ∈ trace calls, exchange.1.opcode = ptpOcSDIOGetAllExtDeviceInfo →
    findProperty (DeviceProperties.parseDeviceProperties exchange.2.payload) dpcMovieRec = none

/-- The last control of MOVIE_REC that was accepted in the current session was a press. -/
def MovieDown (transport : τ) (exchanges : List (Exchange τ sizeT)) : Prop :=
  Since (DownAccepted transport .movieRec)
    (fun exchange => ControlAccepted transport .movieRec exchange ∨
      OpenAccepted transport exchange ∨ CloseSent transport exchange) exchanges

/-- If IsMovieRecording returns true, a session is open and MOVIE_REC is down in it. -/
def RecordingAgrees (calls : List (Call τ sizeT)) (object : SonyPTP3Impl τ) : Prop :=
  isMovieRecording object = true →
    ∃ transport, ensureConnected object = some transport ∧ MovieDown transport (trace calls)

/-- The flag agrees with the session in every state that the run leaves the object in. -/
def RecordingAlwaysAgrees (calls : List (Call τ sizeT)) : Prop :=
  Each (fun before call => call.op ≠ .destroy → RecordingAgrees (before ++ [call]) call.after)
    calls

/-- The camera accepted the command of the call. -/
def Answered (op : Op τ) (call : Call τ sizeT) : Prop :=
  call.op = op ∧ ∃ exchange ∈ call.exchanges, Accepted exchange.2

/-- A MovieRecStart was accepted and no MovieRecEnd after it. -/
def PendingMovie (calls : List (Call τ sizeT)) : Prop :=
  Since (Answered .movieRecStart) (Answered .movieRecEnd) calls

/-- The guard on the calls of a run: unless it destroys the object, none ends an open
session while an accepted MovieRecStart has not been followed by an accepted
MovieRecEnd. -/
def MovieEndedInTime (calls : List (Call τ sizeT)) : Prop :=
  Each (fun before call => EndsOpenSession call → call.op ≠ .destroy → ¬PendingMovie before) calls

instance (calls : List (Call τ sizeT)) : Decidable (NoMovieStatus calls) :=
  inferInstanceAs (Decidable (∀ exchange ∈ _, _ → _))

instance [DecidableEq τ] (op : Op τ) (call : Call τ sizeT) : Decidable (Answered op call) :=
  inferInstanceAs (Decidable (_ ∧ ∃ exchange ∈ call.exchanges, Accepted exchange.2))

instance [DecidableEq τ] (calls : List (Call τ sizeT)) : Decidable (PendingMovie calls) :=
  inferInstanceAs (Decidable (Since _ _ _))

instance [DecidableEq τ] (calls : List (Call τ sizeT)) : Decidable (MovieEndedInTime calls) :=
  inferInstanceAs (Decidable (Each _ _))

/-- What a call does to the flag: an accepted movie command sets it, a status reply that is
taken over may report it, and nothing else touches it. -/
inductive FlagEffect (self : SonyPTP3Impl τ) (op : Op τ) (exchanges : List (Exchange τ sizeT))
    (after : SonyPTP3Impl τ) : Prop where
  | commanded {pressed : Bool} :
      op.control = some (.movieRec, pressed) → (∃ exchange ∈ exchanges, Accepted exchange.2) →
      isMovieRecording after = pressed → FlagEffect self op exchanges after
  | taken {transport : τ} {reply : EscapeResult sizeT} :
      op = .updateStatus → ensureConnected self = some transport →
      exchanges = [(statusRequest transport, reply)] → TakesStatus self reply →
      after = afterStatus self (DeviceProperties.parseDeviceProperties reply.payload) →
      FlagEffect self op exchanges after
  | kept :
      (∀ pressed, op.control = some (.movieRec, pressed) →
        ∀ exchange ∈ exchanges, ¬Accepted exchange.2) →
      isMovieRecording after = isMovieRecording self → FlagEffect self op exchanges after

theorem Outcome.flagEffect {op : Op τ} {result : Bool}
    (outcome : Outcome self op exchanges result after) : FlagEffect self op exchanges after := by
  cases outcome with
  | noTransport | alreadyOpen | connected | refused | keptNone | keptReady | keptOpen
  | newTransport | statusRefused | wrote => exact .kept (by simp [Op.control]) rfl
  | disconnected ending => rcases ending with rfl | rfl <;> exact .kept (by simp [Op.control]) rfl
  | noSession => exact .kept (by simp) rfl
  | statusTaken opened taken => exact .taken rfl opened rfl taken rfl
  | controlled opened control =>
      rename_i transport button pressed reply
      by_cases movie : button = .movieRec ∧ Accepted reply
      · rcases movie with ⟨rfl, accepted⟩
        refine .commanded control (by simpa using accepted) ?_
        simp [afterControl, accepted, isMovieRecording, setMovieRecording]
      · refine .kept ?_ ?_
        · intro pressed' same exchange membership accepted
          rw [control] at same
          cases same
          rw [List.mem_singleton.mp membership] at accepted
          exact movie ⟨rfl, accepted⟩
        · rw [afterControl, if_neg movie]

/-- The value that a call leaves in the flag, if no reply reports it. -/
theorem Outcome.movieRecording {op : Op τ} {result : Bool}
    (outcome : Outcome self op exchanges result after)
    (quiet : ∀ exchange ∈ exchanges, exchange.1.opcode = ptpOcSDIOGetAllExtDeviceInfo →
      findProperty (DeviceProperties.parseDeviceProperties exchange.2.payload) dpcMovieRec =
        none) :
    (∃ pressed, op.control = some (.movieRec, pressed) ∧
        (∃ exchange ∈ exchanges, Accepted exchange.2) ∧ isMovieRecording after = pressed) ∨
      ((∀ pressed, op.control = some (.movieRec, pressed) →
          ∀ exchange ∈ exchanges, ¬Accepted exchange.2) ∧
        isMovieRecording after = isMovieRecording self) := by
  cases outcome.flagEffect with
  | commanded control accepted set => exact Or.inl ⟨_, control, accepted, set⟩
  | kept refused same => exact Or.inr ⟨refused, same⟩
  | taken isUpdate opened only taken same =>
      rename_i transport reply
      subst isUpdate only same
      have absent := quiet (statusRequest transport, reply) (by simp) rfl
      refine Or.inr ⟨by simp [Op.control], ?_⟩
      simp [isMovieRecording, afterStatus, updateCache, absent]

/-- Commands of the session that are not accepted controls of MOVIE_REC change nothing
about which of these was the last. -/
theorem movieDown_append_of_used {before : List (Exchange τ sizeT)}
    (used : ∀ exchange ∈ exchanges, sessionAction exchange = .used transport ∧
      ¬ControlAccepted transport .movieRec exchange) :
    MovieDown transport (before ++ exchanges) ↔ MovieDown transport before := by
  apply since_append_of_neutral
  · intro exchange membership down
    exact (used exchange membership).2 ⟨true, down⟩
  · intro exchange membership stops
    rcases stops with controls | opens | closes
    · exact (used exchange membership).2 controls
    · rw [← sessionAction_eq_opened_iff, (used exchange membership).1] at opens
      cases opens
    · rw [← sessionAction_eq_closed_iff, (used exchange membership).1] at closes
      cases closes

theorem not_controlAccepted_of_ne {button : Button} {exchange : Exchange τ sizeT}
    (notControl : exchange.1.opcode ≠ ptpOcSDIOControlDevice) :
    ¬ControlAccepted transport button exchange := by
  intro controls
  rcases controls with ⟨pressed, request, _⟩
  rw [request] at notControl
  exact notControl rfl

theorem controlAccepted_control_iff {held : τ} {button button' : Button} {pressed : Bool}
    {reply : EscapeResult sizeT} :
    ControlAccepted held button (controlRequest transport button' pressed, reply) ↔
      (transport = held ∧ button' = button) ∧ Accepted reply := by
  simp [ControlAccepted, controlRequest_inj]

/-! ## One call -/

/-- What links the flag to the calls of a run, and to the session once it agrees. -/
structure RecordingInvariant (calls : List (Call τ sizeT)) (object : SonyPTP3Impl τ) :
    Prop where
  flag : isMovieRecording object = true ↔ PendingMovie calls
  agrees : RecordingAlwaysAgrees calls → RecordingAgrees calls object

section Step

variable {calls : List (Call τ sizeT)} {call : Call τ sizeT}

theorem pendingMovie_snoc :
    PendingMovie (calls ++ [call]) ↔
      Answered .movieRecStart call ∨ (PendingMovie calls ∧ ¬Answered .movieRecEnd call) :=
  since_snoc calls call

omit [Commons] in
theorem Op.eq_movieRecStart_iff {op : Op τ} :
    op = .movieRecStart ↔ op.control = some (.movieRec, true) := by
  cases op <;> simp [Op.control]

omit [Commons] in
theorem Op.eq_movieRecEnd_iff {op : Op τ} :
    op = .movieRecEnd ↔ op.control = some (.movieRec, false) := by
  cases op <;> simp [Op.control]

/-- The flag follows the answers to the movie commands, if nothing else sets it. -/
theorem flag_iff_of_commanded_or_kept
    (effect : (∃ pressed, call.op.control = some (.movieRec, pressed) ∧
        (∃ exchange ∈ call.exchanges, Accepted exchange.2) ∧
        isMovieRecording call.after = pressed) ∨
      ((∀ pressed, call.op.control = some (.movieRec, pressed) →
          ∀ exchange ∈ call.exchanges, ¬Accepted exchange.2) ∧
        isMovieRecording call.after = isMovieRecording call.before))
    (flag : isMovieRecording call.before = true ↔ PendingMovie calls) :
    isMovieRecording call.after = true ↔ PendingMovie (calls ++ [call]) := by
  rw [pendingMovie_snoc, Answered, Answered, Op.eq_movieRecStart_iff, Op.eq_movieRecEnd_iff]
  rcases effect with ⟨pressed, control, accepted, set⟩ | ⟨refused, kept⟩
  · rw [set, control]
    cases pressed <;> simp [accepted]
  · have notAnswered (pressed : Bool) : ¬(call.op.control = some (.movieRec, pressed) ∧
        ∃ exchange ∈ call.exchanges, Accepted exchange.2) := by
      intro answered
      rcases answered with ⟨control, exchange, membership, accepted⟩
      exact refused pressed control exchange membership accepted
    simp only [notAnswered, false_or, not_false_eq_true, and_true]
    rw [kept, flag]

theorem Outcome.flag_iff
    (outcome : Outcome call.before call.op call.exchanges call.result call.after)
    (quiet : NoMovieStatus [call])
    (flag : isMovieRecording call.before = true ↔ PendingMovie calls) :
    isMovieRecording call.after = true ↔ PendingMovie (calls ++ [call]) := by
  rw [NoMovieStatus, trace_singleton] at quiet
  exact flag_iff_of_commanded_or_kept (outcome.movieRecording quiet) flag

/-- A call that is no movie command keeps the flag. -/
theorem Outcome.flag_of_not_movie
    (outcome : Outcome call.before call.op call.exchanges call.result call.after)
    (quiet : NoMovieStatus [call])
    (notMovie : ∀ pressed, call.op.control = some (.movieRec, pressed) →
      ∀ exchange ∈ call.exchanges, ¬Accepted exchange.2) :
    isMovieRecording call.after = isMovieRecording call.before := by
  rw [NoMovieStatus, trace_singleton] at quiet
  rcases outcome.movieRecording quiet with ⟨pressed, control, accepted, _⟩ | ⟨_, kept⟩
  · rcases accepted with ⟨exchange, membership, accepted⟩
    exact (notMovie pressed control exchange membership accepted).elim
  · exact kept

/-- Without an open session the flag is clear and stays clear. -/
theorem Outcome.recordingAgrees_of_closed
    (outcome : Outcome call.before call.op call.exchanges call.result call.after)
    (quiet : NoMovieStatus [call]) (closed : ensureConnected call.before = none)
    (agrees : RecordingAgrees calls call.before) :
    RecordingAgrees (calls ++ [call]) call.after := by
  have kept : isMovieRecording call.after = isMovieRecording call.before := by
    refine outcome.flag_of_not_movie quiet ?_
    intro pressed control exchange membership
    rcases outcome.cases_of_closed closed with silent | ⟨isConnect, _⟩
    · simp [silent] at membership
    · rw [isConnect] at control
      cases control
  intro recording
  rw [kept] at recording
  rcases agrees recording with ⟨transport, session, _⟩
  rw [closed] at session
  cases session

/-- The end of a session keeps the flag, so it must have been clear. -/
theorem Outcome.recordingAgrees_of_ends
    (outcome : Outcome call.before call.op call.exchanges call.result call.after)
    (quiet : NoMovieStatus [call]) (ending : call.op.Ends call.before)
    (closes : ensureConnected call.after = none) :
    RecordingAgrees (calls ++ [call]) call.after ↔ isMovieRecording call.before = false := by
  have kept : isMovieRecording call.after = isMovieRecording call.before := by
    refine outcome.flag_of_not_movie quiet ?_
    intro pressed control
    exact (Op.not_ends_of_isCommand (Op.isCommand_of_control control) ending).elim
  simp [RecordingAgrees, closes, kept]

/-- Commands of the session other than accepted movie commands preserve the agreement. -/
theorem RecordingAgrees.append (agrees : RecordingAgrees calls call.before)
    (session : ensureConnected call.before = some transport)
    (stillOpen : ensureConnected call.after = some transport)
    (kept : isMovieRecording call.after = isMovieRecording call.before)
    (used : ∀ exchange ∈ call.exchanges, sessionAction exchange = .used transport ∧
      ¬ControlAccepted transport .movieRec exchange) :
    RecordingAgrees (calls ++ [call]) call.after := by
  intro recording
  rw [kept] at recording
  rcases agrees recording with ⟨endpoint, session', down⟩
  rw [session] at session'
  cases session'
  refine ⟨transport, stillOpen, ?_⟩
  rwa [trace_append, trace_singleton, movieDown_append_of_used used]

/-- A button command in an open session preserves the agreement. -/
theorem RecordingAgrees.control {button : Button} {pressed : Bool} {reply : EscapeResult sizeT}
    (agrees : RecordingAgrees calls call.before)
    (session : ensureConnected call.before = some transport)
    (exchange_eq : call.exchanges = [(controlRequest transport button pressed, reply)])
    (after_eq : call.after = afterControl call.before button pressed reply) :
    RecordingAgrees (calls ++ [call]) call.after := by
  have stillOpen : ensureConnected call.after = some transport := by
    rw [after_eq, ensureConnected_afterControl, session]
  by_cases movie : button = .movieRec ∧ Accepted reply
  · rcases movie with ⟨rfl, accepted⟩
    intro recording
    have isPress : pressed = true := by
      rw [after_eq, afterControl, if_pos ⟨rfl, accepted⟩] at recording
      exact recording
    refine ⟨transport, stillOpen, ?_⟩
    rw [trace_append, trace_singleton, exchange_eq, MovieDown, since_snoc, isPress]
    exact Or.inl ⟨rfl, accepted⟩
  · refine agrees.append session stillOpen ?_ ?_
    · rw [after_eq, afterControl, if_neg movie]
    · intro exchange membership
      rw [exchange_eq] at membership
      rw [List.mem_singleton.mp membership]
      refine ⟨rfl, ?_⟩
      rw [controlAccepted_control_iff]
      exact fun both => movie ⟨both.1.2, both.2⟩

/-- One call keeps the flag in agreement exactly when it meets the guard. -/
theorem Outcome.recordingAgrees_iff
    (outcome : Outcome call.before call.op call.exchanges call.result call.after)
    (quiet : NoMovieStatus [call]) (locked : call.locked = true)
    (flag : isMovieRecording call.before = true ↔ PendingMovie calls)
    (agrees : RecordingAgrees calls call.before) :
    (call.op ≠ .destroy → RecordingAgrees (calls ++ [call]) call.after) ↔
      (EndsOpenSession call → call.op ≠ .destroy → ¬PendingMovie calls) := by
  cases session : ensureConnected call.before with
  | none =>
      have notOpen : ¬EndsOpenSession call := fun ends => ends.2.1 session
      exact ⟨fun _ ends => (notOpen ends).elim,
        fun _ _ => outcome.recordingAgrees_of_closed quiet session agrees⟩
  | some transport =>
      rcases outcome.cases_of_open session with
        ⟨ending, _, closes⟩ | ⟨notEnding, noControl, stillOpen, used⟩ |
        ⟨button, pressed, reply, control, exchange_eq, _, after_eq⟩
      · have endsOpen : EndsOpenSession call := ⟨locked, by simp [session], ending⟩
        rw [outcome.recordingAgrees_of_ends quiet ending closes, ← flag, Bool.not_eq_true]
        simp [endsOpen]
      · have kept : isMovieRecording call.after = isMovieRecording call.before := by
          refine outcome.flag_of_not_movie quiet ?_
          intro pressed control
          rw [noControl] at control
          cases control
        have stays := agrees.append session stillOpen kept fun exchange membership =>
          ⟨(used exchange membership).1, not_controlAccepted_of_ne (used exchange membership).2⟩
        exact ⟨fun _ ends => (notEnding ends.2.2).elim, fun _ _ => stays⟩
      · have notEnding : ¬call.op.Ends call.before :=
          Op.not_ends_of_isCommand (Op.isCommand_of_control control)
        have stays := agrees.control session exchange_eq after_eq
        exact ⟨fun _ ends => (notEnding ends.2.2).elim, fun _ _ => stays⟩

end Step

variable [DecidableEq τ] {calls : List (Call τ sizeT)} {state : Option (SonyPTP3Impl τ)}

/-- What a call does to flag and session, with the lock or without. -/
theorem Performs.recording {state' : Option (SonyPTP3Impl τ)} {call : Call τ sizeT}
    (performs : Performs state call state') (quiet : NoMovieStatus [call])
    (flag : isMovieRecording call.before = true ↔ PendingMovie calls) :
    (isMovieRecording call.after = true ↔ PendingMovie (calls ++ [call])) ∧
      (RecordingAgrees calls call.before →
        ((call.op ≠ .destroy → RecordingAgrees (calls ++ [call]) call.after) ↔
          (EndsOpenSession call → call.op ≠ .destroy → ¬PendingMovie calls))) := by
  rcases performs.cases with ⟨unlocked, silent, _, unchanged⟩ | ⟨locked, outcome⟩
  · refine ⟨?_, ?_⟩
    · simp [pendingMovie_snoc, Answered, silent, unchanged, flag]
    · intro agrees
      simp only [RecordingAgrees, trace_append, trace_singleton, silent, List.append_nil,
        unchanged, EndsOpenSession, unlocked, Bool.false_eq_true, false_and, false_imp_iff,
        iff_true]
      exact fun _ => agrees
  · exact ⟨outcome.flag_iff quiet flag, outcome.recordingAgrees_iff quiet locked flag⟩

/-- What holds of every run without movie status, whatever its calls. -/
structure RecordingRun (calls : List (Call τ sizeT)) (state : Option (SonyPTP3Impl τ)) :
    Prop where
  agrees_iff : RecordingAlwaysAgrees calls ↔ MovieEndedInTime calls
  alive : ∀ object, state = some object → RecordingInvariant calls object

omit [Commons] [DecidableEq τ] in
theorem noMovieStatus_append {left right : List (Call τ sizeT)} :
    NoMovieStatus (left ++ right) ↔ NoMovieStatus left ∧ NoMovieStatus right := by
  simp [NoMovieStatus, or_imp, forall_and]

theorem CallRun.recordingRun (run : CallRun calls state) (quiet : NoMovieStatus calls) :
    RecordingRun calls state := by
  induction run with
  | start begins =>
      refine ⟨⟨fun _ => each_nil, fun _ => each_nil⟩, ?_⟩
      intro object alive
      rw [begins] at alive
      cases alive
      have clear : isMovieRecording (construct : SonyPTP3Impl τ) = false := rfl
      refine ⟨?_, ?_⟩
      · simp [clear, PendingMovie]
      · intro _ recording
        rw [clear] at recording
        cases recording
  | snoc run performs ih =>
      rename_i calls state state' call
      rw [noMovieStatus_append] at quiet
      have earlier := ih quiet.1
      have inv := earlier.alive _ performs.alive
      have step := performs.recording quiet.2 inv.flag
      refine ⟨?_, ?_⟩
      · rw [RecordingAlwaysAgrees, MovieEndedInTime, each_snoc, each_snoc,
          ← RecordingAlwaysAgrees, ← MovieEndedInTime, ← earlier.agrees_iff]
        exact and_congr_right fun always => step.2 (inv.agrees always)
      · intro object alive
        have survives : call.op ≠ .destroy := by
          intro destroys
          rw [performs.next, if_pos destroys] at alive
          cases alive
        rw [performs.after_of_alive alive]
        refine ⟨step.1, ?_⟩
        intro always
        rw [RecordingAlwaysAgrees, each_snoc] at always
        exact always.2 survives

/-- In a run without movie status the recording flag always agrees with the session
exactly when no session is ended while a movie recording is on. -/
theorem recordingAlwaysAgrees_iff_movieEndedInTime (run : CallRun calls state)
    (quiet : NoMovieStatus calls) : RecordingAlwaysAgrees calls ↔ MovieEndedInTime calls :=
  (run.recordingRun quiet).agrees_iff

end Recording

/-- Connect, start a recording, and end the session, with or without ending the
recording first. -/
def recordingScript (ended : Bool) : List (Op Unit × Option (List (EscapeResult .bits64))) :=
  [(.setPtpTransport (some ()), some []),
    (.connect, some [okReply, okReply, infoReply, okReply, okReply]),
    (.movieRecStart, some [okReply])] ++
    (if ended then [(.movieRecEnd, some [okReply])] else []) ++
    [(.disconnect, some [okReply, okReply, okReply])]

/-- The run is possible, and after Disconnect IsMovieRecording returns true. -/
theorem recordingScript_not_agrees :
    CallRun (scriptCalls (recordingScript false)) (scriptState (recordingScript false)) ∧
      NoMovieStatus (scriptCalls (recordingScript false)) ∧
      (scriptState (recordingScript false)).map isMovieRecording = some true ∧
      (scriptState (recordingScript false)).map ensureConnected = some none ∧
      ¬RecordingAlwaysAgrees (scriptCalls (recordingScript false)) := by
  have run : CallRun (scriptCalls (recordingScript false))
      (scriptState (recordingScript false)) := callRun_script (by decide)
  have quiet : NoMovieStatus (scriptCalls (recordingScript false)) := by decide
  refine ⟨run, quiet, by decide, by decide, ?_⟩
  rw [(run.recordingRun quiet).agrees_iff]
  decide

theorem recordingScript_agrees :
    RecordingAlwaysAgrees (scriptCalls (recordingScript true)) := by
  have run : CallRun (scriptCalls (recordingScript true))
      (scriptState (recordingScript true)) := callRun_script (by decide)
  exact (recordingAlwaysAgrees_iff_movieEndedInTime run (by decide)).mpr (by decide)

end SimpleCamCtrl.Impl
