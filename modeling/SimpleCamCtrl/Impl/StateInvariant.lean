import SimpleCamCtrl.Impl.Status

/-!
# The state machine of the object

The connection state, the transport and the status flag are set one by one.  In every
state that a run reaches they agree with each other and with what the transports have
answered, and the exposure values can be read only in a session that has reported.
-/

namespace SimpleCamCtrl.Impl

open History

section Invariant

variable {τ : Type} {sizeT : SizeT} [Commons]
variable {object : SonyPTP3Impl τ} {transport : τ} {calls : List (Call τ sizeT)}
variable {call : Call τ sizeT}

/-- An SDIOOpenSession was sent to the transport. -/
def OpenSent (transport : τ) (exchange : Exchange τ sizeT) : Prop :=
  exchange.1.transport = transport ∧ exchange.1.opcode = ptpOcSDIOOpenSession

/-- An UpdateStatus that returned true. -/
def UpdateSucceeded (call : Call τ sizeT) : Prop :=
  call.op = .updateStatus ∧ call.result = true

/-- A Disconnect, or a SetPtpTransport with another transport, that got the lock. -/
def DropsTransport (call : Call τ sizeT) : Prop :=
  call.locked = true ∧ call.op.Ends call.before

/-- The states that a run may reach. -/
structure StateInvariant (calls : List (Call τ sizeT)) (object : SonyPTP3Impl τ) : Prop where
  disconnected : object.connectionState = .disconnected ↔ object.transport = none
  sessionOpen : object.connectionState = .sessionOpen →
    ∃ transport, object.transport = some transport ∧
      Since (OpenAccepted transport) (OpenSent transport) (trace calls)
  hasStatus : object.hasStatus = true →
    object.connectionState = .sessionOpen ∧ Since UpdateSucceeded HandshakeSucceeded calls
  readable : (getExposureParams object).isSome = true →
    isConnected object = true ∧
      Since UpdateSucceeded (fun call => HandshakeSucceeded call ∨ DropsTransport call) calls

/-- A destroyed object apart, whatever a call does it leaves no transport exactly when it
leaves the object disconnected. -/
theorem Outcome.disconnected_iff {self after : SonyPTP3Impl τ} {op : Op τ}
    {exchanges : List (Exchange τ sizeT)} {result : Bool}
    (outcome : Outcome self op exchanges result after)
    (before : self.connectionState = .disconnected ↔ self.transport = none) :
    after.connectionState = .disconnected ↔ after.transport = none := by
  cases outcome with
  | noTransport held | keptNone held => simp [held]
  | connected held | refused held | keptReady held => simp [held]
  | disconnected => cases held : self.transport <;> simp
  | newTransport =>
      rename_i target _ _
      cases target <;> simp
  | controlled =>
      unfold afterControl
      split <;> exact before
  | alreadyOpen | keptOpen | noSession | statusRefused | wrote => exact before
  | statusTaken => exact before

theorem not_openSent_of_used {endpoint : τ} {exchange : Exchange τ sizeT}
    (used : sessionAction exchange = .used transport) : ¬OpenSent endpoint exchange := by
  intro sent
  rw [sessionAction, sent.2] at used
  split at used
  · cases used
  · rw [if_neg (by decide), if_neg (by decide)] at used
    cases used

variable {self after : SonyPTP3Impl τ} {op : Op τ} {result : Bool}
variable {exchanges before : List (Exchange τ sizeT)}

/-- A call that opens a session has sent the SDIOOpenSession last, and it was accepted. -/
theorem Outcome.openAccepted_of_closed [DecidableEq τ]
    (outcome : Outcome self op exchanges result after)
    (closed : ensureConnected self = none) (held : ensureConnected after = some transport) :
    ∃ attempts reply, Accepted reply ∧
      exchanges = attempts ++ [(openRequest transport, reply)] := by
  have session := outcome.session
  rw [closed, held] at session
  rcases outcome.cases_of_closed closed with silent | ⟨_, endpoint, connected, handshake⟩
  · rw [silent] at session
    cases session
  · rw [handshake.session] at session
    cases connected with
    | false => cases session
    | true =>
        cases session
        rcases handshake.succeeded with ⟨attempts, reply, _, accepted, shape⟩
        exact ⟨attempts, reply, accepted, shape⟩

/-- A call in an open session that leaves it open sends no SDIOOpenSession. -/
theorem Outcome.quiet_of_open {endpoint : τ} (outcome : Outcome self op exchanges result after)
    (opened : ensureConnected self = some endpoint)
    (held : ensureConnected after = some transport) :
    endpoint = transport ∧ ∀ exchange ∈ exchanges, ¬OpenSent transport exchange := by
  rcases outcome.cases_of_open opened with ⟨_, _, closed⟩ | ⟨_, _, same, used⟩ |
    ⟨button, pressed, reply, _, rfl, _, rfl⟩
  · rw [closed] at held
    cases held
  · rw [same] at held
    cases held
    exact ⟨rfl, fun exchange membership => not_openSent_of_used (used exchange membership).1⟩
  · rw [ensureConnected_afterControl, opened] at held
    cases held
    refine ⟨rfl, fun exchange membership => ?_⟩
    rw [List.mem_singleton.mp membership]
    exact not_openSent_of_used (sessionAction_control _ _ _ _)

/-- The last SDIOOpenSession on the transport of an open session was accepted, across any
call. -/
theorem Outcome.since_openSent [DecidableEq τ] (outcome : Outcome self op exchanges result after)
    (pending : ∀ endpoint, ensureConnected self = some endpoint →
      Since (OpenAccepted endpoint) (OpenSent endpoint) before)
    (held : ensureConnected after = some transport) :
    Since (OpenAccepted transport) (OpenSent transport) (before ++ exchanges) := by
  cases session : ensureConnected self with
  | none =>
      rcases outcome.openAccepted_of_closed session held with ⟨attempts, reply, accepted, rfl⟩
      rw [← List.append_assoc, since_snoc]
      exact Or.inl ⟨rfl, rfl, accepted⟩
  | some endpoint =>
      rcases outcome.quiet_of_open session held with ⟨rfl, quiet⟩
      rw [since_append]
      exact Or.inr ⟨pending _ session, quiet⟩

/-- A call that drops the session or the transport resets the flag. -/
theorem Outcome.hasStatus_of_ends (outcome : Outcome self op exchanges result after)
    (ends : op.Ends self) : after.hasStatus = false := by
  cases outcome with
  | disconnected | newTransport => rfl
  | noTransport | alreadyOpen | connected | refused => exact (Op.not_ends_connect ends).elim
  | keptNone | keptReady | keptOpen =>
      rcases ends with same | same | ⟨target, same, different⟩
      · cases same
      · cases same
      · cases same
        exact (different rfl).elim
  | noSession closed command => exact (Op.not_ends_of_isCommand command ends).elim
  | statusRefused | statusTaken | wrote => exact (Op.not_ends_of_isCommand rfl ends).elim
  | controlled opened control =>
      exact (Op.not_ends_of_isCommand (Op.isCommand_of_control control) ends).elim

/-- The status is one of the session and the transport of the time. -/
def StatusOfSession (calls : List (Call τ sizeT)) (object : SonyPTP3Impl τ) : Prop :=
  object.hasStatus = true → ensureConnected object ≠ none ∧
    Since UpdateSucceeded (fun call => HandshakeSucceeded call ∨ DropsTransport call) calls

/-- One call keeps the status one of the session and the transport of the time. -/
theorem StatusOfSession.step (current : StatusOfSession calls call.before)
    (effect : StatusEffect call) (drops : DropsTransport call → call.after.hasStatus = false) :
    StatusOfSession (calls ++ [call]) call.after := by
  intro hasStatus
  rw [since_snoc]
  cases effect with
  | handshake succeeded reset =>
      rw [reset] at hasStatus
      cases hasStatus
  | taken takes =>
      refine ⟨?_, Or.inl ⟨takes.op, takes.result⟩⟩
      rw [takes.after, ensureConnected_afterStatus, takes.session]
      simp
  | kept keeps =>
      rcases keeps.flag with ⟨reset, _⟩ | ⟨sameFlag, sameSession⟩
      · rw [reset] at hasStatus
        cases hasStatus
      · have before := current (sameFlag ▸ hasStatus)
        refine ⟨sameSession ▸ before.1, Or.inr ⟨before.2, ?_⟩⟩
        intro stops
        rcases stops with opened | dropped
        · exact keeps.noHandshake opened
        · rw [drops dropped] at hasStatus
          cases hasStatus

/-- The state invariant from its parts. -/
theorem StateInvariant.of_statusOfSession
    (disconnected : object.connectionState = .disconnected ↔ object.transport = none)
    (sessionOpen : ∀ transport, ensureConnected object = some transport →
      Since (OpenAccepted transport) (OpenSent transport) (trace calls))
    (status : StatusOfSession calls object) : StateInvariant calls object := by
  refine ⟨disconnected, ?_, ?_, ?_⟩
  · intro isOpen
    cases held : object.transport with
    | none =>
        rw [disconnected.mpr held] at isOpen
        cases isOpen
    | some transport =>
        exact ⟨transport, rfl, sessionOpen _ (ensureConnected_eq_some_iff.mpr ⟨isOpen, held⟩)⟩
  · intro hasStatus
    rcases status hasStatus with ⟨session, since⟩
    rcases Option.ne_none_iff_exists'.mp session with ⟨transport, opened⟩
    exact ⟨(ensureConnected_eq_some_iff.mp opened).1, since.mono_stop fun _ => Or.inl⟩
  · intro readable
    have hasStatus : object.hasStatus = true := by
      by_contra absent
      simp [getExposureParams, absent] at readable
    rcases status hasStatus with ⟨session, since⟩
    exact ⟨isConnected_iff.mpr (Option.ne_none_iff_exists'.mp session), since⟩

variable {state state' : Option (SonyPTP3Impl τ)}

/-- The links between the members survive a call, with the lock or without. -/
theorem Performs.stateInvariant [DecidableEq τ] (performs : Performs state call state')
    (inv : StateInvariant calls call.before) : StateInvariant (calls ++ [call]) call.after := by
  have pending : ∀ endpoint, ensureConnected call.before = some endpoint →
      Since (OpenAccepted endpoint) (OpenSent endpoint) (trace calls) := by
    intro endpoint opened
    rcases ensureConnected_eq_some_iff.mp opened with ⟨isOpen, held⟩
    rcases inv.sessionOpen isOpen with ⟨transport, held', since⟩
    rw [held] at held'
    cases held'
    exact since
  have current : StatusOfSession calls call.before := by
    intro hasStatus
    have readable := inv.readable (by simp [getExposureParams, hasStatus])
    rcases isConnected_iff.mp readable.1 with ⟨transport, opened⟩
    exact ⟨by simp [opened], readable.2⟩
  have step (drops : DropsTransport call → call.after.hasStatus = false) :
      StatusOfSession (calls ++ [call]) call.after := current.step performs.statusEffect drops
  rcases performs.cases with ⟨unlocked, silent, _, unchanged⟩ | ⟨locked, outcome⟩
  · refine .of_statusOfSession ?_ ?_ (step ?_)
    · rw [unchanged]
      exact inv.disconnected
    · rw [unchanged, trace_append, trace_singleton, silent, List.append_nil]
      exact pending
    · intro drops
      rw [drops.1] at unlocked
      cases unlocked
  · refine .of_statusOfSession (outcome.disconnected_iff inv.disconnected) ?_ (step ?_)
    · intro transport held
      rw [trace_append, trace_singleton]
      exact outcome.since_openSent pending held
    · exact fun drops => outcome.hasStatus_of_ends drops.2

/-- A newly constructed object is disconnected. -/
theorem stateInvariant_construct :
    StateInvariant ([] : List (Call τ sizeT)) (construct : SonyPTP3Impl τ) := by
  refine .of_statusOfSession ?_ ?_ ?_
  · simp [construct]
  · intro transport opened
    cases opened
  · intro hasStatus
    cases hasStatus

/-- In every state that a run of public calls reaches, the connection state tells whether a
transport is held, an open session is the answer to the last SDIOOpenSession on it, and the
exposure values can be read only after a successful UpdateStatus of the session. -/
theorem reachable_stateInvariant [DecidableEq τ] (run : CallRun calls (some object)) :
    StateInvariant calls object := by
  refine run.invariant_of_alive stateInvariant_construct ?_ object rfl
  intro calls state call state' performs inv
  exact performs.stateInvariant inv

end Invariant

/-- A session with a status, and after it a second one that has reported a status as well. -/
def reopenedScript : List (Op Unit × Option (List (EscapeResult .bits64))) :=
  statusScript isoReply ++
    [(.disconnect, some [okReply, okReply, okReply]),
      (.updateStatus, some []),
      (.connect, some [okReply, okReply, infoReply, okReply, okReply]),
      (.disconnect, none),
      (.updateStatus, some [isoReply])]

theorem reopenedScript_stateInvariant :
    ∃ object, scriptState reopenedScript = some object ∧ object.hasStatus = true ∧
      StateInvariant (scriptCalls reopenedScript) object := by
  have alive : scriptState reopenedScript =
      some ((scriptState reopenedScript).getD construct) := by decide
  have run : CallRun (scriptCalls reopenedScript)
      (some ((scriptState reopenedScript).getD construct)) := by
    rw [← alive]
    exact callRun_script (by decide)
  exact ⟨_, alive, by decide, reachable_stateInvariant run⟩

end SimpleCamCtrl.Impl
