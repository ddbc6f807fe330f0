import SimpleCamCtrl.Impl.Runs

/-!
# The session protocol

Every call refines the protocol of exclusive sessions: the abstraction of an object is
the transport on which it holds an open session, and the exchanges of a call take the
protocol from the abstraction before to the abstraction after.
-/

namespace SimpleCamCtrl.Impl

open History

section Protocol

variable {τ : Type} {sizeT : SizeT} [Commons]
variable {self after : SonyPTP3Impl τ} {transport : τ} {exchanges : List (Exchange τ sizeT)}

/-- An SDIOOpenSession on the transport was answered OK. -/
def OpenAccepted (transport : τ) (exchange : Exchange τ sizeT) : Prop :=
  exchange.1.transport = transport ∧ exchange.1.opcode = ptpOcSDIOOpenSession ∧
    Accepted exchange.2

/-- A CloseSession was sent to the transport. -/
def CloseSent (transport : τ) (exchange : Exchange τ sizeT) : Prop :=
  exchange.1.transport = transport ∧ exchange.1.opcode = ptpOcCloseSession

instance [DecidableEq τ] (exchange : Exchange τ sizeT) :
    Decidable (OpenAccepted transport exchange) :=
  inferInstanceAs (Decidable (_ ∧ _ ∧ _))

instance [DecidableEq τ] (exchange : Exchange τ sizeT) :
    Decidable (CloseSent transport exchange) :=
  inferInstanceAs (Decidable (_ ∧ _))

/-- The command needs an open session. -/
def SessionCommand (exchange : Exchange τ sizeT) : Prop :=
  exchange.1.opcode = ptpOcSDIOControlDevice ∨
    exchange.1.opcode = ptpOcSDIOSetExtDevicePropValue ∨
    exchange.1.opcode = ptpOcSDIOGetAllExtDeviceInfo

/-- What the transports may see.  Commands that need a session come while one is open
on their transport, and between two accepted opens the session has been closed. -/
structure ObeysSessionProtocol (exchanges : List (Exchange τ sizeT)) : Prop where
  guarded : ∀ before exchange after, exchanges = before ++ exchange :: after →
    SessionCommand exchange →
    Since (OpenAccepted exchange.1.transport) (CloseSent exchange.1.transport) before
  separated : ∀ transport before first between second after,
    exchanges = before ++ first :: between ++ second :: after →
    OpenAccepted transport first → OpenAccepted transport second →
    ∃ close ∈ between, CloseSent transport close

/-- Every session that was opened has been closed again, on the same transport. -/
def EverySessionClosed (exchanges : List (Exchange τ sizeT)) : Prop :=
  ∀ transport before opening after, exchanges = before ++ opening :: after →
    OpenAccepted transport opening → ∃ close ∈ after, CloseSent transport close

theorem sessionAction_eq_opened_iff {exchange : Exchange τ sizeT} :
    sessionAction exchange = .opened transport ↔ OpenAccepted transport exchange := by
  unfold sessionAction OpenAccepted
  split
  · rename_i opens
    simp [opens]
  · rename_i notOpens
    have other : ¬(exchange.1.opcode = ptpOcSDIOOpenSession ∧ Accepted exchange.2) := notOpens
    split
    · simp [other]
    · split <;> simp [other]

theorem sessionAction_eq_closed_iff {exchange : Exchange τ sizeT} :
    sessionAction exchange = .closed transport ↔ CloseSent transport exchange := by
  unfold sessionAction CloseSent
  split
  · rename_i opens
    have other : ptpOcSDIOOpenSession ≠ ptpOcCloseSession := by decide
    simp [opens.1, other]
  · split
    · rename_i closes
      simp [closes]
    · rename_i notCloses
      split <;> simp [notCloses]

theorem sessionAction_of_sessionCommand {exchange : Exchange τ sizeT}
    (command : SessionCommand exchange) :
    sessionAction exchange = .used exchange.1.transport := by
  have notOpen : exchange.1.opcode ≠ ptpOcSDIOOpenSession := by
    rcases command with control | write | status
    · rw [control]; decide
    · rw [write]; decide
    · rw [status]; decide
  have notClose : exchange.1.opcode ≠ ptpOcCloseSession := by
    rcases command with control | write | status
    · rw [control]; decide
    · rw [write]; decide
    · rw [status]; decide
  rw [sessionAction, if_neg fun both => notOpen both.1, if_neg notClose]
  exact if_pos command

theorem Preparatory.not_openAccepted {endpoint : τ} {exchange : Exchange τ sizeT}
    (preparatory : Preparatory transport exchange) : ¬OpenAccepted endpoint exchange := by
  intro opened
  rw [← sessionAction_eq_opened_iff] at opened
  rcases preparatory with neutral | closes
  · rw [opened] at neutral
    cases neutral
  · rw [opened] at closes
    cases closes

/-- The protocol's notion of an open session, in terms of the commands sent. -/
theorem since_action_iff {exchanges : List (Exchange τ sizeT)} :
    Since (sessionAction · = .opened transport) (sessionAction · = .closed transport) exchanges ↔
      Since (OpenAccepted transport) (CloseSent transport) exchanges := by
  simp only [sessionAction_eq_opened_iff, sessionAction_eq_closed_iff]

/-- Nothing is pending exactly when every session was closed. -/
theorem everySessionClosed_iff {exchanges : List (Exchange τ sizeT)} :
    EverySessionClosed exchanges ↔
      ∀ transport, ¬Since (OpenAccepted transport) (CloseSent transport) exchanges := by
  constructor
  · intro closed transport pending
    rcases pending with ⟨before, opening, after, split, opened, quiet⟩
    rcases closed transport before opening after split opened with ⟨close, membership, sent⟩
    exact quiet close membership sent
  · intro nothing transport before opening after split opened
    by_contra unclosed
    refine nothing transport ⟨before, opening, after, split, opened, ?_⟩
    intro later membership sent
    exact unclosed ⟨later, membership, sent⟩

/-- A destructor that gets the lock leaves no session open. -/
theorem Outcome.session_of_destroy {op : Op τ} {result : Bool}
    (outcome : Outcome self op exchanges result after) (destroys : op = .destroy) :
    ensureConnected after = none := by
  cases outcome with
  | disconnected ending ends => cases held : self.transport <;> simp [ensureConnected]
  | noSession closed command => exact closed
  | controlled opened control =>
      rw [destroys] at control
      cases control
  | _ => cases destroys

variable [DecidableEq τ]

theorem Handshake.session {connected : Bool}
    (handshake : Handshake transport exchanges connected) :
    Session.run sessionAction none exchanges =
      some (if connected then some transport else none) := by
  have stillClosed (attempts : List (Exchange τ sizeT))
      (preparatory : ∀ exchange ∈ attempts, Preparatory transport exchange) :
      Session.run sessionAction none attempts = some none := by
    apply Monitor.run_of_stays
    intro exchange membership
    rcases preparatory exchange membership with neutral | closes
    · rw [neutral]
      rfl
    · rw [closes]
      rfl
  cases connected with
  | false => exact stillClosed exchanges handshake.failed
  | true =>
      rcases handshake.succeeded with ⟨attempts, reply, preparatory, accepted, rfl⟩
      rw [Session.run_append, stillClosed attempts preparatory]
      simp [sessionAction_open accepted, Session.step]

theorem EndsSession.session (ends : EndsSession self exchanges) :
    Session.run sessionAction (ensureConnected self) exchanges = some none := by
  rw [EndsSession] at ends
  cases session : ensureConnected self with
  | none =>
      simp only [session] at ends
      rw [ends]
      rfl
  | some transport =>
      simp only [session] at ends
      rcases ends with ⟨stopMovie, releaseFocus, close, rfl⟩
      simp [Session.step]

/-- Whatever a call does, its exchanges are a step of the session protocol. -/
theorem Outcome.session {op : Op τ} {result : Bool}
    (outcome : Outcome self op exchanges result after) :
    Session.run sessionAction (ensureConnected self) exchanges =
      some (ensureConnected after) := by
  cases outcome with
  | noTransport held => simp [ensureConnected, held]
  | alreadyOpen opened => rfl
  | connected held closed handshake =>
      rw [closed, handshake.session]
      simp [ensureConnected, held]
  | refused held closed handshake =>
      rw [closed, handshake.session]
      simp [ensureConnected]
  | disconnected ending ends =>
      rw [ends.session]
      cases held : self.transport <;> simp [ensureConnected]
  | keptNone held => simp [ensureConnected, held]
  | keptReady held closed =>
      rw [closed]
      simp [ensureConnected]
  | keptOpen opened => rfl
  | newTransport different ends =>
      rename_i target
      rw [ends.session]
      cases target <;> simp [ensureConnected]
  | noSession closed command => rfl
  | statusRefused opened refused => simp [opened, Session.step]
  | statusTaken opened taken =>
      rw [ensureConnected_afterStatus, opened]
      simp [Session.step]
  | wrote opened requests =>
      rw [opened, Session.run_of_used fun exchange membership =>
        (used_of_exposureWrites requests exchange membership).1]
  | controlled opened control =>
      rw [opened, ensureConnected_afterControl, opened]
      simp [Session.step]

/-- A call without the lock leaves the session alone, one with the lock steps it. -/
theorem Performs.session {state state' : Option (SonyPTP3Impl τ)} {call : Call τ sizeT}
    (performs : Performs state call state') :
    Session.run sessionAction (ensureConnected call.before) call.exchanges =
      some (ensureConnected call.after) := by
  rcases performs.cases with ⟨_, silent, _, unchanged⟩ | ⟨_, outcome⟩
  · rw [silent, unchanged]
    rfl
  · exact outcome.session

theorem Performs.session_of_destroy {state state' : Option (SonyPTP3Impl τ)}
    {call : Call τ sizeT} (performs : Performs state call state')
    (destroys : call.op = .destroy) (locked : call.locked = true) :
    ensureConnected call.after = none := by
  rcases performs.cases with ⟨unlocked, _⟩ | ⟨_, outcome⟩
  · rw [locked] at unlocked
    cases unlocked
  · exact outcome.session_of_destroy destroys

/-- The trace of a run is accepted by the protocol.  While the object lives the open
session is its own; a destroyed object has left none if its destructor got the lock. -/
structure SessionInvariant (calls : List (Call τ sizeT))
    (state : Option (SonyPTP3Impl τ)) : Prop where
  accepted : ∃ final, Session.run sessionAction none (trace calls) = some final ∧
    (∀ self, state = some self → final = ensureConnected self) ∧
    ∀ call ∈ calls, call.op = .destroy → call.locked = true → final = none
  destroyed : ∀ call ∈ calls, call.op = .destroy → state = none

theorem CallRun.sessionInvariant {calls : List (Call τ sizeT)}
    {state : Option (SonyPTP3Impl τ)} (run : CallRun calls state) :
    SessionInvariant calls state := by
  refine run.invariant ?_ ?_
  · intro state begins
    refine ⟨⟨none, rfl, ?_, by simp⟩, by simp⟩
    intro self alive
    rw [begins] at alive
    cases alive
    rfl
  · intro calls state call state' _ ih performs
    rcases ih.accepted with ⟨final, accepted, alive, _⟩
    have current := alive _ performs.alive
    have none_destroyed : ∀ earlier ∈ calls, earlier.op ≠ .destroy := by
      intro earlier membership destroys
      have gone := ih.destroyed earlier membership destroys
      rw [performs.alive] at gone
      cases gone
    refine ⟨⟨ensureConnected call.after, ?_, ?_, ?_⟩, ?_⟩
    · rw [trace_append, trace_singleton, Session.run_append, accepted, current]
      exact performs.session
    · intro self survives
      rw [performs.next] at survives
      split at survives
      · cases survives
      · cases survives
        rfl
    · intro other membership destroys locked
      rcases List.mem_append.mp membership with earlier | last
      · exact (none_destroyed other earlier destroys).elim
      · rw [List.mem_singleton.mp last] at destroys locked
        exact performs.session_of_destroy destroys locked
    · intro other membership destroys
      rcases List.mem_append.mp membership with earlier | last
      · exact (none_destroyed other earlier destroys).elim
      · rw [List.mem_singleton.mp last] at destroys
        rw [performs.next, if_pos destroys]

/-- What the protocol of exclusive sessions accepts obeys the session protocol. -/
theorem obeysSessionProtocol_of_accepted {exchanges : List (Exchange τ sizeT)}
    {final : Option τ} (accepted : Session.run sessionAction none exchanges = some final) :
    ObeysSessionProtocol exchanges := by
  refine ⟨?_, ?_⟩
  · intro before exchange after split command
    rw [← since_action_iff]
    exact Session.each_used_open accepted before exchange after split _
      (sessionAction_of_sessionCommand command)
  · intro transport before first between second after split opened reopened
    by_contra unclosed
    have closed := Session.each_opened_closed accepted (before ++ first :: between) second after
      split transport transport (sessionAction_eq_opened_iff.mpr reopened)
    rw [since_action_iff] at closed
    refine closed ⟨before, first, between, rfl, opened, ?_⟩
    intro later membership sent
    exact unclosed ⟨later, membership, sent⟩

/-- What it accepts without a session left has closed every session. -/
theorem everySessionClosed_of_accepted
    (accepted : Session.run sessionAction none exchanges = some none) :
    EverySessionClosed exchanges := by
  rw [everySessionClosed_iff]
  intro transport
  rw [← since_action_iff, ← Session.open_iff_since accepted]
  simp

/-- In every run of public calls the transports see the session protocol obeyed.
Whenever the object is not in an open session, and after a destructor that got the lock,
every session that it ever opened has been closed on its own transport. -/
theorem session_protocol {calls : List (Call τ sizeT)} {state : Option (SonyPTP3Impl τ)}
    (run : CallRun calls state) :
    ObeysSessionProtocol (trace calls) ∧
      (∀ self, state = some self → self.connectionState ≠ .sessionOpen →
        EverySessionClosed (trace calls)) ∧
      (∀ call ∈ calls, call.op = .destroy → call.locked = true →
        EverySessionClosed (trace calls)) := by
  rcases (CallRun.sessionInvariant run).accepted with ⟨final, accepted, alive, destroyed⟩
  refine ⟨obeysSessionProtocol_of_accepted accepted, ?_, ?_⟩
  · intro self survives notOpen
    rw [alive self survives, ensureConnected_of_not_open notOpen] at accepted
    exact everySessionClosed_of_accepted accepted
  · intro call membership destroys locked
    rw [destroyed call membership destroys locked] at accepted
    exact everySessionClosed_of_accepted accepted

end Protocol

/-- A session on one transport that is replaced by another while the session is open. -/
def swapScript : List (Op Bool × Option (List (EscapeResult .bits64))) :=
  [(.setPtpTransport (some false), some []),
    (.connect, some [okReply, okReply, infoReply, okReply, okReply]),
    (.focusStart, some [okReply]),
    (.setPtpTransport (some true), some [okReply, okReply, okReply]),
    (.updateStatus, some []),
    (.destroy, none)]

theorem session_protocol_swap :
    (trace (scriptCalls swapScript)).length = 9 ∧
      ObeysSessionProtocol (trace (scriptCalls swapScript)) := by
  have run : CallRun (scriptCalls swapScript) (scriptState swapScript) :=
    callRun_script (by decide)
  exact ⟨by decide, (session_protocol run).1⟩

end SimpleCamCtrl.Impl
