import SimpleCamCtrl.Impl.SessionProtocol

/-!
# Buttons at the end of a session

A session is ended by releasing MOVIE_REC and S1 and closing it.  Whether every button
that was pressed has been released by then depends on S2 alone: no button is held at the
end of any session exactly when every accepted ShutterStart has been followed by a
ShutterEnd before its session ends.
-/

namespace SimpleCamCtrl.Impl

open History

section Buttons

variable {τ : Type} {sizeT : SizeT} [Commons]
variable {self after : SonyPTP3Impl τ} {transport : τ} {exchanges : List (Exchange τ sizeT)}

/-- A press of the button was accepted. -/
def DownAccepted (transport : τ) (button : Button) (exchange : Exchange τ sizeT) : Prop :=
  exchange.1 = controlRequest transport button true ∧ Accepted exchange.2

/-- A press or a release of the button was accepted. -/
def ControlAccepted (transport : τ) (button : Button) (exchange : Exchange τ sizeT) : Prop :=
  ∃ pressed, exchange.1 = controlRequest transport button pressed ∧ Accepted exchange.2

/-- A release of the button was sent. -/
def UpSent (transport : τ) (button : Button) (exchange : Exchange τ sizeT) : Prop :=
  exchange.1 = controlRequest transport button false

instance [DecidableEq τ] (button : Button) (exchange : Exchange τ sizeT) :
    Decidable (DownAccepted transport button exchange) :=
  inferInstanceAs (Decidable (_ ∧ _))

instance [DecidableEq τ] (button : Button) (exchange : Exchange τ sizeT) :
    Decidable (ControlAccepted transport button exchange) :=
  inferInstanceAs (Decidable (∃ pressed : Bool,
    exchange.1 = controlRequest transport button pressed ∧ Accepted exchange.2))

instance [DecidableEq τ] (button : Button) (exchange : Exchange τ sizeT) :
    Decidable (UpSent transport button exchange) :=
  inferInstanceAs (Decidable (_ = _))

/-- Whenever an open session is closed, every button whose latest accepted control in
that session was a press has been sent a release since. -/
def ReleasesButtons (exchanges : List (Exchange τ sizeT)) : Prop :=
  ∀ transport before close after, exchanges = before ++ close :: after →
    CloseSent transport close → Since (OpenAccepted transport) (CloseSent transport) before →
    ∀ button earlier down later, before = earlier ++ down :: later →
      DownAccepted transport button down →
      (∀ exchange ∈ later, ¬ControlAccepted transport button exchange ∧
        ¬OpenAccepted transport exchange ∧ ¬CloseSent transport exchange) →
      ∃ up ∈ later, UpSent transport button up

/-- The call ends the open session of the object. -/
def EndsOpenSession (call : Call τ sizeT) : Prop :=
  call.locked = true ∧ ensureConnected call.before ≠ none ∧ call.op.Ends call.before

/-- A ShutterStart that the camera accepted. -/
def ShutterPressed (call : Call τ sizeT) : Prop :=
  call.op = .shutterStart ∧ call.locked = true ∧ ∃ exchange ∈ call.exchanges, Accepted exchange.2

/-- A ShutterEnd that got the lock, or the end of a session. -/
def ShutterSettled (call : Call τ sizeT) : Prop :=
  (call.op = .shutterEnd ∧ call.locked = true) ∨ EndsOpenSession call

/-- An accepted ShutterStart is not yet followed by a ShutterEnd in its session. -/
def PendingShutter (calls : List (Call τ sizeT)) : Prop :=
  Since ShutterPressed ShutterSettled calls

instance [DecidableEq τ] (call : Call τ sizeT) : Decidable (EndsOpenSession call) :=
  inferInstanceAs (Decidable (_ ∧ _ ∧ _))

instance [DecidableEq τ] (call : Call τ sizeT) : Decidable (ShutterPressed call) :=
  inferInstanceAs (Decidable (_ ∧ _ ∧ ∃ exchange ∈ _, _))

instance [DecidableEq τ] (call : Call τ sizeT) : Decidable (ShutterSettled call) :=
  inferInstanceAs (Decidable (_ ∨ _))

instance [DecidableEq τ] (calls : List (Call τ sizeT)) : Decidable (PendingShutter calls) :=
  inferInstanceAs (Decidable (Since _ _ _))

/-! ## Held buttons -/

/-- What ends the time for which a button counts as held. -/
def Releases (transport : τ) (button : Button) (exchange : Exchange τ sizeT) : Prop :=
  UpSent transport button exchange ∨ OpenAccepted transport exchange ∨
    CloseSent transport exchange

/-- A press of the button was accepted in this session and no release sent since. -/
def Held (transport : τ) (button : Button) (exchanges : List (Exchange τ sizeT)) : Prop :=
  Since (DownAccepted transport button) (Releases transport button) exchanges

omit [Commons] in
theorem controlRequest_inj {transport' : τ} {button button' : Button} {pressed pressed' : Bool} :
    controlRequest transport button pressed = controlRequest transport' button' pressed' ↔
      transport = transport' ∧ button = button' ∧ pressed = pressed' := by
  have codes : button.code = button'.code ↔ button = button' := by
    cases button <;> cases button' <;> decide
  have values : LittleEndian.ofNat 4 (buttonValue pressed).toNat =
      LittleEndian.ofNat 4 (buttonValue pressed').toNat ↔ pressed = pressed' := by
    cases pressed <;> cases pressed' <;> decide
  simp [controlRequest, codes, values]

/-- Any session that is closed is closed without a held button. -/
theorem releasesButtons_iff :
    ReleasesButtons exchanges ↔
      Each (fun before exchange => ∀ transport, CloseSent transport exchange →
        Since (OpenAccepted transport) (CloseSent transport) before →
        ∀ button, ¬Held transport button before) exchanges := by
  constructor
  · intro releases before close after split transport closes opened button held
    rw [Held, since_iff_latest] at held
    rcases held with ⟨earlier, down, later, splitBefore, pressed, quiet⟩
    have notUp : ∀ exchange ∈ later, ¬UpSent transport button exchange :=
      fun exchange membership up => quiet exchange membership (Or.inr (Or.inl up))
    have latest : ∀ exchange ∈ later, ¬ControlAccepted transport button exchange ∧
        ¬OpenAccepted transport exchange ∧ ¬CloseSent transport exchange := by
      intro exchange membership
      refine ⟨?_, ?_, ?_⟩
      · intro accepted
        rcases accepted with ⟨pressed, request, accepted⟩
        cases pressed with
        | true => exact quiet exchange membership (Or.inl ⟨request, accepted⟩)
        | false => exact notUp exchange membership request
      · exact fun opens => quiet exchange membership (Or.inr (Or.inr (Or.inl opens)))
      · exact fun closes => quiet exchange membership (Or.inr (Or.inr (Or.inr closes)))
    rcases releases transport before close after split closes opened button earlier down later
      splitBefore pressed latest with ⟨up, membership, sent⟩
    exact notUp up membership sent
  · intro every transport before close after split closes opened button earlier down later
      splitBefore pressed latest
    by_contra unreleased
    refine every before close after split transport closes opened button
      ⟨earlier, down, later, splitBefore, pressed, ?_⟩
    intro exchange membership releases
    rcases releases with up | opens | closes
    · exact unreleased ⟨exchange, membership, up⟩
    · exact (latest exchange membership).2.1 opens
    · exact (latest exchange membership).2.2 closes

/-- A press uses the session on its transport. -/
theorem DownAccepted.used {button : Button} {exchange : Exchange τ sizeT}
    (down : DownAccepted transport button exchange) :
    sessionAction exchange = .used transport := by
  rcases exchange with ⟨request, reply⟩
  have request_eq : request = controlRequest transport button true := down.1
  rw [request_eq, sessionAction_control]

/-- Exchanges that press nothing cannot make a button held. -/
theorem held_append_of_no_press {before : List (Exchange τ sizeT)} {button : Button}
    (noPress : ∀ exchange ∈ exchanges, ¬DownAccepted transport button exchange) :
    Held transport button (before ++ exchanges) ↔
      Held transport button before ∧
        ∀ exchange ∈ exchanges, ¬Releases transport button exchange := by
  rw [Held, since_append]
  constructor
  · intro cases
    rcases cases with inside | earlier
    · exact (not_since_of_forall_not noPress inside).elim
    · exact earlier
  · exact Or.inr

/-- A handshake presses nothing. -/
theorem Handshake.no_press {connected : Bool} {held : τ} {button : Button}
    (handshake : Handshake transport exchanges connected) :
    ∀ exchange ∈ exchanges, ¬DownAccepted held button exchange := by
  have inAttempt (exchange : Exchange τ sizeT) (preparatory : Preparatory transport exchange) :
      ¬DownAccepted held button exchange := by
    intro down
    rcases preparatory with neutral | closes
    · rw [down.used] at neutral
      cases neutral
    · rw [down.used] at closes
      cases closes
  intro exchange membership
  cases connected with
  | false => exact inAttempt exchange (handshake.failed exchange membership)
  | true =>
      rcases handshake.succeeded with ⟨attempts, reply, preparatory, accepted, rfl⟩
      rcases List.mem_append.mp membership with attempt | last
      · exact inAttempt exchange (preparatory exchange attempt)
      · intro down
        have used := down.used
        rw [List.mem_singleton.mp last, sessionAction_open accepted] at used
        cases used

/-- No session is open at any CloseSession of a handshake. -/
theorem Handshake.not_opened {connected : Bool} {endpoint : τ}
    (handshake : Handshake transport exchanges connected)
    {before after : List (Exchange τ sizeT)} {close : Exchange τ sizeT}
    (split : exchanges = before ++ close :: after) :
    ∀ exchange ∈ before, ¬OpenAccepted endpoint exchange := by
  intro exchange membership
  cases connected with
  | false =>
      rw [split] at handshake
      exact (handshake.failed exchange (List.mem_append_left _ membership)).not_openAccepted
  | true =>
      rcases handshake.succeeded with ⟨attempts, reply, preparatory, accepted, rfl⟩
      have front := congrArg List.dropLast split
      rw [List.dropLast_concat, List.dropLast_append_cons] at front
      rw [front] at preparatory
      exact (preparatory exchange (List.mem_append_left _ membership)).not_openAccepted

/-- An exchange that uses the session without controlling anything concerns no button. -/
theorem neutral_of_used {exchange : Exchange τ sizeT} {held : τ} {button : Button}
    (used : sessionAction exchange = .used transport)
    (notControl : exchange.1.opcode ≠ ptpOcSDIOControlDevice) :
    ¬DownAccepted held button exchange ∧ ¬Releases held button exchange := by
  constructor
  · intro down
    rw [down.1] at notControl
    exact notControl rfl
  · intro releases
    rcases releases with up | opens | closes
    · rw [UpSent] at up
      rw [up] at notControl
      exact notControl rfl
    · rw [← sessionAction_eq_opened_iff, used] at opens
      cases opens
    · rw [← sessionAction_eq_closed_iff, used] at closes
      cases closes

theorem releases_control_iff {held : τ} {button button' : Button} {pressed : Bool}
    {reply : EscapeResult sizeT} :
    Releases held button (controlRequest transport button' pressed, reply) ↔
      transport = held ∧ button' = button ∧ pressed = false := by
  have used : sessionAction (controlRequest transport button' pressed, reply) = .used transport :=
    rfl
  rw [Releases, ← sessionAction_eq_opened_iff, ← sessionAction_eq_closed_iff, used, UpSent,
    controlRequest_inj]
  simp

theorem downAccepted_control_iff {held : τ} {button button' : Button} {pressed : Bool}
    {reply : EscapeResult sizeT} :
    DownAccepted held button (controlRequest transport button' pressed, reply) ↔
      (transport = held ∧ button' = button ∧ pressed = true) ∧ Accepted reply := by
  rw [DownAccepted, controlRequest_inj]

/-- At a CloseSession that ends an open session no button is held. -/
def ClosesReleased (before : List (Exchange τ sizeT)) (exchange : Exchange τ sizeT) : Prop :=
  ∀ transport, CloseSent transport exchange →
    Since (OpenAccepted transport) (CloseSent transport) before →
    ∀ button, ¬Held transport button before

theorem closesReleased_of_used {before : List (Exchange τ sizeT)} {exchange : Exchange τ sizeT}
    (used : sessionAction exchange = .used transport) : ClosesReleased before exchange := by
  intro endpoint closes
  rw [← sessionAction_eq_closed_iff, used] at closes
  cases closes

/-- The releases that precede the CloseSession of a session. -/
def buttonReleases (transport : τ) (stopMovie releaseFocus : EscapeResult sizeT) :
    List (Exchange τ sizeT) :=
  [(controlRequest transport .movieRec false, stopMovie),
    (controlRequest transport .s1 false, releaseFocus)]

section Releases

variable {stopMovie releaseFocus : EscapeResult sizeT} {before : List (Exchange τ sizeT)}

theorem buttonReleases_used :
    ∀ exchange ∈ buttonReleases transport stopMovie releaseFocus,
      sessionAction exchange = .used transport := by
  intro exchange membership
  simp only [buttonReleases, List.mem_cons, List.not_mem_nil, or_false] at membership
  rcases membership with rfl | rfl <;> rfl

/-- After the releases only S2 can still be held. -/
theorem held_buttonReleases_iff {button : Button} :
    Held transport button (before ++ buttonReleases transport stopMovie releaseFocus) ↔
      Held transport button before ∧ button = .s2 := by
  rw [held_append_of_no_press]
  · cases button <;> simp [buttonReleases, releases_control_iff]
  · intro exchange membership
    simp only [buttonReleases, List.mem_cons, List.not_mem_nil, or_false] at membership
    rcases membership with rfl | rfl <;> simp [downAccepted_control_iff]

/-- The releases leave the session open. -/
theorem since_buttonReleases_iff {endpoint : τ} :
    Since (OpenAccepted endpoint) (CloseSent endpoint)
        (before ++ buttonReleases transport stopMovie releaseFocus) ↔
      Since (OpenAccepted endpoint) (CloseSent endpoint) before := by
  apply since_append_of_neutral
  · intro exchange membership opens
    rw [← sessionAction_eq_opened_iff, buttonReleases_used exchange membership] at opens
    cases opens
  · intro exchange membership closes
    rw [← sessionAction_eq_closed_iff, buttonReleases_used exchange membership] at closes
    cases closes

/-- Ending a session releases MOVIE_REC and S1 first; it is in order if S2 is free. -/
theorem each_closesReleased_of_endsSession (session : ensureConnected self = some transport)
    (ends : EndsSession self exchanges)
    (opened : Since (OpenAccepted transport) (CloseSent transport) before) :
    Each (fun earlier exchange => ClosesReleased (before ++ earlier) exchange) exchanges ↔
      ¬Held transport .s2 before := by
  simp only [EndsSession, session] at ends
  rcases ends with ⟨stopMovie, releaseFocus, close, rfl⟩
  change Each _ (buttonReleases transport stopMovie releaseFocus ++
    [(closeRequest transport, close)]) ↔ _
  have releases : Each (fun earlier exchange => ClosesReleased (before ++ earlier) exchange)
      (buttonReleases transport stopMovie releaseFocus) :=
    each_of_forall fun earlier exchange membership =>
      closesReleased_of_used (buttonReleases_used exchange membership)
  rw [each_snoc]
  constructor
  · intro both held
    exact both.2 transport ⟨rfl, rfl⟩ (since_buttonReleases_iff.mpr opened) .s2
      (held_buttonReleases_iff.mpr ⟨held, rfl⟩)
  · intro free
    refine ⟨releases, ?_⟩
    intro endpoint closes _ button held
    have same : transport = endpoint := closes.1
    rw [← same, held_buttonReleases_iff] at held
    rcases held with ⟨held, rfl⟩
    exact free held

/-- After the end of a session nothing is held. -/
theorem not_held_of_endsSession {button : Button} {endpoint : τ}
    (session : ensureConnected self = some transport) (ends : EndsSession self exchanges)
    (own : Held endpoint button before → transport = endpoint) :
    ¬Held endpoint button (before ++ exchanges) := by
  simp only [EndsSession, session] at ends
  rcases ends with ⟨stopMovie, releaseFocus, close, rfl⟩
  have noPress : ∀ exchange ∈ buttonReleases transport stopMovie releaseFocus ++
      [(closeRequest transport, close)], ¬DownAccepted endpoint button exchange := by
    intro exchange membership down
    rcases List.mem_append.mp membership with release | last
    · simp only [buttonReleases, List.mem_cons, List.not_mem_nil, or_false] at release
      rcases release with rfl | rfl <;> simp [downAccepted_control_iff] at down
    · have used := down.used
      rw [List.mem_singleton.mp last, sessionAction_close] at used
      cases used
  intro held
  have parts := (held_append_of_no_press noPress).mp held
  exact parts.2 (closeRequest transport, close) (by simp)
    (Or.inr (Or.inr ⟨own parts.1, rfl⟩))

end Releases

/-! ## One call -/

/-- What links the traffic of a run to the state of the object and to its calls. -/
structure ButtonInvariant (calls : List (Call τ sizeT)) (object : SonyPTP3Impl τ) : Prop where
  opened : ∀ transport, Since (OpenAccepted transport) (CloseSent transport) (trace calls) ↔
    ensureConnected object = some transport
  held : ∀ transport, Held transport .s2 (trace calls) ↔
    ensureConnected object = some transport ∧ PendingShutter calls
  pending : PendingShutter calls → ensureConnected object ≠ none

/-- What one more call does to the buttons. -/
structure ButtonStep (calls : List (Call τ sizeT)) (call : Call τ sizeT) : Prop where
  held : ∀ transport, Held transport .s2 (trace calls ++ call.exchanges) ↔
    ensureConnected call.after = some transport ∧ PendingShutter (calls ++ [call])
  pending : PendingShutter (calls ++ [call]) → ensureConnected call.after ≠ none
  closes : Each (fun before exchange => ClosesReleased (trace calls ++ before) exchange)
    call.exchanges ↔ (EndsOpenSession call → ¬PendingShutter calls)

theorem pendingShutter_snoc {calls : List (Call τ sizeT)} {call : Call τ sizeT} :
    PendingShutter (calls ++ [call]) ↔
      ShutterPressed call ∨ (PendingShutter calls ∧ ¬ShutterSettled call) :=
  since_snoc calls call

omit [Commons] in
theorem Op.eq_shutterStart_iff {op : Op τ} :
    op = .shutterStart ↔ op.control = some (.s2, true) := by
  cases op <;> simp [Op.control]

omit [Commons] in
theorem Op.eq_shutterEnd_iff {op : Op τ} :
    op = .shutterEnd ↔ op.control = some (.s2, false) := by
  cases op <;> simp [Op.control]

section Step

variable {calls : List (Call τ sizeT)} {call : Call τ sizeT}

/-- A call without the lock changes nothing. -/
theorem ButtonInvariant.step_of_unlocked (inv : ButtonInvariant calls call.before)
    (unlocked : call.locked = false) (silent : call.exchanges = [])
    (unchanged : call.after = call.before) : ButtonStep calls call := by
  have notPressed : ¬ShutterPressed call := by simp [ShutterPressed, unlocked]
  have notSettled : ¬ShutterSettled call := by
    simp [ShutterSettled, EndsOpenSession, unlocked]
  have pending : PendingShutter (calls ++ [call]) ↔ PendingShutter calls := by
    simp [pendingShutter_snoc, notPressed, notSettled]
  refine ⟨?_, ?_, ?_⟩
  · rw [silent, List.append_nil, unchanged, pending]
    exact inv.held
  · rw [unchanged, pending]
    exact inv.pending
  · simp [silent, EndsOpenSession, unlocked]

/-- Without an open session nothing is pressed, and nothing is closed that is open. -/
theorem ButtonInvariant.step_of_closed (inv : ButtonInvariant calls call.before)
    (closed : ensureConnected call.before = none)
    (outcome : Outcome call.before call.op call.exchanges call.result call.after) :
    ButtonStep calls call := by
  have notPending : ¬PendingShutter calls := fun pending => inv.pending pending closed
  have notHeld (transport : τ) : ¬Held transport .s2 (trace calls) := by
    rw [inv.held]
    exact fun both => notPending both.2
  have notPressed : ¬ShutterPressed call := by
    intro pressed
    rcases pressed with ⟨isStart, _, exchange, membership, _⟩
    rcases outcome.cases_of_closed closed with silent | ⟨isConnect, _⟩
    · simp [silent] at membership
    · rw [isStart] at isConnect
      cases isConnect
  have stillNotPending : ¬PendingShutter (calls ++ [call]) := by
    simp [pendingShutter_snoc, notPressed, notPending]
  have noPress (transport : τ) :
      ∀ exchange ∈ call.exchanges, ¬DownAccepted transport .s2 exchange := by
    rcases outcome.cases_of_closed closed with silent | ⟨_, target, connected, handshake⟩
    · simp [silent]
    · exact handshake.no_press
  have closes : Each (fun before exchange => ClosesReleased (trace calls ++ before) exchange)
      call.exchanges := by
    rcases outcome.cases_of_closed closed with silent | ⟨_, target, connected, handshake⟩
    · rw [silent]
      exact each_nil
    · intro before exchange after split transport closes opened button
      rw [since_append, inv.opened, closed] at opened
      rcases opened with inside | ⟨impossible, _⟩
      · exact (not_since_of_forall_not (handshake.not_opened split) inside).elim
      · cases impossible
  refine ⟨?_, fun pending => (stillNotPending pending).elim,
    ⟨fun _ _ => notPending, fun _ => closes⟩⟩
  intro transport
  rw [held_append_of_no_press (noPress transport)]
  simp [notHeld, stillNotPending]

/-- The end of an open session. -/
theorem ButtonInvariant.step_of_ends {transport : τ} (inv : ButtonInvariant calls call.before)
    (locked : call.locked = true) (session : ensureConnected call.before = some transport)
    (ending : call.op.Ends call.before) (ends : EndsSession call.before call.exchanges) :
    ButtonStep calls call := by
  have endsOpen : EndsOpenSession call := ⟨locked, by simp [session], ending⟩
  have notPressed : ¬ShutterPressed call := by
    intro pressed
    rw [pressed.1] at ending
    exact Op.not_ends_of_isCommand rfl ending
  have notPending : ¬PendingShutter (calls ++ [call]) := by
    simp [pendingShutter_snoc, notPressed, ShutterSettled, endsOpen]
  refine ⟨?_, fun pending => (notPending pending).elim, ?_⟩
  · intro endpoint
    have released : ¬Held endpoint .s2 (trace calls ++ call.exchanges) := by
      refine not_held_of_endsSession session ends fun held => ?_
      have open_endpoint := ((inv.held endpoint).mp held).1
      rw [session] at open_endpoint
      exact Option.some.inj open_endpoint
    simp [released, notPending]
  · rw [each_closesReleased_of_endsSession session ends ((inv.opened transport).mpr session),
      inv.held]
    simp [session, endsOpen]

/-- A call that has nothing to do with buttons. -/
theorem ButtonInvariant.step_of_used {transport : τ} (inv : ButtonInvariant calls call.before)
    (session : ensureConnected call.before = some transport)
    (notEnding : ¬call.op.Ends call.before) (noControl : call.op.control = none)
    (stillOpen : ensureConnected call.after = some transport)
    (used : ∀ exchange ∈ call.exchanges, sessionAction exchange = .used transport ∧
      exchange.1.opcode ≠ ptpOcSDIOControlDevice) : ButtonStep calls call := by
  have notPressed : ¬ShutterPressed call := by
    intro pressed
    rw [pressed.1] at noControl
    cases noControl
  have notSettled : ¬ShutterSettled call := by
    intro settled
    rcases settled with ⟨isEnd, _⟩ | ends
    · rw [isEnd] at noControl
      cases noControl
    · exact notEnding ends.2.2
  have pending : PendingShutter (calls ++ [call]) ↔ PendingShutter calls := by
    simp [pendingShutter_snoc, notPressed, notSettled]
  refine ⟨?_, ?_, ?_⟩
  · intro endpoint
    have neutral (exchange : Exchange τ sizeT) (membership : exchange ∈ call.exchanges) :
        ¬DownAccepted endpoint .s2 exchange ∧ ¬Releases endpoint .s2 exchange :=
      neutral_of_used (used exchange membership).1 (used exchange membership).2
    have unchanged : Held endpoint .s2 (trace calls ++ call.exchanges) ↔
        Held endpoint .s2 (trace calls) :=
      since_append_of_neutral _ (fun exchange membership => (neutral exchange membership).1)
        fun exchange membership => (neutral exchange membership).2
    rw [unchanged, inv.held, session, stillOpen, pending]
  · simp [stillOpen]
  · have closes : Each (fun before exchange => ClosesReleased (trace calls ++ before) exchange)
        call.exchanges :=
      each_of_forall fun before exchange membership =>
        closesReleased_of_used (used exchange membership).1
    exact ⟨fun _ ends => (notEnding ends.2.2).elim, fun _ => closes⟩

/-- A press or a release of a button. -/
theorem ButtonInvariant.step_of_control {transport : τ}
    (inv : ButtonInvariant calls call.before) (locked : call.locked = true)
    (session : ensureConnected call.before = some transport) {button : Button} {pressed : Bool}
    {reply : EscapeResult sizeT} (control : call.op.control = some (button, pressed))
    (exchange_eq : call.exchanges = [(controlRequest transport button pressed, reply)])
    (stillOpen : ensureConnected call.after = some transport) : ButtonStep calls call := by
  have notEnding : ¬call.op.Ends call.before :=
    Op.not_ends_of_isCommand (Op.isCommand_of_control control)
  have pressed_iff : ShutterPressed call ↔ button = .s2 ∧ pressed = true ∧ Accepted reply := by
    rw [ShutterPressed, Op.eq_shutterStart_iff, control, exchange_eq]
    simp [locked, and_assoc]
  have settled_iff : ShutterSettled call ↔ button = .s2 ∧ pressed = false := by
    have notEnds : ¬EndsOpenSession call := fun ends => notEnding ends.2.2
    rw [ShutterSettled, Op.eq_shutterEnd_iff, control]
    simp [locked, notEnds]
  refine ⟨?_, ?_, ?_⟩
  · intro endpoint
    rw [exchange_eq, Held, since_snoc, ← Held, inv.held, downAccepted_control_iff,
      releases_control_iff, pendingShutter_snoc, pressed_iff, settled_iff, session, stillOpen,
      Option.some.injEq]
    grind
  · simp [stillOpen]
  · have closes : Each (fun before exchange => ClosesReleased (trace calls ++ before) exchange)
        call.exchanges := by
      rw [exchange_eq, each_singleton]
      exact closesReleased_of_used rfl
    exact ⟨fun _ ends => (notEnding ends.2.2).elim, fun _ => closes⟩

end Step

variable [DecidableEq τ] {calls : List (Call τ sizeT)} {state : Option (SonyPTP3Impl τ)}

/-- While the object lives, the open session is the one its state names. -/
theorem CallRun.opened_iff (run : CallRun calls (some self)) (endpoint : τ) :
    Since (OpenAccepted endpoint) (CloseSent endpoint) (trace calls) ↔
      ensureConnected self = some endpoint := by
  rcases run.sessionInvariant.accepted with ⟨final, accepted, alive, _⟩
  rw [← since_action_iff, ← Session.open_iff_since accepted, alive self rfl]

theorem Performs.buttonStep {state' : Option (SonyPTP3Impl τ)} {call : Call τ sizeT}
    (performs : Performs state call state') (inv : ButtonInvariant calls call.before) :
    ButtonStep calls call := by
  rcases performs.cases with ⟨unlocked, silent, _, unchanged⟩ | ⟨locked, outcome⟩
  · exact inv.step_of_unlocked unlocked silent unchanged
  · cases session : ensureConnected call.before with
    | none => exact inv.step_of_closed session outcome
    | some transport =>
        rcases outcome.cases_of_open session with
          ⟨ending, ends, _⟩ | ⟨notEnding, noControl, stillOpen, used⟩ |
          ⟨button, pressed, reply, control, exchange_eq, _, after_eq⟩
        · exact inv.step_of_ends locked session ending ends
        · exact inv.step_of_used session notEnding noControl stillOpen used
        · refine inv.step_of_control locked session control exchange_eq ?_
          rw [after_eq, ensureConnected_afterControl, session]

/-- The guard on the calls of a run: none ends an open session while an accepted
ShutterStart of that session has not been followed by a ShutterEnd. -/
def ShutterReleasedInTime (calls : List (Call τ sizeT)) : Prop :=
  Each (fun before call => EndsOpenSession call → ¬PendingShutter before) calls

instance (calls : List (Call τ sizeT)) : Decidable (ShutterReleasedInTime calls) :=
  inferInstanceAs (Decidable (Each _ _))

/-- What holds of every run, whatever its calls. -/
structure ButtonRun (calls : List (Call τ sizeT)) (state : Option (SonyPTP3Impl τ)) :
    Prop where
  releases : ReleasesButtons (trace calls) ↔ ShutterReleasedInTime calls
  alive : ∀ object, state = some object → ButtonInvariant calls object

theorem CallRun.buttonRun (run : CallRun calls state) : ButtonRun calls state := by
  refine run.invariant ?_ ?_
  · intro state begins
    refine ⟨?_, ?_⟩
    · rw [releasesButtons_iff]
      exact ⟨fun _ => each_nil, fun _ => each_nil⟩
    · intro object alive
      rw [begins] at alive
      cases alive
      have notPending : ¬PendingShutter ([] : List (Call τ sizeT)) := since_nil
      refine ⟨?_, ?_, fun pending => (notPending pending).elim⟩
      · intro transport
        exact ⟨fun pending => (since_nil pending).elim, fun impossible => by cases impossible⟩
      · intro transport
        exact ⟨fun held => (since_nil held).elim, fun both => (notPending both.2).elim⟩
  · intro calls state call state' run ih performs
    have step := performs.buttonStep (ih.alive _ performs.alive)
    refine ⟨?_, ?_⟩
    · rw [releasesButtons_iff, trace_append, trace_singleton, each_append,
        ShutterReleasedInTime, each_snoc, ← ShutterReleasedInTime, ← ih.releases,
        releasesButtons_iff]
      exact and_congr_right fun _ => step.closes
    · intro object alive
      have longer : CallRun (calls ++ [call]) (some object) := by
        rw [← alive]
        exact .snoc run performs
      have object_eq : object = call.after := performs.after_of_alive alive
      refine ⟨longer.opened_iff, ?_, ?_⟩
      · intro transport
        rw [trace_append, trace_singleton, object_eq]
        exact step.held transport
      · rw [object_eq]
        exact step.pending

/-- No button is left held at the end of any session exactly when no session is ended
while S2 is pressed. -/
theorem releasesButtons_iff_shutterReleasedInTime (run : CallRun calls state) :
    ReleasesButtons (trace calls) ↔ ShutterReleasedInTime calls :=
  run.buttonRun.releases

end Buttons

/-- Connect, press the shutter, disconnect. -/
def heldShutterScript : List (Op Unit × Option (List (EscapeResult .bits64))) :=
  [(.setPtpTransport (some ()), some []),
    (.connect, some [okReply, okReply, infoReply, okReply, okReply]),
    (.shutterStart, some [okReply]),
    (.disconnect, some [okReply, okReply, okReply])]

/-- The run is possible, and it ends the session without a release of S2. -/
theorem heldShutterScript_holds_shutter :
    CallRun (scriptCalls heldShutterScript) (scriptState heldShutterScript) ∧
      ¬ReleasesButtons (trace (scriptCalls heldShutterScript)) := by
  refine ⟨callRun_script (by decide), ?_⟩
  intro releases
  have split : trace (scriptCalls heldShutterScript) =
      (trace (scriptCalls heldShutterScript)).take 8 ++ (closeRequest (), okReply) :: [] := by
    decide
  have splitBefore : (trace (scriptCalls heldShutterScript)).take 8 =
      (trace (scriptCalls heldShutterScript)).take 5 ++
        (controlRequest () .s2 true, okReply) :: buttonReleases () okReply okReply := by decide
  have released := releases () _ _ _ split ⟨rfl, rfl⟩ (by decide) .s2 _ _ _ splitBefore
    ⟨rfl, by decide⟩ (by decide)
  have unreleased : ¬∃ up ∈ buttonReleases () okReply okReply, UpSent () .s2 up := by decide
  exact unreleased released

/-- The same with the shutter released first. -/
def releasedShutterScript : List (Op Unit × Option (List (EscapeResult .bits64))) :=
  [(.setPtpTransport (some ()), some []),
    (.connect, some [okReply, okReply, infoReply, okReply, okReply]),
    (.shutterStart, some [okReply]),
    (.shutterEnd, some [okReply]),
    (.disconnect, some [okReply, okReply, okReply])]

theorem releasedShutterScript_releases_buttons :
    (trace (scriptCalls releasedShutterScript)).length = 10 ∧
      ReleasesButtons (trace (scriptCalls releasedShutterScript)) := by
  have run : CallRun (scriptCalls releasedShutterScript) (scriptState releasedShutterScript) :=
    callRun_script (by decide)
  exact ⟨by decide, (releasesButtons_iff_shutterReleasedInTime run).mpr (by decide)⟩

end SimpleCamCtrl.Impl
