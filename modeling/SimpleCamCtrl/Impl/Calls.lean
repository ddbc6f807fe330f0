import SimpleCamCtrl.Impl.Handshake

/-!
# Public calls

A public operation either gets the API lock and runs, or times out and does nothing.
`Outcome` says once and for all what an operation can do: which commands it sends, what
it returns and which state it leaves.  Every property of whole runs is proved by cases
on it.
-/

namespace SimpleCamCtrl.Impl

variable {τ : Type} {sizeT : SizeT} [Commons]

/-- The public operations that can send commands or change the state. -/
inductive Op (τ : Type) where
  | connect
  | disconnect
  | setPtpTransport (transport : Option τ)
  | updateStatus
  | setExposureParams (params : ExposureParams)
  | focusStart
  | focusEnd
  | shutterStart
  | shutterEnd
  | movieRecStart
  | movieRecEnd
  | destroy
  deriving DecidableEq

/-- An operation that has got the API lock.  The destructor calls `Disconnect`. -/
def perform [DecidableEq τ] (self : SonyPTP3Impl τ) :
    Op τ → Escaping τ sizeT (Bool × SonyPTP3Impl τ)
  | .connect => connect self
  | .disconnect | .destroy => do
      let self ← disconnect self
      return (true, self)
  | .setPtpTransport transport => setPtpTransport self transport
  | .updateStatus => updateStatus self
  | .setExposureParams params => do
      let ok ← setExposureParams self params
      return (ok, self)
  | .focusStart => do
      let ok ← focusStart self
      return (ok, self)
  | .focusEnd => do
      let ok ← focusEnd self
      return (ok, self)
  | .shutterStart => do
      let ok ← shutterStart self
      return (ok, self)
  | .shutterEnd => do
      let ok ← shutterEnd self
      return (ok, self)
  | .movieRecStart => movieRecStart self
  | .movieRecEnd => movieRecEnd self

/-- The button that an operation presses or releases. -/
def Op.control : Op τ → Option (Button × Bool)
  | .focusStart => some (.s1, true)
  | .focusEnd => some (.s1, false)
  | .shutterStart => some (.s2, true)
  | .shutterEnd => some (.s2, false)
  | .movieRecStart => some (.movieRec, true)
  | .movieRecEnd => some (.movieRec, false)
  | _ => none

/-- The operation is a command that needs an open session. -/
def Op.isCommand (op : Op τ) : Bool :=
  match op with
  | .updateStatus | .setExposureParams _ => true
  | _ => op.control.isSome

open Interaction

variable {self : SonyPTP3Impl τ} {transport : τ} {exchanges : List (Exchange τ sizeT)}

theorem controlDevice_of_closed (closed : ensureConnected self = none) (code value : UInt32) :
    (controlDevice self code value : Escaping τ sizeT Bool) = pure false := by
  rw [controlDevice, closed]

/-- In an open session a control command is one exchange. -/
theorem exec_controlDevice (opened : ensureConnected self = some transport) (button : Button)
    (pressed : Bool) {ok : Bool} :
    Exec (controlDevice self button.code (buttonValue pressed)) exchanges ok ↔
      ∃ reply, exchanges = [(controlRequest transport button pressed, reply)] ∧
        decide (Accepted reply) = ok := by
  rw [controlDevice, opened]
  simp only [escape, exec_perform_bind, exec_pure, succeeded_eq]
  constructor
  · intro execution
    rcases execution with ⟨reply, rest, rfl, rfl, answered⟩
    exact ⟨reply, rfl, answered⟩
  · intro execution
    rcases execution with ⟨reply, rfl, answered⟩
    exact ⟨reply, [], rfl, rfl, answered⟩

/-- In an open session a write of a supported width is one exchange. -/
theorem exec_setDevicePropValue (opened : ensureConnected self = some transport)
    (code : UInt32) (value : UInt64) {sizeBytes : UInt32}
    (supported : ¬(sizeBytes = 0 ∨ sizeBytes > 8)) {ok : Bool} :
    Exec (setDevicePropValue self code value sizeBytes) exchanges ok ↔
      ∃ reply, exchanges = [(writeRequest transport code
          (LittleEndian.ofNat sizeBytes.toNat value.toNat), reply)] ∧
        decide (Accepted reply) = ok := by
  rw [setDevicePropValue, opened]
  simp only [if_neg supported, escape, exec_perform_bind, exec_pure, succeeded_eq]
  constructor
  · intro execution
    rcases execution with ⟨reply, rest, rfl, rfl, answered⟩
    exact ⟨reply, rfl, answered⟩
  · intro execution
    rcases execution with ⟨reply, rfl, answered⟩
    exact ⟨reply, [], rfl, rfl, answered⟩

/-- The commands that end the session of an object, if it has one. -/
def EndsSession (self : SonyPTP3Impl τ) (exchanges : List (Exchange τ sizeT)) : Prop :=
  match ensureConnected self with
  | none => exchanges = []
  | some transport => ∃ stopMovie releaseFocus close,
      exchanges = [(controlRequest transport .movieRec false, stopMovie),
        (controlRequest transport .s1 false, releaseFocus), (closeRequest transport, close)]

theorem endSession_endsSession (execution : Exec (endSession self) exchanges ()) :
    EndsSession self exchanges := by
  rw [EndsSession]
  cases session : ensureConnected self with
  | none =>
      rw [endSession, session, exec_pure] at execution
      exact execution.1
  | some transport =>
      rw [endSession, session] at execution
      simp only at execution
      rw [exec_bind] at execution
      rcases execution with ⟨first, _, rest, rfl, stopped, execution⟩
      rcases (exec_controlDevice session .movieRec false).mp stopped with ⟨stopMovie, rfl, _⟩
      rw [exec_bind] at execution
      rcases execution with ⟨second, _, rest, rfl, released, execution⟩
      rcases (exec_controlDevice session .s1 false).mp released with ⟨releaseFocus, rfl, _⟩
      rw [escape, exec_perform_bind] at execution
      rcases execution with ⟨close, rest, rfl, execution⟩
      rw [exec_pure] at execution
      rw [execution.1]
      exact ⟨stopMovie, releaseFocus, close, rfl⟩

/-- `SetExposureParams` writes all four values, whatever the answers. -/
theorem exec_setExposureParams (opened : ensureConnected self = some transport)
    {params : ExposureParams} {ok : Bool}
    (execution : Exec (setExposureParams self params) exchanges ok) :
    exchanges.map Prod.fst = exposureWrites transport params ∧
      ok = decide (∀ exchange ∈ exchanges, Accepted exchange.2) := by
  rw [setExposureParams, opened] at execution
  simp only at execution
  rw [exec_bind] at execution
  rcases execution with ⟨_, _, rest, rfl, shutter, execution⟩
  rcases (exec_setDevicePropValue opened _ _ (by decide)).mp shutter with ⟨first, rfl, rfl⟩
  rw [exec_bind] at execution
  rcases execution with ⟨_, _, rest, rfl, fNumber, execution⟩
  rcases (exec_setDevicePropValue opened _ _ (by decide)).mp fNumber with ⟨second, rfl, rfl⟩
  rw [exec_bind] at execution
  rcases execution with ⟨_, _, rest, rfl, iso, execution⟩
  rcases (exec_setDevicePropValue opened _ _ (by decide)).mp iso with ⟨third, rfl, rfl⟩
  rw [exec_bind] at execution
  rcases execution with ⟨_, _, rest, rfl, exposureComp, execution⟩
  rcases (exec_setDevicePropValue opened _ _ (by decide)).mp exposureComp with ⟨fourth, rfl, rfl⟩
  rw [exec_pure] at execution
  rcases execution with ⟨rfl, rfl⟩
  refine ⟨rfl, ?_⟩
  simp [Bool.decide_and, Bool.and_assoc]

/-! ## Outcomes -/

/-- The state after a control command; only the movie commands keep a record of it. -/
def afterControl (self : SonyPTP3Impl τ) (button : Button) (pressed : Bool)
    (reply : EscapeResult sizeT) : SonyPTP3Impl τ :=
  if button = .movieRec ∧ Accepted reply then setMovieRecording self pressed else self

/-- The state after `UpdateStatus` has taken over a reply. -/
def afterStatus (self : SonyPTP3Impl τ) (props : DeviceProperties.PropertyMap) :
    SonyPTP3Impl τ :=
  { self with
    cache := updateCache self.cache props
    hasStatus := hasAnyExposureField props || self.hasStatus }

/-- `UpdateStatus` takes over a reply: the device answered OK, and either the reply
carries an exposure field or an earlier one did. -/
def TakesStatus (self : SonyPTP3Impl τ) (reply : EscapeResult sizeT) : Prop :=
  Accepted reply ∧
    (hasAnyExposureField (DeviceProperties.parseDeviceProperties reply.payload) ||
      self.hasStatus) = true

/-- What an operation that has got the lock can do: the commands it sends with their
answers, its result and the state it leaves. -/
inductive Outcome (self : SonyPTP3Impl τ) :
    Op τ → List (Exchange τ sizeT) → Bool → SonyPTP3Impl τ → Prop where
  | noTransport :
      self.transport = none →
      Outcome self .connect [] false { self with connectionState := .disconnected }
  | alreadyOpen {transport : τ} :
      ensureConnected self = some transport → Outcome self .connect [] true self
  | connected {transport : τ} {exchanges : List (Exchange τ sizeT)} :
      self.transport = some transport → ensureConnected self = none →
      Handshake transport exchanges true →
      Outcome self .connect exchanges true
        { self with connectionState := .sessionOpen, hasStatus := false }
  | refused {transport : τ} {exchanges : List (Exchange τ sizeT)} :
      self.transport = some transport → ensureConnected self = none →
      Handshake transport exchanges false →
      Outcome self .connect exchanges false
        { self with connectionState := .transportReady }
  | disconnected {op : Op τ} {exchanges : List (Exchange τ sizeT)} :
      op = .disconnect ∨ op = .destroy → EndsSession self exchanges →
      Outcome self op exchanges true
        { self with
          connectionState := if self.transport.isSome then .transportReady else .disconnected
          hasStatus := false }
  | keptNone :
      self.transport = none →
      Outcome self (.setPtpTransport self.transport) [] false
        { self with connectionState := .disconnected, hasStatus := false }
  | keptReady {transport : τ} :
      self.transport = some transport → ensureConnected self = none →
      Outcome self (.setPtpTransport self.transport) [] true
        { self with connectionState := .transportReady }
  | keptOpen {transport : τ} :
      ensureConnected self = some transport →
      Outcome self (.setPtpTransport self.transport) [] true self
  | newTransport {transport : Option τ} {exchanges : List (Exchange τ sizeT)} :
      self.transport ≠ transport → EndsSession self exchanges →
      Outcome self (.setPtpTransport transport) exchanges transport.isSome
        { self with
          transport := transport
          hasStatus := false
          connectionState := if transport.isSome then .transportReady else .disconnected }
  | noSession {op : Op τ} :
      ensureConnected self = none → op.isCommand = true → Outcome self op [] false self
  | statusRefused {transport : τ} {reply : EscapeResult sizeT} :
      ensureConnected self = some transport → ¬TakesStatus self reply →
      Outcome self .updateStatus [(statusRequest transport, reply)] false self
  | statusTaken {transport : τ} {reply : EscapeResult sizeT} :
      ensureConnected self = some transport → TakesStatus self reply →
      Outcome self .updateStatus [(statusRequest transport, reply)] true
        (afterStatus self (DeviceProperties.parseDeviceProperties reply.payload))
  | wrote {transport : τ} {params : ExposureParams} {exchanges : List (Exchange τ sizeT)} :
      ensureConnected self = some transport →
      exchanges.map Prod.fst = exposureWrites transport params →
      Outcome self (.setExposureParams params) exchanges
        (decide (∀ exchange ∈ exchanges, Accepted exchange.2)) self
  | controlled {op : Op τ} {transport : τ} {button : Button} {pressed : Bool}
      {reply : EscapeResult sizeT} :
      ensureConnected self = some transport → op.control = some (button, pressed) →
      Outcome self op [(controlRequest transport button pressed, reply)]
        (decide (Accepted reply)) (afterControl self button pressed reply)

omit [Commons] in
theorem ensureConnected_eq_some_iff :
    ensureConnected self = some transport ↔
      self.connectionState = .sessionOpen ∧ self.transport = some transport := by
  simp [ensureConnected]

omit [Commons] in
theorem isConnected_iff :
    isConnected self = true ↔ ∃ transport, ensureConnected self = some transport := by
  simp [isConnected, ensureConnected_eq_some_iff, Option.isSome_iff_exists]

omit [Commons] in
theorem ensureConnected_of_not_open (notOpen : self.connectionState ≠ .sessionOpen) :
    ensureConnected self = none := by
  simp [ensureConnected, notOpen]

theorem connect_outcome {result : Bool} {after : SonyPTP3Impl τ}
    (execution : Exec (connect self) exchanges (result, after)) :
    Outcome self .connect exchanges result after := by
  unfold connect at execution
  split at execution
  · rename_i held
    rw [exec_pure] at execution
    rcases execution with ⟨rfl, same⟩
    cases same
    exact .noTransport held
  · rename_i transport held
    split at execution
    · rename_i isOpen
      rw [exec_pure] at execution
      rcases execution with ⟨rfl, same⟩
      cases same
      exact .alreadyOpen (ensureConnected_eq_some_iff.mpr ⟨isOpen, held⟩)
    · rename_i notOpen
      have closed := ensureConnected_of_not_open notOpen
      rw [exec_bind] at execution
      rcases execution with ⟨left, connected, right, rfl, attempted, execution⟩
      have shape := handshake_handshake attempted
      cases connected with
      | true =>
          simp only [if_true, exec_pure] at execution
          rcases execution with ⟨rfl, same⟩
          cases same
          rw [List.append_nil]
          exact .connected held closed shape
      | false =>
          simp only [Bool.false_eq_true, if_false, exec_pure] at execution
          rcases execution with ⟨rfl, same⟩
          cases same
          rw [List.append_nil]
          exact .refused held closed shape

theorem setPtpTransport_outcome [DecidableEq τ] {target : Option τ} {result : Bool}
    {after : SonyPTP3Impl τ}
    (execution : Exec (setPtpTransport self target) exchanges (result, after)) :
    Outcome self (.setPtpTransport target) exchanges result after := by
  unfold setPtpTransport at execution
  split at execution
  · rename_i same
    rw [← same]
    split at execution
    · rename_i held
      rw [exec_pure] at execution
      rcases execution with ⟨rfl, same⟩
      cases same
      exact .keptNone held
    · rename_i transport held
      split at execution
      · rename_i notOpen
        rw [exec_pure] at execution
        rcases execution with ⟨rfl, same⟩
        cases same
        exact .keptReady held (ensureConnected_of_not_open notOpen)
      · rename_i isOpen
        rw [exec_pure] at execution
        rcases execution with ⟨rfl, same⟩
        cases same
        exact .keptOpen (ensureConnected_eq_some_iff.mpr ⟨not_not.mp isOpen, held⟩)
  · rename_i different
    rw [exec_bind] at execution
    rcases execution with ⟨left, _, right, rfl, ended, execution⟩
    have ends := endSession_endsSession ended
    cases target with
    | none =>
        simp only [exec_pure] at execution
        rcases execution with ⟨rfl, same⟩
        cases same
        rw [List.append_nil]
        exact .newTransport different ends
    | some transport =>
        simp only [exec_pure] at execution
        rcases execution with ⟨rfl, same⟩
        cases same
        rw [List.append_nil]
        exact .newTransport different ends

theorem disconnect_outcome {op : Op τ} {after : SonyPTP3Impl τ}
    (ending : op = .disconnect ∨ op = .destroy)
    (execution : Exec (disconnect self) exchanges after) :
    Outcome self op exchanges true after := by
  rcases exec_bind_pure.mp execution with ⟨_, ended, rfl⟩
  exact .disconnected ending (endSession_endsSession ended)

theorem updateStatus_outcome {result : Bool} {after : SonyPTP3Impl τ}
    (execution : Exec (updateStatus self) exchanges (result, after)) :
    Outcome self .updateStatus exchanges result after := by
  unfold updateStatus at execution
  split at execution
  · rename_i closed
    rw [exec_pure] at execution
    rcases execution with ⟨rfl, same⟩
    cases same
    exact .noSession closed rfl
  · rename_i transport opened
    rw [escape, exec_perform_bind] at execution
    rcases execution with ⟨reply, rest, rfl, execution⟩
    split at execution
    · rename_i refused
      rw [exec_pure] at execution
      rcases execution with ⟨rfl, same⟩
      cases same
      refine .statusRefused opened fun takes => ?_
      simp [takes.1.1, takes.1.2] at refused
    · rename_i answered
      have accepted : Accepted reply := by simpa [Accepted] using answered
      simp only at execution
      split at execution
      · rename_i nothing
        rw [exec_pure] at execution
        rcases execution with ⟨rfl, same⟩
        cases same
        refine .statusRefused opened fun takes => ?_
        have carried := takes.2
        simp only [Bool.and_eq_true, Bool.not_eq_true'] at nothing
        simp [nothing.1, nothing.2] at carried
      · rename_i something
        rw [exec_pure] at execution
        rcases execution with ⟨rfl, same⟩
        cases same
        refine .statusTaken opened ⟨accepted, ?_⟩
        simpa [or_iff_not_imp_left] using something

/-- A control command, whether or not a session is open. -/
theorem control_outcome {op : Op τ} {button : Button} {pressed ok : Bool}
    (control : op.control = some (button, pressed)) (command : op.isCommand = true)
    (execution : Exec (controlDevice self button.code (buttonValue pressed)) exchanges ok) :
    ∃ after, Outcome self op exchanges ok after ∧
      after = if button = .movieRec ∧ ok then setMovieRecording self pressed else self := by
  cases session : ensureConnected self with
  | none =>
      rw [controlDevice_of_closed session, exec_pure] at execution
      rcases execution with ⟨rfl, rfl⟩
      exact ⟨self, .noSession session command, by simp⟩
  | some transport =>
      rcases (exec_controlDevice session button pressed).mp execution with ⟨reply, rfl, rfl⟩
      exact ⟨_, .controlled session control, by simp [afterControl]⟩

/-- An operation on a button that keeps no record of it. -/
theorem control_outcome_of_ne {op : Op τ} {button : Button} {pressed result : Bool}
    {after : SonyPTP3Impl τ} (control : op.control = some (button, pressed))
    (command : op.isCommand = true) (notMovie : button ≠ .movieRec)
    (execution : Exec (do
      let ok ← controlDevice self button.code (buttonValue pressed)
      return (ok, self)) exchanges (result, after)) :
    Outcome self op exchanges result after := by
  rcases exec_bind_pure.mp execution with ⟨ok, controlled, same⟩
  cases same
  rcases control_outcome control command controlled with ⟨after, outcome, afterEq⟩
  rw [if_neg fun both => notMovie both.1] at afterEq
  exact afterEq ▸ outcome

/-- An operation on the movie button, which keeps a record of it. -/
theorem control_outcome_movie {op : Op τ} {pressed result : Bool} {after : SonyPTP3Impl τ}
    (control : op.control = some (.movieRec, pressed)) (command : op.isCommand = true)
    (execution : Exec (do
      let ok ← controlDevice self Button.movieRec.code (buttonValue pressed)
      return (ok, if ok then setMovieRecording self pressed else self))
        exchanges (result, after)) :
    Outcome self op exchanges result after := by
  rcases exec_bind_pure.mp execution with ⟨ok, controlled, same⟩
  cases same
  rcases control_outcome control command controlled with ⟨after, outcome, afterEq⟩
  simp only [true_and] at afterEq
  exact afterEq ▸ outcome

/-- Every operation that has got the lock has one of the outcomes. -/
theorem perform_outcome [DecidableEq τ] {op : Op τ} {result : Bool} {after : SonyPTP3Impl τ}
    (execution : Exec (perform self op) exchanges (result, after)) :
    Outcome self op exchanges result after := by
  cases op with
  | connect => exact connect_outcome execution
  | disconnect | destroy =>
      rcases exec_bind_pure.mp execution with ⟨_, ended, same⟩
      cases same
      exact disconnect_outcome (by simp) ended
  | setPtpTransport target => exact setPtpTransport_outcome execution
  | updateStatus => exact updateStatus_outcome execution
  | setExposureParams params =>
      rcases exec_bind_pure.mp execution with ⟨ok, written, same⟩
      cases same
      cases session : ensureConnected self with
      | none =>
          rw [setExposureParams, session, exec_pure] at written
          rcases written with ⟨rfl, rfl⟩
          exact .noSession session rfl
      | some transport =>
          rcases exec_setExposureParams session written with ⟨requests, rfl⟩
          exact .wrote session requests
  | focusStart | focusEnd | shutterStart | shutterEnd =>
      exact control_outcome_of_ne rfl rfl (by decide) execution
  | movieRecStart | movieRecEnd => exact control_outcome_movie rfl rfl execution

variable {after : SonyPTP3Impl τ}

theorem ensureConnected_afterControl {button : Button} {pressed : Bool}
    {reply : EscapeResult sizeT} :
    ensureConnected (afterControl self button pressed reply) = ensureConnected self := by
  unfold afterControl
  split <;> rfl

omit [Commons] in
theorem ensureConnected_afterStatus {props : DeviceProperties.PropertyMap} :
    ensureConnected (afterStatus self props) = ensureConnected self := rfl

/-- Once a reply has been taken over, the cache it left can be read. -/
theorem getExposureParams_afterStatus {reply : EscapeResult sizeT}
    (taken : TakesStatus self reply) :
    getExposureParams (afterStatus self (DeviceProperties.parseDeviceProperties reply.payload)) =
      some (updateCache self.cache
        (DeviceProperties.parseDeviceProperties reply.payload)).exposureParams :=
  if_pos taken.2

/-- What UpdateStatus can do: nothing without a session; otherwise one request, whose reply
is taken over or leaves no trace. -/
theorem Outcome.of_updateStatus {op : Op τ} {result : Bool}
    (outcome : Outcome self op exchanges result after) (isUpdate : op = .updateStatus) :
    (ensureConnected self = none ∧ exchanges = [] ∧ result = false ∧ after = self) ∨
      ∃ transport reply, ensureConnected self = some transport ∧
        exchanges = [(statusRequest transport, reply)] ∧
        ((¬TakesStatus self reply ∧ result = false ∧ after = self) ∨
          (TakesStatus self reply ∧ result = true ∧
            after = afterStatus self (DeviceProperties.parseDeviceProperties reply.payload))) := by
  cases outcome with
  | noSession closed => exact Or.inl ⟨closed, rfl, rfl, rfl⟩
  | statusRefused opened refused =>
      exact Or.inr ⟨_, _, opened, rfl, Or.inl ⟨refused, rfl, rfl⟩⟩
  | statusTaken opened taken => exact Or.inr ⟨_, _, opened, rfl, Or.inr ⟨taken, rfl, rfl⟩⟩
  | disconnected ending => rcases ending with rfl | rfl <;> cases isUpdate
  | controlled opened control =>
      rw [isUpdate] at control
      cases control
  | _ => cases isUpdate

/-- An UpdateStatus that succeeds has taken over a reply. -/
theorem Outcome.taken_of_updateStatus {op : Op τ} {result : Bool}
    (outcome : Outcome self op exchanges result after) (isUpdate : op = .updateStatus)
    (succeeded : result = true) :
    ∃ transport reply, exchanges = [(statusRequest transport, reply)] ∧
      TakesStatus self reply ∧
      after = afterStatus self (DeviceProperties.parseDeviceProperties reply.payload) := by
  rcases outcome.of_updateStatus isUpdate with ⟨_, _, failed, _⟩ |
    ⟨transport, reply, _, exchangesEq, ⟨_, failed, _⟩ | ⟨taken, _, afterEq⟩⟩
  · rw [succeeded] at failed
    cases failed
  · rw [succeeded] at failed
    cases failed
  · exact ⟨transport, reply, exchangesEq, taken, afterEq⟩

/-- The writes of `SetExposureParams` use the session on their transport. -/
theorem used_of_exposureWrites {params : ExposureParams}
    (requests : exchanges.map Prod.fst = exposureWrites transport params) :
    ∀ exchange ∈ exchanges, sessionAction exchange = .used transport ∧
      exchange.1.opcode ≠ ptpOcSDIOControlDevice := by
  intro exchange membership
  have request : exchange.1 ∈ exposureWrites transport params := by
    rw [← requests]
    exact List.mem_map_of_mem membership
  rcases exchange with ⟨request', reply⟩
  simp only [exposureWrites, List.mem_cons, List.not_mem_nil, or_false] at request
  rcases request with rfl | rfl | rfl | rfl <;>
    exact ⟨rfl, writeRequest_ne_control _ _ _⟩

/-- The operation ends the session of an object that has one. -/
def Op.Ends (op : Op τ) (self : SonyPTP3Impl τ) : Prop :=
  op = .disconnect ∨ op = .destroy ∨
    ∃ target, op = .setPtpTransport target ∧ self.transport ≠ target

instance [DecidableEq τ] (op : Op τ) (self : SonyPTP3Impl τ) : Decidable (op.Ends self) :=
  match op with
  | .disconnect => isTrue (Or.inl rfl)
  | .destroy => isTrue (Or.inr (Or.inl rfl))
  | .setPtpTransport target =>
      decidable_of_iff (self.transport ≠ target) (by simp [Op.Ends])
  | .connect | .updateStatus | .setExposureParams _ | .focusStart | .focusEnd | .shutterStart
  | .shutterEnd | .movieRecStart | .movieRecEnd => isFalse (by simp [Op.Ends])

omit [Commons] in
theorem Op.not_ends_of_isCommand {op : Op τ} (command : op.isCommand = true) :
    ¬op.Ends self := by
  intro ends
  rcases ends with rfl | rfl | ⟨target, rfl, _⟩ <;> cases command

omit [Commons] in
theorem Op.not_ends_connect : ¬Op.Ends .connect self := by
  intro ends
  rcases ends with same | same | ⟨target, same, _⟩ <;> cases same

omit [Commons] in
theorem Op.isCommand_of_control {op : Op τ} {button : Button} {pressed : Bool}
    (control : op.control = some (button, pressed)) : op.isCommand = true := by
  cases op <;> first | rfl | cases control

/-- Without an open session a call is silent or a handshake. -/
theorem Outcome.cases_of_closed {op : Op τ} {result : Bool}
    (outcome : Outcome self op exchanges result after)
    (closed : ensureConnected self = none) :
    exchanges = [] ∨
      op = .connect ∧ ∃ transport connected, Handshake transport exchanges connected := by
  cases outcome with
  | noTransport | keptNone | keptReady | noSession => exact Or.inl rfl
  | connected held _ handshake | refused held _ handshake =>
      exact Or.inr ⟨rfl, _, _, handshake⟩
  | disconnected ending ends | newTransport different ends =>
      simp only [EndsSession, closed] at ends
      exact Or.inl ends
  | alreadyOpen opened | keptOpen opened | statusRefused opened | statusTaken opened
  | wrote opened | controlled opened =>
      rw [closed] at opened
      cases opened

/-- In an open session a call ends it, leaves the buttons alone, or controls one. -/
theorem Outcome.cases_of_open {op : Op τ} {result : Bool}
    (outcome : Outcome self op exchanges result after)
    (opened : ensureConnected self = some transport) :
    (op.Ends self ∧ EndsSession self exchanges ∧ ensureConnected after = none) ∨
      (¬op.Ends self ∧ op.control = none ∧ ensureConnected after = some transport ∧
        ∀ exchange ∈ exchanges, sessionAction exchange = .used transport ∧
          exchange.1.opcode ≠ ptpOcSDIOControlDevice) ∨
      ∃ button pressed reply, op.control = some (button, pressed) ∧
        exchanges = [(controlRequest transport button pressed, reply)] ∧
        result = decide (Accepted reply) ∧ after = afterControl self button pressed reply := by
  have held := (ensureConnected_eq_some_iff.mp opened).2
  cases outcome with
  | noTransport absent | keptNone absent =>
      rw [absent] at held
      cases held
  | connected _ closed _ | refused _ closed _ | keptReady _ closed | noSession closed _ =>
      rw [closed] at opened
      cases opened
  | alreadyOpen => exact Or.inr (Or.inl ⟨Op.not_ends_connect, rfl, opened, by simp⟩)
  | disconnected ending ends =>
      refine Or.inl ⟨?_, ends, ?_⟩
      · rcases ending with rfl | rfl
        · exact Or.inl rfl
        · exact Or.inr (Or.inl rfl)
      · simp [ensureConnected, held]
  | keptOpen =>
      refine Or.inr (Or.inl ⟨?_, rfl, opened, by simp⟩)
      intro ends
      rcases ends with same | same | ⟨target, same, different⟩
      · cases same
      · cases same
      · cases same
        exact different rfl
  | newTransport different ends =>
      rename_i target
      refine Or.inl ⟨Or.inr (Or.inr ⟨target, rfl, different⟩), ends, ?_⟩
      cases target <;> simp [ensureConnected]
  | statusRefused opened' | statusTaken opened' =>
      rw [opened] at opened'
      cases opened'
      refine Or.inr (Or.inl ⟨Op.not_ends_of_isCommand rfl, rfl, opened, ?_⟩)
      intro exchange membership
      rw [List.mem_singleton.mp membership]
      exact ⟨rfl, statusRequest_ne_control _⟩
  | wrote opened' requests =>
      rw [opened] at opened'
      cases opened'
      exact Or.inr (Or.inl ⟨Op.not_ends_of_isCommand rfl, rfl, opened,
        used_of_exposureWrites requests⟩)
  | controlled opened' control =>
      rw [opened] at opened'
      cases opened'
      exact Or.inr (Or.inr ⟨_, _, _, control, rfl, rfl, rfl⟩)

end SimpleCamCtrl.Impl
