import SimpleCamCtrl.Impl.Runs
import SimpleCamCtrl.Library.Contract

/-!
# The transport of an object

Every command that an operation sends goes to the transport that the object held when the
operation began, with at most the eight bytes of a property value, and only SetPtpTransport
gives the object another one.
-/

namespace SimpleCamCtrl.Impl

open Interaction

variable {τ : Type} {sizeT : SizeT} [Commons]
variable {self : SonyPTP3Impl τ} {transport : τ}

/-- The command is sent to the transport. -/
def SentTo (transport : τ) (request : Request τ) : Prop := request.transport = transport

/-- The command is sent to the transport that the object holds. -/
def SentByHolder (self : SonyPTP3Impl τ) (request : Request τ) : Prop :=
  self.transport = some request.transport

/-- A command for the transport. -/
structure CommandTo (transport : τ) (request : Request τ) : Prop where
  sent : SentTo transport request
  short : request.writeData.length ≤ 8

/-- A command of the object. -/
structure CommandOf (object : SonyPTP3Impl τ) (request : Request τ) : Prop where
  sent : SentByHolder object request
  short : request.writeData.length ≤ 8

omit [Commons] in
theorem only_escape (opcode : UInt16) (params : List UInt32) {writeData : List UInt8}
    (short : writeData.length ≤ 8) :
    Only (CommandTo transport)
      (escape transport opcode params writeData : Escaping τ sizeT (EscapeResult sizeT)) :=
  Interaction.only_perform ⟨rfl, short⟩

omit [Commons] in
theorem only_ask (opcode : UInt16) (params : List UInt32) :
    Only (CommandTo transport)
      (escape transport opcode params [] : Escaping τ sizeT (EscapeResult sizeT)) :=
  only_escape opcode params (Nat.zero_le 8)

theorem only_call (opcode : UInt16) (params : List UInt32) :
    Only (CommandTo transport)
      (call transport opcode params : Escaping τ sizeT (Bool × EscapeResult sizeT)) :=
  (only_ask opcode params).bind fun _ => only_pure _

theorem only_getExtDeviceInfo (tries : Nat) (last : EscapeResult sizeT) :
    Only (CommandTo transport) (getExtDeviceInfo transport tries last) := by
  induction tries generalizing last with
  | zero => exact only_pure _
  | succ tries ih =>
      refine (only_call _ _).bind fun answer => ?_
      apply only_ite
      · exact fun _ => ih _
      · intro _
        apply only_ite
        · exact fun _ => only_pure _
        · exact fun _ => ih _

theorem only_connectOnceWithDetail :
    Only (CommandTo transport)
      (connectOnceWithDetail transport : Escaping τ sizeT (Bool × EscapeResult sizeT)) := by
  refine (only_call _ _).bind fun first => only_ite (fun _ => only_pure _) fun _ => ?_
  refine (only_call _ _).bind fun second => only_ite (fun _ => only_pure _) fun _ => ?_
  refine (only_getExtDeviceInfo _ _).bind fun info => only_ite (fun _ => only_pure _) fun _ => ?_
  refine (only_call _ _).bind fun third => only_ite (fun _ => only_pure _) fun _ => ?_
  refine (only_ask _ _).bind fun opened => ?_
  exact only_ite (fun _ => only_pure _) fun _ => only_pure _

theorem only_handshake :
    Only (CommandTo transport) (handshake transport : Escaping τ sizeT Bool) := by
  refine only_connectOnceWithDetail.bind fun attempt => only_ite (fun _ => only_pure _) fun _ => ?_
  refine only_ite (fun _ => ?_) fun _ => only_pure _
  refine (only_ask _ _).bind fun _ => ?_
  exact only_connectOnceWithDetail.bind fun _ => only_pure _

omit [Commons] in
/-- What is sent to the transport of the open session is sent by its holder. -/
theorem only_of_session {α : Type} {program : Escaping τ sizeT α}
    (opened : ensureConnected self = some transport) (only : Only (CommandTo transport) program) :
    Only (CommandOf self) program := by
  refine only.mono ?_
  intro request command
  refine ⟨?_, command.short⟩
  rw [SentByHolder, (ensureConnected_eq_some_iff.mp opened).2, command.sent]

theorem only_controlDevice (propertyCode value : UInt32) :
    Only (CommandOf self) (controlDevice self propertyCode value : Escaping τ sizeT Bool) := by
  rw [controlDevice]
  split
  · exact only_pure _
  · rename_i opened
    have short : (LittleEndian.ofNat 4 value.toNat).length ≤ 8 := by
      rw [LittleEndian.length_ofNat]
      decide
    exact only_of_session opened ((only_escape _ _ short).bind fun _ => only_pure _)

theorem only_setDevicePropValue (propertyCode : UInt32) (value : UInt64) (sizeBytes : UInt32) :
    Only (CommandOf self)
      (setDevicePropValue self propertyCode value sizeBytes : Escaping τ sizeT Bool) := by
  rw [setDevicePropValue]
  split
  · exact only_pure _
  · rename_i opened
    apply only_ite
    · exact fun _ => only_pure _
    · intro supported
      have short : (LittleEndian.ofNat sizeBytes.toNat value.toNat).length ≤ 8 := by
        rw [not_or, UInt32.not_lt] at supported
        rw [LittleEndian.length_ofNat]
        exact UInt32.le_iff_toNat_le.mp supported.2
      exact only_of_session opened ((only_escape _ _ short).bind fun _ => only_pure _)

theorem only_endSession :
    Only (CommandOf self) (endSession self : Escaping τ sizeT Unit) := by
  rw [endSession]
  split
  · exact only_pure _
  · rename_i opened
    refine (only_controlDevice _ _).bind fun _ => ?_
    refine (only_controlDevice _ _).bind fun _ => ?_
    exact only_of_session opened ((only_ask _ _).bind fun _ => only_pure _)

theorem only_updateStatus :
    Only (CommandOf self)
      (updateStatus self : Escaping τ sizeT (Bool × SonyPTP3Impl τ)) := by
  rw [updateStatus]
  split
  · exact only_pure _
  · rename_i opened
    refine only_of_session opened ((only_ask _ _).bind fun reply => ?_)
    refine only_ite (fun _ => only_pure _) fun _ => ?_
    exact only_ite (fun _ => only_pure _) fun _ => only_pure _

theorem only_setExposureParams (params : ExposureParams) :
    Only (CommandOf self) (setExposureParams self params : Escaping τ sizeT Bool) := by
  rw [setExposureParams]
  split
  · exact only_pure _
  · refine (only_setDevicePropValue _ _ _).bind fun _ => ?_
    refine (only_setDevicePropValue _ _ _).bind fun _ => ?_
    refine (only_setDevicePropValue _ _ _).bind fun _ => ?_
    exact (only_setDevicePropValue _ _ _).bind fun _ => only_pure _

theorem only_connect :
    Only (CommandOf self) (connect self : Escaping τ sizeT (Bool × SonyPTP3Impl τ)) := by
  rw [connect]
  split
  · exact only_pure _
  · rename_i transport held
    refine only_ite (fun _ => only_pure _) fun _ => ?_
    refine Only.bind (only_handshake.mono ?_) fun _ => ?_
    · intro request command
      refine ⟨?_, command.short⟩
      rw [SentByHolder, held, command.sent]
    · exact only_ite (fun _ => only_pure _) fun _ => only_pure _

theorem only_setPtpTransport [DecidableEq τ] (target : Option τ) :
    Only (CommandOf self)
      (setPtpTransport self target : Escaping τ sizeT (Bool × SonyPTP3Impl τ)) := by
  rw [setPtpTransport]
  apply only_ite
  · intro _
    split
    · exact only_pure _
    · exact only_ite (fun _ => only_pure _) fun _ => only_pure _
  · intro _
    refine only_endSession.bind fun _ => ?_
    cases target <;> exact only_pure _

theorem only_disconnect :
    Only (CommandOf self) (disconnect self : Escaping τ sizeT (SonyPTP3Impl τ)) :=
  only_endSession.bind fun _ => only_pure _

theorem only_performCommands [DecidableEq τ] (op : Op τ) :
    Only (CommandOf self)
      (perform self op : Escaping τ sizeT (Bool × SonyPTP3Impl τ)) := by
  cases op with
  | connect => exact only_connect
  | disconnect | destroy => exact only_disconnect.bind fun _ => only_pure _
  | setPtpTransport target => exact only_setPtpTransport target
  | updateStatus => exact only_updateStatus
  | setExposureParams params => exact (only_setExposureParams params).bind fun _ => only_pure _
  | focusStart | focusEnd | shutterStart | shutterEnd | movieRecStart | movieRecEnd =>
      exact (only_controlDevice _ _).bind fun _ => only_pure _

/-- Every operation sends its commands to the transport that the object holds. -/
theorem only_perform [DecidableEq τ] (op : Op τ) :
    Only (SentByHolder self)
      (perform self op : Escaping τ sizeT (Bool × SonyPTP3Impl τ)) :=
  (only_performCommands op).mono fun _ command => command.sent

variable {after : SonyPTP3Impl τ} {exchanges : List (Exchange τ sizeT)}

/-- Only SetPtpTransport changes the transport. -/
theorem Outcome.transport_cases {op : Op τ} {result : Bool}
    (outcome : Outcome self op exchanges result after) :
    after.transport = self.transport ∨ op = .setPtpTransport after.transport := by
  cases outcome with
  | newTransport => exact Or.inr rfl
  | controlled =>
      rw [afterControl]
      split <;> exact Or.inl rfl
  | _ => exact Or.inl rfl

/-- SetPtpTransport leaves the transport that it is given. -/
theorem Outcome.transport_of_set {op : Op τ} {target : Option τ} {result : Bool}
    (outcome : Outcome self op exchanges result after) (sets : op = .setPtpTransport target) :
    after.transport = target := by
  cases outcome with
  | keptNone | keptReady | keptOpen | newTransport =>
      cases sets
      rfl
  | disconnected ending => rcases ending with rfl | rfl <;> cases sets
  | noSession _ command =>
      rw [sets] at command
      cases command
  | controlled _ control =>
      rw [sets] at control
      cases control
  | _ => cases sets

/-- A Connect that succeeds has opened a session, or found one open. -/
theorem Outcome.session_of_connect {op : Op τ} {result : Bool}
    (outcome : Outcome self op exchanges result after) (connects : op = .connect)
    (succeeded : result = true) : ∃ transport, ensureConnected after = some transport := by
  cases outcome with
  | alreadyOpen opened => exact ⟨_, opened⟩
  | connected held => exact ⟨_, ensureConnected_eq_some_iff.mpr ⟨rfl, held⟩⟩
  | noTransport | refused | noSession => cases succeeded
  | disconnected ending => rcases ending with rfl | rfl <;> cases connects
  | controlled opened control =>
      rw [connects] at control
      cases control
  | _ => cases connects

/-- A call that opens a session is a Connect that succeeds. -/
theorem Outcome.connect_of_opens {op : Op τ} {result : Bool} {transport : τ}
    (outcome : Outcome self op exchanges result after) (closed : ensureConnected self = none)
    (opened : ensureConnected after = some transport) : op = .connect ∧ result = true := by
  cases outcome with
  | connected | alreadyOpen => exact ⟨rfl, rfl⟩
  | noTransport | refused | keptReady | keptNone => simp [ensureConnected] at opened
  | disconnected => cases held : self.transport <;> simp [ensureConnected, held] at opened
  | newTransport =>
      rename_i target _ _
      cases target <;> simp [ensureConnected] at opened
  | noSession =>
      rw [closed] at opened
      cases opened
  | keptOpen held | statusRefused held | statusTaken held | wrote held | controlled held =>
      rw [closed] at held
      cases held

/-- UpdateStatus leaves the session as it is. -/
theorem Outcome.session_of_updateStatus {op : Op τ} {result : Bool}
    (outcome : Outcome self op exchanges result after) (updates : op = .updateStatus) :
    ensureConnected after = ensureConnected self := by
  rcases outcome.of_updateStatus updates with ⟨_, _, _, same⟩ |
    ⟨transport, reply, _, _, ⟨_, _, same⟩ | ⟨_, _, same⟩⟩
  · rw [same]
  · rw [same]
  · rw [same, ensureConnected_afterStatus]

section Runs

/-- The transport that a call leaves to an object that held the given one. -/
def transportAfter (held : Option τ) (call : Call τ sizeT) : Option τ :=
  match call.op with
  | .setPtpTransport transport => if call.locked then transport else held
  | _ => held

variable [DecidableEq τ] {call : Call τ sizeT} {state state' : Option (SonyPTP3Impl τ)}

/-- What a call on an object does with its transport. -/
theorem Performs.sentByHolder (performs : Performs state call state') :
    ∀ exchange ∈ call.exchanges, SentByHolder call.before exchange.1 := by
  have executes := performs.executes
  split at executes
  · exact only_perform call.op _ _ executes
  · rw [executes.1]
    exact List.forall_mem_nil _

theorem Performs.transport_after (performs : Performs state call state') :
    call.after.transport = transportAfter call.before.transport call := by
  rw [transportAfter]
  rcases performs.cases with ⟨unlocked, _, _, same⟩ | ⟨locked, outcome⟩
  · rw [same, unlocked]
    split <;> rfl
  · rw [locked]
    split
    · rename_i target sets
      exact outcome.transport_of_set sets
    · rename_i other
      rcases outcome.transport_cases with same | sets
      · exact same
      · exact (other _ sets).elim

/-- A Connect that succeeds leaves a session on the transport that the object held. -/
theorem Performs.session_of_connect (performs : Performs state call state')
    (connects : call.op = .connect) (succeeded : call.result = true) :
    ensureConnected call.after = call.before.transport := by
  have kept : call.after.transport = call.before.transport := by
    rw [performs.transport_after, transportAfter, connects]
  rcases performs.cases with ⟨_, _, failed, _⟩ | ⟨_, outcome⟩
  · rw [failed] at succeeded
    cases succeeded
  · rcases outcome.session_of_connect connects succeeded with ⟨transport, opened⟩
    rw [opened, ← kept, (ensureConnected_eq_some_iff.mp opened).2]

/-- Along the calls on an object, what each finds is what the ones before have left. -/
theorem transport_of_path {later : List (Call τ sizeT)}
    (path : History.Path Performs (some self) later state) :
    History.Each (fun before call =>
        call.before.transport = before.foldl transportAfter self.transport) later ∧
      ∀ object, state = some object →
        object.transport = later.foldl transportAfter self.transport := by
  generalize starts : some self = initial at path
  induction path generalizing self with
  | nil =>
      subst starts
      simp
  | @cons state state' state'' call later performs path ih =>
      have alive := performs.alive
      rw [← starts, Option.some.injEq] at alive
      subst alive
      rw [History.each_cons]
      simp only [List.foldl_nil, List.foldl_cons, ← performs.transport_after]
      by_cases destroys : call.op = .destroy
      · have gone : state' = none := by rw [performs.next, if_pos destroys]
        subst gone
        cases path with
        | nil => simp
        | cons next _ => cases next.alive
      · have lives : some call.after = state' := by rw [performs.next, if_neg destroys]
        exact ⟨⟨trivial, (ih lives).1⟩, (ih lives).2⟩

end Runs

end SimpleCamCtrl.Impl
