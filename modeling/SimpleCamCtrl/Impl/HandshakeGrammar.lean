import SimpleCamCtrl.Impl.Runs
import SimpleCamCtrl.Library.Stages

/-!
# The handshake grammar

What `Connect` sends to open a session, as a grammar: an attempt goes through five stages
and ends at the first that fails, and one attempt that is refused for a reason that a
CloseSession may cure is followed by a second.
-/

namespace SimpleCamCtrl.Impl

open Interaction Stages

section Grammar

variable {τ : Type} {sizeT : SizeT} [Commons]
variable {transport : τ} {exchanges : List (Exchange τ sizeT)}

def connectRequest (transport : τ) (phase : UInt32) : Request τ :=
  ⟨transport, ptpOcSDIOConnect, [phase, 0, 0], []⟩

def extInfoRequest (transport : τ) : Request τ :=
  ⟨transport, ptpOcSDIOGetExtDeviceInfo, [sdiExtensionVersion], []⟩

/-- One command, which must be answered OK. -/
def Required (request : Request τ) : Stage (Exchange τ sizeT) := fun exchanges passed =>
  ∃ reply, exchanges = [(request, reply)] ∧ decide (Accepted reply) = passed

/-- The device answered OK, with data. -/
def Usable (reply : EscapeResult sizeT) : Prop :=
  Accepted reply ∧ reply.payload.size ≠ 0

instance (reply : EscapeResult sizeT) : Decidable (Usable reply) :=
  inferInstanceAs (Decidable (_ ∧ _))

/-- One command, repeated until it gets a usable answer, so many times at most. -/
inductive Polls (request : Request τ) : ℕ → Stage (Exchange τ sizeT) where
  | exhausted : Polls request 0 [] false
  | usable {tries : ℕ} {reply : EscapeResult sizeT} :
      Usable reply → Polls request (tries + 1) [(request, reply)] true
  | again {tries : ℕ} {reply : EscapeResult sizeT} {rest : List (Exchange τ sizeT)}
      {passed : Bool} :
      ¬Usable reply → Polls request tries rest passed →
      Polls request (tries + 1) ((request, reply) :: rest) passed

/-- The stages of an attempt. -/
def attemptStages (transport : τ) : List (Stage (Exchange τ sizeT)) :=
  [Required (connectRequest transport 1), Required (connectRequest transport 2),
    Polls (extInfoRequest transport) 3, Required (connectRequest transport 3),
    Required (openRequest transport)]

/-- One attempt, and whether it is complete. -/
def Attempt (transport : τ) : Stage (Exchange τ sizeT) :=
  Sequence (attemptStages transport)

/-- The device refused for a reason that a CloseSession may cure. -/
def ImmediateReject (reply : EscapeResult sizeT) : Prop :=
  Commons.hrFailed reply.hr = false ∧
    reply.responseCode ∈ [ptpRcDeviceBusy, ptpRcSessionAlreadyOpen, ptpRcSessionNotOpen,
      ptpRcAuthenticationFailed]

/-- The last answer of an attempt asks for a second attempt. -/
def AsksForRetry (exchanges : List (Exchange τ sizeT)) : Prop :=
  ∃ exchange, exchanges.getLast? = some exchange ∧ ImmediateReject exchange.2

/-- One attempt, or a failed one, a CloseSession and a second attempt. -/
inductive HandshakeWord (transport : τ) : Stage (Exchange τ sizeT) where
  | once {attempt : List (Exchange τ sizeT)} {complete : Bool} :
      Attempt transport attempt complete → (complete = false → ¬AsksForRetry attempt) →
      HandshakeWord transport attempt complete
  | twice {first second : List (Exchange τ sizeT)} {reply : EscapeResult sizeT}
      {complete : Bool} :
      Attempt transport first false → AsksForRetry first →
      Attempt transport second complete →
      HandshakeWord transport (first ++ (closeRequest transport, reply) :: second) complete

/-- The state after a handshake. -/
def afterHandshake (self : SonyPTP3Impl τ) (complete : Bool) : SonyPTP3Impl τ :=
  if complete then { self with connectionState := .sessionOpen, hasStatus := false }
  else { self with connectionState := .transportReady }

theorem Required.length_le {request : Request τ} {passed : Bool}
    (required : Required request exchanges passed) : exchanges.length ≤ 1 := by
  rcases required with ⟨reply, rfl, _⟩
  exact le_rfl

theorem Polls.length_le {request : Request τ} {tries : ℕ} {passed : Bool}
    (polls : Polls request tries exchanges passed) : exchanges.length ≤ tries := by
  induction polls with
  | exhausted => exact le_rfl
  | usable => simp
  | again _ _ ih => simpa using ih

theorem Attempt.length_le {complete : Bool}
    (attempt : Attempt transport exchanges complete) : exchanges.length ≤ 7 := by
  have bounded : List.Forall₂ (fun stage bound => ∀ (events : List (Exchange τ sizeT)) ok,
      stage events ok → events.length ≤ bound) (attemptStages transport) [1, 1, 3, 1, 1] :=
    .cons (fun _ _ => Required.length_le) (.cons (fun _ _ => Required.length_le)
      (.cons (fun _ _ => Polls.length_le) (.cons (fun _ _ => Required.length_le)
        (.cons (fun _ _ => Required.length_le) .nil))))
  exact Sequence.length_le attempt bounded

/-- A handshake sends at most fifteen commands. -/
theorem HandshakeWord.length_le {complete : Bool}
    (word : HandshakeWord transport exchanges complete) : exchanges.length ≤ 15 := by
  cases word with
  | once attempt => exact attempt.length_le.trans (by simp)
  | twice first _ second =>
      rw [List.length_append, List.length_cons]
      have firstLe := first.length_le
      have secondLe := second.length_le
      omega

/-! ## The code implements the grammar -/

/-- The lambda `call` implements a required command. -/
theorem implements_call (opcode : UInt16) (params : List UInt32) :
    Implements (fun _ => call transport opcode params)
      (Required ⟨transport, opcode, params, []⟩ : Stage (Exchange τ sizeT)) := by
  intro initial calls ok last
  have shape : (call transport opcode params : Escaping τ sizeT (Bool × EscapeResult sizeT)) =
      escape transport opcode params [] >>= fun reply =>
        pure (decide (Accepted reply), reply) := by
    simp only [call, answered_eq]
  rw [shape, exec_bind_pure]
  constructor
  · intro execution
    rcases execution with ⟨reply, performed, same⟩
    cases same
    rw [escape, exec_perform] at performed
    subst performed
    exact ⟨⟨last, rfl, rfl⟩, rfl⟩
  · intro required
    rcases required with ⟨⟨reply, rfl, rfl⟩, rfl⟩
    exact ⟨reply, exec_perform.mpr rfl, rfl⟩

theorem polls_succ {request : Request τ} {tries : ℕ} {passed : Bool} :
    Polls request (tries + 1) exchanges passed ↔
      ∃ reply rest, exchanges = (request, reply) :: rest ∧
        if Usable reply then rest = [] ∧ passed = true else Polls request tries rest passed := by
  constructor
  · intro polls
    cases polls with
    | usable usable => exact ⟨_, [], rfl, by simp [usable]⟩
    | again unusable rest => exact ⟨_, _, rfl, by simp [unusable, rest]⟩
  · intro polls
    rcases polls with ⟨reply, rest, rfl, continues⟩
    split at continues
    · rename_i usable
      rcases continues with ⟨rfl, rfl⟩
      exact .usable usable
    · rename_i unusable
      exact .again unusable continues

/-- Behind one poll the loop is done, or goes on with one try less. -/
theorem exec_poll_iff {tries : ℕ} {reply last : EscapeResult sizeT} {ok : Bool}
    (fewer : Implements (getExtDeviceInfo transport tries)
      (Polls (extInfoRequest transport) tries : Stage (Exchange τ sizeT))) :
    Exec (if !decide (Accepted reply) then getExtDeviceInfo transport tries reply
        else if reply.payload.size ≠ 0 then pure (true, reply)
        else getExtDeviceInfo transport tries reply) exchanges (ok, last) ↔
      (if Usable reply then exchanges = [] ∧ ok = true
        else Polls (extInfoRequest transport) tries exchanges ok) ∧
        lastReply reply exchanges = last := by
  by_cases usable : Usable reply
  · rw [if_pos usable]
    simp only [usable.1, usable.2, decide_true, Bool.not_true, Bool.false_eq_true, if_false,
      ne_eq, not_false_eq_true, if_true, exec_pure, Prod.mk.injEq]
    constructor
    · intro done
      rcases done with ⟨rfl, rfl, rfl⟩
      exact ⟨⟨rfl, rfl⟩, rfl⟩
    · intro done
      rcases done with ⟨⟨rfl, rfl⟩, rfl⟩
      exact ⟨rfl, rfl, rfl⟩
  · rw [if_neg usable, ← fewer]
    by_cases accepted : Accepted reply
    · have empty : reply.payload.size = 0 := by
        by_contra nonempty
        exact usable ⟨accepted, nonempty⟩
      simp [accepted, empty]
    · simp [accepted]

/-- The loop over the requests for the extended device information implements polls. -/
theorem implements_getExtDeviceInfo (tries : ℕ) :
    Implements (getExtDeviceInfo transport tries)
      (Polls (extInfoRequest transport) tries : Stage (Exchange τ sizeT)) := by
  induction tries with
  | zero =>
      intro initial calls ok last
      rw [getExtDeviceInfo, exec_pure]
      constructor
      · intro execution
        rcases execution with ⟨rfl, same⟩
        cases same
        exact ⟨.exhausted, rfl⟩
      · intro polls
        rcases polls with ⟨polls, rfl⟩
        cases polls
        exact ⟨rfl, rfl⟩
  | succ tries ih =>
      intro initial calls ok last
      rw [getExtDeviceInfo, exec_call_bind, polls_succ]
      constructor
      · intro execution
        rcases execution with ⟨reply, rest, rfl, execution⟩
        rcases (exec_poll_iff ih).mp execution with ⟨continues, rfl⟩
        exact ⟨⟨reply, rest, rfl, continues⟩, rfl⟩
      · intro polls
        rcases polls with ⟨⟨reply, rest, rfl, continues⟩, rfl⟩
        exact ⟨reply, rest, rfl, (exec_poll_iff ih).mpr ⟨continues, rfl⟩⟩

/-- The last command of an attempt implements a required command. -/
theorem implements_openSession :
    Implements (fun _ => do
        let openRes ← escape transport ptpOcSDIOOpenSession [1] []
        if Commons.hrFailed openRes.hr || openRes.responseCode != ptpRcOk then
          return (false, openRes)
        return (true, openRes))
      (Required (openRequest transport) : Stage (Exchange τ sizeT)) := by
  intro initial calls ok last
  rw [escape, exec_perform_bind]
  constructor
  · intro execution
    rcases execution with ⟨reply, rest, rfl, execution⟩
    split at execution
    · rename_i refused
      rw [exec_pure] at execution
      rcases execution with ⟨rfl, same⟩
      cases same
      refine ⟨⟨last, rfl, decide_eq_false fun accepted => ?_⟩, rfl⟩
      simp [accepted.1, accepted.2] at refused
    · rename_i answered
      rw [exec_pure] at execution
      rcases execution with ⟨rfl, same⟩
      cases same
      refine ⟨⟨last, rfl, decide_eq_true ?_⟩, rfl⟩
      simpa [Accepted] using answered
  · intro required
    rcases required with ⟨⟨reply, rfl, rfl⟩, rfl⟩
    refine ⟨reply, [], rfl, ?_⟩
    by_cases accepted : Accepted reply
    · simp [accepted.1, accepted.2, accepted]
    · have refused : (Commons.hrFailed reply.hr || reply.responseCode != ptpRcOk) = true := by
        simpa [Accepted, imp_iff_or_not, or_comm] using accepted
      rw [if_pos refused]
      simp [accepted]

/-- One attempt implements the sequence of its stages. -/
theorem implements_connectOnceWithDetail :
    Implements (fun _ => connectOnceWithDetail transport)
      (Attempt transport : Stage (Exchange τ sizeT)) := by
  unfold connectOnceWithDetail Attempt attemptStages
  refine (implements_call _ _).andThen (fun _ => rfl) ?_
  refine (implements_call _ _).andThen (fun _ => rfl) ?_
  refine (implements_getExtDeviceInfo 3).andThen (fun _ => rfl) ?_
  refine (implements_call _ _).andThen (fun _ => rfl) ?_
  exact implements_openSession.last

theorem isImmediateReject_iff {reply : EscapeResult sizeT} :
    isImmediateReject reply = true ↔ ImmediateReject reply := by
  unfold isImmediateReject ImmediateReject
  split
  · rename_i failed
    simp [failed]
  · split
    · rename_i failed okay
      rw [beq_iff_eq] at okay
      rw [okay]
      simp only [Bool.false_eq_true, false_iff, not_and]
      intro _
      decide
    · rename_i failed refused
      simp [failed, or_assoc]

theorem Attempt.ne_nil {complete : Bool} (attempt : Attempt transport exchanges complete) :
    exchanges ≠ [] := by
  rcases sequence_cons.mp attempt with ⟨_, reply, rfl, _⟩ | ⟨_, _, rfl, ⟨reply, rfl, _⟩, _⟩
  · simp
  · simp

/-- An attempt asks for a second one by the reply that the code has kept. -/
theorem Attempt.asksForRetry_iff {complete : Bool}
    (attempt : Attempt transport exchanges complete) (initial : EscapeResult sizeT) :
    AsksForRetry exchanges ↔ isImmediateReject (lastReply initial exchanges) = true := by
  have last := List.getLast?_eq_some_getLast attempt.ne_nil
  rw [isImmediateReject_iff, lastReply_of_getLast? last, AsksForRetry, last]
  simp

/-- The handshake with its retry sends the words of the grammar. -/
theorem exec_handshake {complete : Bool} :
    Exec (handshake transport) exchanges complete ↔
      HandshakeWord transport exchanges complete := by
  rw [handshake, exec_bind]
  constructor
  · intro execution
    rcases execution with ⟨first, ⟨connected, lastRes⟩, rest, rfl, attempted, execution⟩
    rcases (implements_connectOnceWithDetail lastRes _ _ _).mp attempted with ⟨attempt, kept⟩
    have retry := attempt.asksForRetry_iff lastRes
    rw [kept] at retry
    cases connected with
    | true =>
        rcases exec_pure.mp execution with ⟨rfl, rfl⟩
        rw [List.append_nil]
        exact .once attempt fun incomplete => Bool.noConfusion incomplete
    | false =>
        simp only [Bool.false_eq_true, if_false] at execution
        split at execution
        · rename_i rejected
          rw [escape, exec_perform_bind] at execution
          rcases execution with ⟨reply, rest, rfl, execution⟩
          rcases exec_bind_pure.mp execution with ⟨⟨connected, lastRes⟩, attempted, rfl⟩
          have second := ((implements_connectOnceWithDetail lastRes _ _ _).mp attempted).1
          exact .twice attempt (retry.mpr rejected) second
        · rename_i kept
          rcases exec_pure.mp execution with ⟨rfl, rfl⟩
          rw [List.append_nil]
          exact .once attempt fun _ asks => kept (retry.mp asks)
  · intro word
    cases word with
    | once attempt quiet =>
        have attempted :=
          (implements_connectOnceWithDetail ⟨0, 0, .empty⟩ _ _ _).mpr ⟨attempt, rfl⟩
        refine ⟨exchanges, _, [], (List.append_nil _).symm, attempted, ?_⟩
        cases complete with
        | true => exact exec_pure.mpr ⟨rfl, rfl⟩
        | false =>
            have final := mt (attempt.asksForRetry_iff ⟨0, 0, .empty⟩).mpr (quiet rfl)
            simp only [Bool.false_eq_true, if_false, final]
            exact exec_pure.mpr ⟨rfl, rfl⟩
    | twice first asks second =>
        rename_i reply
        have attempted :=
          (implements_connectOnceWithDetail ⟨0, 0, .empty⟩ _ _ _).mpr ⟨first, rfl⟩
        have again :=
          (implements_connectOnceWithDetail ⟨0, 0, .empty⟩ _ _ _).mpr ⟨second, rfl⟩
        refine ⟨_, _, _, rfl, attempted, ?_⟩
        have rejected := (first.asksForRetry_iff ⟨0, 0, .empty⟩).mp asks
        simp only [Bool.false_eq_true, if_false, rejected, if_true]
        rw [escape, exec_perform_bind]
        exact ⟨reply, _, rfl, exec_bind_pure.mpr ⟨_, again, rfl⟩⟩

/-- With a transport and no open session, Connect is a handshake. -/
theorem exec_connect {self after : SonyPTP3Impl τ} {result : Bool}
    (held : self.transport = some transport) (notOpen : self.connectionState ≠ .sessionOpen) :
    Exec (connect self) exchanges (result, after) ↔
      HandshakeWord transport exchanges result ∧ after = afterHandshake self result := by
  have shape : (connect self : Escaping τ sizeT (Bool × SonyPTP3Impl τ)) =
      handshake transport >>= fun connected =>
        pure (connected, afterHandshake self connected) := by
    rcases self with ⟨cache, connectionState, hasStatus, _⟩
    cases held
    simp only [connect, if_neg notOpen]
    congr 1
    funext connected
    cases connected <;> rfl
  rw [shape, exec_bind_pure]
  constructor
  · intro execution
    rcases execution with ⟨connected, shaken, same⟩
    cases same
    exact ⟨exec_handshake.mp shaken, rfl⟩
  · intro word
    rcases word with ⟨word, rfl⟩
    exact ⟨result, exec_handshake.mpr word, rfl⟩

/-- With a transport and no open session, what Connect can do against the answers of any
transport is exactly a word of the grammar, of at most fifteen commands.  It returns true,
with the session open, exactly when the last attempt is complete, and it always returns. -/
theorem connect_refines_handshakeWord {self : SonyPTP3Impl τ}
    (held : self.transport = some transport) (notOpen : self.connectionState ≠ .sessionOpen) :
    (∀ (exchanges : List (Exchange τ sizeT)) result after,
      Exec (connect self) exchanges (result, after) ↔
        HandshakeWord transport exchanges result ∧ after = afterHandshake self result) ∧
      (∀ (exchanges : List (Exchange τ sizeT)) result,
        HandshakeWord transport exchanges result → exchanges.length ≤ 15) ∧
      ∀ oracle : List (Exchange τ sizeT) → Request τ → EscapeResult sizeT,
        ∃ exchanges result, HandshakeWord transport exchanges result ∧
          Exec (connect self) exchanges (result, afterHandshake self result) ∧
          History.Each (fun before exchange => exchange.2 = oracle before exchange.1)
            exchanges := by
  refine ⟨fun _ _ _ => exec_connect held notOpen, fun _ _ word => word.length_le, ?_⟩
  intro oracle
  rcases exists_exec_of_oracle (connect self) oracle with
    ⟨exchanges, ⟨result, after⟩, execution, answered⟩
  rcases (exec_connect held notOpen).mp execution with ⟨word, rfl⟩
  exact ⟨exchanges, result, word, execution, answered⟩

end Grammar

/-- An object with a transport and no session. -/
def readyObject : SonyPTP3Impl Unit :=
  { (construct : SonyPTP3Impl Unit) with transport := some (), connectionState := .transportReady }

/-- A camera that is busy at the second command of the first attempt and sends no data at the
first poll of the second. -/
def busyReplies : List (EscapeResult .bits64) :=
  [okReply, ⟨0, ptpRcDeviceBusy, .empty⟩, okReply, okReply, okReply, okReply, infoReply, okReply,
    okReply]

theorem connect_refines_handshakeWord_busy :
    ∃ exchanges, exchanges.map Prod.snd = busyReplies ∧
      HandshakeWord () exchanges true ∧ exchanges.length ≤ 15 := by
  have held : readyObject.transport = some () := rfl
  have notOpen : readyObject.connectionState ≠ .sessionOpen := by decide
  have plays : (replay (connect readyObject) busyReplies).map
      (fun outcome => (outcome.1.map Prod.snd, outcome.2.1)) = some (busyReplies, true) := by decide
  rcases Option.map_eq_some_iff.mp plays with ⟨⟨exchanges, result, after⟩, replayed, same⟩
  simp only [Prod.mk.injEq] at same
  rcases same with ⟨replies, rfl⟩
  have execution := exec_of_replay replayed
  have word := (((connect_refines_handshakeWord held notOpen).1 exchanges true after).mp
    execution).1
  exact ⟨exchanges, replies, word,
    (connect_refines_handshakeWord held notOpen).2.1 exchanges true word⟩

end SimpleCamCtrl.Impl
