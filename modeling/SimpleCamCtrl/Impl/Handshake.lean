import SimpleCamCtrl.Impl.Commands

/-!
# The handshake

`Connect` opens a session by the last command it sends, if at all, and leaves none open
before.
-/

namespace SimpleCamCtrl.Impl

variable {τ : Type} {sizeT : SizeT} [Commons]

/-- A command of a handshake that leaves no session open. -/
def Preparatory (transport : τ) (exchange : Exchange τ sizeT) : Prop :=
  sessionAction exchange = .neutral ∨ sessionAction exchange = .closed transport

/-- The commands of a handshake: preparatory ones, and at the end of a successful one
the OpenSession that was answered OK. -/
def Handshake (transport : τ) (exchanges : List (Exchange τ sizeT)) (connected : Bool) : Prop :=
  ∃ attempts, (∀ exchange ∈ attempts, Preparatory transport exchange) ∧
    if connected then
      ∃ reply, Accepted reply ∧ exchanges = attempts ++ [(openRequest transport, reply)]
    else
      exchanges = attempts

namespace Handshake

variable {transport : τ} {exchanges : List (Exchange τ sizeT)} {connected : Bool}

theorem failed_nil : Handshake transport ([] : List (Exchange τ sizeT)) false :=
  ⟨[], by simp, rfl⟩

/-- A failed handshake has only prepared a session. -/
theorem failed (handshake : Handshake transport exchanges false) :
    ∀ exchange ∈ exchanges, Preparatory transport exchange := by
  rcases handshake with ⟨attempts, preparatory, shape⟩
  simp only [Bool.false_eq_true, if_false] at shape
  rwa [shape]

/-- A successful handshake ends with the OpenSession. -/
theorem succeeded (handshake : Handshake transport exchanges true) :
    ∃ attempts reply, (∀ exchange ∈ attempts, Preparatory transport exchange) ∧
      Accepted reply ∧ exchanges = attempts ++ [(openRequest transport, reply)] := by
  rcases handshake with ⟨attempts, preparatory, shape⟩
  simp only [if_true] at shape
  rcases shape with ⟨reply, accepted, rfl⟩
  exact ⟨attempts, reply, preparatory, accepted, rfl⟩

theorem prepend {first : List (Exchange τ sizeT)}
    (preparatory : ∀ exchange ∈ first, Preparatory transport exchange)
    (handshake : Handshake transport exchanges connected) :
    Handshake transport (first ++ exchanges) connected := by
  rcases handshake with ⟨attempts, all, shape⟩
  refine ⟨first ++ attempts, ?_, ?_⟩
  · intro exchange membership
    rcases List.mem_append.mp membership with inFirst | inRest
    · exact preparatory exchange inFirst
    · exact all exchange inRest
  · cases connected with
    | true =>
        rcases shape with ⟨reply, accepted, rfl⟩
        exact ⟨reply, accepted, (List.append_assoc _ _ _).symm⟩
    | false => exact congrArg (first ++ ·) shape

end Handshake

open Interaction

variable {α : Type}

/-- The lambda `call` makes one exchange and reports whether the answer was OK. -/
theorem exec_call_bind {transport : τ} {opcode : UInt16} {params : List UInt32}
    {next : Bool × EscapeResult sizeT → Escaping τ sizeT α}
    {exchanges : List (Exchange τ sizeT)} {result : α} :
    Exec (call transport opcode params >>= next) exchanges result ↔
      ∃ reply rest, exchanges = (⟨transport, opcode, params, []⟩, reply) :: rest ∧
        Exec (next (decide (Accepted reply), reply)) rest result := by
  change Exec (Interaction.perform ⟨transport, opcode, params, []⟩ >>= fun reply =>
    next (!Commons.hrFailed reply.hr && reply.responseCode == ptpRcOk, reply)) exchanges result ↔ _
  simp only [exec_perform_bind, answered_eq]

/-- The requests for the extended device information are preparatory. -/
theorem getExtDeviceInfo_preparatory {transport : τ} {tries : Nat} {last : EscapeResult sizeT}
    {exchanges : List (Exchange τ sizeT)} {result : Bool × EscapeResult sizeT}
    (execution : Exec (getExtDeviceInfo transport tries last) exchanges result) :
    ∀ exchange ∈ exchanges, Preparatory transport exchange := by
  induction tries generalizing last exchanges with
  | zero =>
      rw [getExtDeviceInfo, exec_pure] at execution
      simp [execution.1]
  | succ tries ih =>
      rw [getExtDeviceInfo, exec_call_bind] at execution
      rcases execution with ⟨reply, rest, rfl, execution⟩
      have remaining : ∀ exchange ∈ rest, Preparatory transport exchange := by
        simp only at execution
        split at execution
        · exact ih execution
        · split at execution
          · rw [exec_pure] at execution
            simp [execution.1]
          · exact ih execution
      intro exchange membership
      rcases List.mem_cons.mp membership with rfl | later
      · exact Or.inl rfl
      · exact remaining exchange later

namespace Handshake

variable {transport : τ} {exchanges : List (Exchange τ sizeT)} {connected : Bool}
variable {failure last : EscapeResult sizeT}

/-- An attempt that gives up. -/
theorem of_give_up
    (execution : Exec (pure (false, failure) : Escaping τ sizeT _) exchanges (connected, last)) :
    Handshake transport exchanges connected := by
  rw [exec_pure] at execution
  rcases execution with ⟨rfl, same⟩
  cases same
  exact failed_nil

/-- One SDIOConnect command, after which the attempt gives up or goes on. -/
theorem of_sdioConnect {params : List UInt32}
    {next : Bool × EscapeResult sizeT → Escaping τ sizeT (Bool × EscapeResult sizeT)}
    (execution : Exec (call transport ptpOcSDIOConnect params >>= next) exchanges
      (connected, last))
    (giveUp : ∀ reply, next (false, reply) = pure (false, reply))
    (onNext : ∀ reply rest, Exec (next (true, reply)) rest (connected, last) →
      Handshake transport rest connected) :
    Handshake transport exchanges connected := by
  rw [exec_call_bind] at execution
  rcases execution with ⟨reply, rest, rfl, execution⟩
  have connect : ∀ exchange ∈ [((⟨transport, ptpOcSDIOConnect, params, []⟩ : Request τ), reply)],
      Preparatory transport exchange := by
    intro exchange membership
    rw [List.mem_singleton.mp membership]
    exact Or.inl rfl
  refine prepend connect ?_
  cases answered : decide (Accepted reply) with
  | false =>
      rw [answered, giveUp] at execution
      exact of_give_up execution
  | true =>
      rw [answered] at execution
      exact onNext reply rest execution

end Handshake

/-- One attempt is a handshake. -/
theorem connectOnceWithDetail_handshake {transport : τ} {exchanges : List (Exchange τ sizeT)}
    {connected : Bool} {last : EscapeResult sizeT}
    (execution : Exec (connectOnceWithDetail transport) exchanges (connected, last)) :
    Handshake transport exchanges connected := by
  unfold connectOnceWithDetail at execution
  refine Handshake.of_sdioConnect execution (by intro _; rfl) fun _ rest execution => ?_
  refine Handshake.of_sdioConnect execution (by intro _; rfl) fun _ rest execution => ?_
  simp only [Bool.not_true, Bool.false_eq_true, if_false] at execution
  rw [exec_bind] at execution
  rcases execution with ⟨infos, ⟨extInfoOk, lastExtRes⟩, rest, rfl, requested, execution⟩
  refine Handshake.prepend (getExtDeviceInfo_preparatory requested) ?_
  simp only at execution
  split at execution
  · exact Handshake.of_give_up execution
  refine Handshake.of_sdioConnect execution (by intro _; rfl) fun _ rest execution => ?_
  simp only [Bool.not_true, Bool.false_eq_true, if_false] at execution
  rw [escape, exec_perform_bind] at execution
  rcases execution with ⟨reply, rest, rfl, execution⟩
  split at execution
  · rename_i refused
    rw [exec_pure] at execution
    rcases execution with ⟨rfl, same⟩
    cases same
    refine ⟨[_], ?_, rfl⟩
    intro exchange membership
    rw [List.mem_singleton.mp membership]
    refine Or.inl (sessionAction_open_refused ?_)
    intro accepted
    simp [accepted.1, accepted.2] at refused
  · rename_i answered
    rw [exec_pure] at execution
    rcases execution with ⟨rfl, same⟩
    cases same
    refine ⟨[], by simp, _, ?_, rfl⟩
    simpa [Accepted] using answered

/-- The handshake with its retry is a handshake. -/
theorem handshake_handshake {transport : τ} {exchanges : List (Exchange τ sizeT)}
    {connected : Bool} (execution : Exec (handshake transport) exchanges connected) :
    Handshake transport exchanges connected := by
  rw [handshake, exec_bind] at execution
  rcases execution with ⟨first, ⟨firstOk, lastRes⟩, rest, rfl, attempted, execution⟩
  have attempt := connectOnceWithDetail_handshake attempted
  cases firstOk with
  | true =>
      simp only [if_true] at execution
      rw [exec_pure] at execution
      rcases execution with ⟨rfl, rfl⟩
      rwa [List.append_nil]
  | false =>
      rcases attempt with ⟨attempts, preparatory, rfl⟩
      refine Handshake.prepend preparatory ?_
      simp only [Bool.false_eq_true, if_false] at execution
      split at execution
      · rw [escape, exec_perform_bind] at execution
        rcases execution with ⟨reply, rest, rfl, execution⟩
        rcases exec_bind_pure.mp execution with ⟨⟨secondOk, lastRes⟩, attempted, rfl⟩
        rw [← List.singleton_append]
        refine Handshake.prepend ?_ (connectOnceWithDetail_handshake attempted)
        intro exchange membership
        rw [List.mem_singleton.mp membership]
        exact Or.inr rfl
      · rw [exec_pure] at execution
        rcases execution with ⟨rfl, rfl⟩
        exact Handshake.failed_nil

end SimpleCamCtrl.Impl
