import SimpleCamCtrl.Impl.TransportUse
import SimpleCamCtrl.Library.Ranking
import SimpleCamCtrl.Stack.DeviceSession
import SimpleCamCtrl.Wia.Responsiveness

/-!
# Responsiveness of the stack

No call needs its timeout to come to an end.  As long as no transport is being destroyed, one of
the threads or of the owner threads can take a step while a public call has not been answered,
and the steps that all the calls can take together are bounded: a schedule that goes on as long
as it can ends with every call answered.
-/

namespace SimpleCamCtrl.Stack

open History
open Impl (PublicCall ThreadRun sonyInterface)
open Wia (WiaTransport)

section Responsiveness

variable {θ τ : Type} {sizeT : SizeT}

/-- A new public call. -/
def Label.invokes : Label θ τ sizeT → Bool
  | .api label => label.invokes
  | .issue _ _ | .transport _ _ | .answer _ _ _ => false

/-- The beginning of the destruction of a transport. -/
def Label.destroys : Label θ τ sizeT → Bool
  | .transport _ label => label.stops
  | .api _ | .issue _ _ | .answer _ _ _ => false

/-- The steps that bring the calls on that have been made: no new call, no timeout, neither of
the lock nor of `Escape`, and no destruction. -/
def Label.works : Label θ τ sizeT → Bool
  | .api (.invoke _ _) | .api (.giveUp _ _ _) => false
  | .api (.acquire _) | .api (.exchange _ _ _) | .api (.complete _ _ _) => true
  | .issue _ _ | .answer _ _ _ => true
  | .transport _ label => label.works

theorem Label.old_of_works {label : Label θ τ sizeT} (works : label.works = true) :
    label.invokes = false ∧ label.destroys = false := by
  cases label with
  | api label => cases label <;> first | exact ⟨rfl, rfl⟩ | cases works
  | issue | answer => exact ⟨rfl, rfl⟩
  | transport _ label => cases label <;> first | exact ⟨rfl, rfl⟩ | cases works

/-- The steps of a public call: eighteen of its own at most, and fifteen for each of its fifteen
commands.  Of what the worker does for a command, taking it, the calls that decide it and setting
its promise are steps. -/
abbrev stepsPerCall : Nat := 243

variable [Commons] [DecidableEq τ]

/-! ## Effort -/

omit [DecidableEq τ] in
theorem Ticket.credit_entry (ticket : Ticket τ sizeT) : ticket.entry.credit = 15 := by
  rw [Ticket.entry]
  split <;> rfl

omit [Commons] [DecidableEq τ] in
theorem credit_of_internal {label : Wia.Label (Ticket τ sizeT) sizeT} (internal : Internal label) :
    label.credit = label.stops.toNat := by
  cases label <;> first | rfl | exact internal.elim

/-- A public call sends fifteen commands at most. -/
theorem within_body (object : Impl.SonyPTP3Impl τ) (op : PublicCall τ) :
    Interaction.Within 15 (op.body object : Impl.Escaping τ sizeT _) :=
  fun _ _ execution => Impl.length_le_of_body execution

/-- The steps that the public calls and the destructors of a run are given. -/
def granted (labels : List (Label θ τ sizeT)) : ℕ :=
  stepsPerCall * labels.countP Label.invokes + labels.countP Label.destroys

omit [Commons] [DecidableEq τ] in
theorem granted_snoc (labels : List (Label θ τ sizeT)) (label : Label θ τ sizeT) :
    granted (labels ++ [label]) =
      granted labels + (stepsPerCall * label.invokes.toNat + label.destroys.toNat) := by
  have counts (kind : Label θ τ sizeT → Bool) :
      (labels ++ [label]).countP kind = labels.countP kind + (kind label).toNat := by
    rw [List.countP_append, List.countP_singleton]
    cases kind label <;> rfl
  rw [granted, granted, counts, counts, Nat.mul_add]
  omega

variable [DecidableEq θ] {deviceId : τ → String}
variable {labels : List (Label θ τ sizeT)} {label : Label θ τ sizeT}
variable {self next : Assembly θ τ sizeT}

/-- The steps of a run, with those that are enough for the rest of all that has been begun, are
paid for by the public calls.  The command in flight has been paid for in advance. -/
def Paid (labels : List (Label θ τ sizeT)) (object : Assembly θ τ sizeT) : Prop :=
  -- A command is worth sixteen steps to its call: its answer, and what the transport is given.
  ∃ threads transports, Funded (Guarded.Phase.Enough 15 16) object.api.phase threads ∧
    Funded WiaTransport.Enough object.transports transports ∧
    labels.length + threads + transports ≤
      granted labels + if object.inFlight.isSome then 15 else 0

theorem Paid.step (paid : Paid labels self) (inv : StackInvariant deviceId labels self)
    (step : Step deviceId self label next) : Paid (labels ++ [label]) next := by
  rcases paid with ⟨threads, transports, byThreads, byTransports, balance⟩
  rw [Paid, List.length_append, List.length_singleton, granted_snoc]
  cases step with
  | api step silent =>
      rename_i label api
      rcases step.funded within_body byThreads with ⟨left, funded, pays⟩
      have price : label.price 16 = 1 := by cases label <;> first | rfl | cases silent
      refine ⟨left, transports, funded, byTransports, ?_⟩
      rw [price] at pays
      rw [inv.inFlight_api step silent]
      simp only [Label.invokes, Label.destroys, Bool.toNat_false, stepsPerCall]
      omega
  | issue nothing runs number step =>
      rename_i thread op ticket resume state
      have grows := byTransports.update fun share => step.enough
      rw [ticket.credit_entry] at grows
      rcases grows with ⟨left, funded, pays⟩
      refine ⟨threads, left, byThreads, funded, ?_⟩
      have waits : Assembly.inFlight _ = some ticket := inv.inFlight_issue runs ticket
        (self.setTransport ticket.request.transport state).transports (self.issued + 1)
      rw [inv.inFlight_eq_none nothing runs] at balance
      change _ ≤ _ + if (Assembly.inFlight (Assembly.mk self.api _ _ _)).isSome then 15 else 0
      simp only [waits, Option.isSome_none, Option.isSome_some, Label.invokes, Label.destroys,
        Bool.toNat_false, if_true, Bool.false_eq_true, if_false] at balance ⊢
      omega
  | transport step internal =>
      rename_i transport label state
      have grows := byTransports.update fun share => step.enough
      rw [credit_of_internal internal] at grows
      rcases grows with ⟨left, funded, pays⟩
      refine ⟨threads, left, byThreads, funded, ?_⟩
      change _ ≤ _ + if self.inFlight.isSome then 15 else 0
      simp only [Label.invokes, Label.destroys, Bool.toNat_false]
      omega
  | answer waits returned step =>
      rcases inv.inFlight_answer waits step with ⟨inFlight, nothing⟩
      rcases step.funded within_body byThreads with ⟨left, funded, pays⟩
      refine ⟨left, transports, funded, byTransports, ?_⟩
      simp only [inFlight, nothing, Option.isSome_none, Option.isSome_some, Label.invokes,
        Label.destroys, Guarded.Label.invokes, Guarded.Label.price, Bool.toNat_false, if_true,
        Bool.false_eq_true, if_false] at balance pays ⊢
      omega

theorem StackRun.paid (run : StackRun deviceId labels self) : Paid labels self := by
  induction run with
  | start begins =>
      rw [begins]
      exact ⟨0, 0, .of_idle fun _ => .idle, .of_idle fun _ => WiaTransport.enough_new,
        Nat.zero_le _⟩
  | snoc run step paid => exact paid.step (StackRun.stackInvariant run) step

/-- Each public call costs the stack so many steps at most, whatever the interleaving. -/
theorem StackRun.length_le (run : StackRun deviceId labels self) :
    labels.length ≤ granted labels := by
  rcases StackRun.paid run with ⟨threads, transports, byThreads, _, balance⟩
  cases waits : self.inFlight with
  | none =>
      rw [waits, Option.isSome_none, if_neg Bool.false_ne_true] at balance
      omega
  | some ticket =>
      rw [waits, Option.isSome_some, if_pos rfl] at balance
      have inv := StackRun.stackInvariant run
      rcases inv.inFlight_iff.mp waits with ⟨thread, pending⟩
      rcases inv.awaited thread ticket pending with ⟨op, resume, runs⟩
      rcases byThreads.exists_share thread with ⟨share, part, enough⟩
      rw [runs] at enough
      have reserved := enough.of_call
      omega

/-- The steps of a transport in a run of the stack: the owner thread can be started, and only a
step of the stack that destroys a transport stops it. -/
theorem Step.forTransport (step : Step deviceId self label next) {transport : τ}
    {moved : Wia.Label (Ticket τ sizeT) sizeT} (seen : label.forTransport transport = some moved) :
    moved.failsToStart = false ∧ (moved.stops = true → label.destroys = true) := by
  cases step with
  | issue =>
      rw [Label.forTransport] at seen
      split at seen
      · cases seen
        rw [Ticket.entry]
        split <;> exact ⟨rfl, fun stops => absurd stops Bool.false_ne_true⟩
      · cases seen
  | transport _ internal =>
      rw [Label.forTransport] at seen
      split at seen
      · cases seen
        exact ⟨by cases moved <;> first | rfl | exact internal.elim, id⟩
      · cases seen
  | api | answer => cases seen

/-- What an `Escape` call that has not begun and one that a thread is in look like. -/
structure CallInvariant (object : Assembly θ τ sizeT) : Prop where
  fresh : ∀ transport ticket, object.issued ≤ ticket.number →
    (object.transports transport).caller ticket = .outside
  begun : ∀ thread ticket, object.pending thread = some ticket →
    ((object.transports ticket.request.transport).caller ticket).inside = true ∨
      ∃ reply, (object.transports ticket.request.transport).caller ticket = .returned reply

theorem CallInvariant.issue_step (inv : CallInvariant self) {thread : θ} {ticket : Ticket τ sizeT}
    {state : WiaTransport (Ticket τ sizeT) sizeT} (number : ticket.number = self.issued)
    (step : Wia.Step (deviceId ticket.request.transport) Ticket.arguments
      (self.transports ticket.request.transport) ticket.entry state) :
    CallInvariant { self.setTransport ticket.request.transport state with
      issued := self.issued + 1
      pending := Function.update self.pending thread (some ticket) } := by
  constructor
  · intro transport other later
    change self.issued + 1 ≤ other.number at later
    have outside := inv.fresh transport other (Nat.le_of_succ_le later)
    simp only [setTransport_transports]
    split
    · rename_i here
      rw [here] at outside
      have different : ticket.entry.caller ≠ some other := by
        rw [ticket.entry_caller]
        intro same
        cases same
        omega
      rw [step.caller_of_ne different, outside]
    · exact outside
  · have begun : (state.caller ticket).inside = true ∨
        ∃ reply, state.caller ticket = .returned reply := by
      rcases step.stepsCall ticket with moves | ⟨_, other⟩
      · rw [inv.fresh _ ticket number.ge] at moves
        generalize state.caller ticket = begun at moves
        rw [Ticket.entry] at moves
        split at moves <;> cases moves
        · exact Or.inl rfl
        · exact Or.inr ⟨_, rfl⟩
      · exact (other ticket.entry_caller).elim
    intro other another waits
    simp only [Function.update_apply] at waits
    split at waits
    · cases waits
      simpa only [setTransport_transports, if_true] using begun
    · have earlier := inv.begun other another waits
      simp only [setTransport_transports]
      split
      · rename_i here
        by_cases same : another = ticket
        · rw [same]
          exact begun
        · have different : ticket.entry.caller ≠ some another := by
            rw [ticket.entry_caller]
            exact fun isTicket => same (Option.some.inj isTicket).symm
          rw [here] at earlier
          rwa [step.caller_of_ne different]
      · exact earlier

omit [DecidableEq θ] in
/-- A step of a transport by itself begins no call, and ends none by an exception. -/
theorem caller_of_internal {deviceId : String} {state next : WiaTransport (Ticket τ sizeT) sizeT}
    {label : Wia.Label (Ticket τ sizeT) sizeT} {ticket : Ticket τ sizeT}
    (step : Wia.Step deviceId Ticket.arguments state label next) (internal : Internal label) :
    (state.caller ticket = .outside → next.caller ticket = .outside) ∧
      ((state.caller ticket).inside = true → (next.caller ticket).inside = true ∨
        ∃ reply, next.caller ticket = .returned reply) := by
  rcases step.stepsCall ticket with moves | ⟨same, _⟩
  · generalize state.caller ticket = old at moves ⊢
    generalize next.caller ticket = new at moves ⊢
    cases moves with
    | call | reject | spawnFails => exact internal.elim
    | spawn | alreadyStarted | enqueue => exact ⟨nofun, fun _ => Or.inl rfl⟩
    | timeout | collect => exact ⟨nofun, fun _ => Or.inr ⟨_, rfl⟩⟩
  · rw [same]
    exact ⟨id, Or.inl⟩

omit [DecidableEq θ] in
theorem CallInvariant.transport_step (inv : CallInvariant self) {transport : τ}
    {moved : Wia.Label (Ticket τ sizeT) sizeT} {state : WiaTransport (Ticket τ sizeT) sizeT}
    (step : Wia.Step (deviceId transport) Ticket.arguments (self.transports transport) moved state)
    (internal : Internal moved) : CallInvariant (self.setTransport transport state) := by
  constructor
  · intro other ticket later
    have outside := inv.fresh other ticket later
    rw [setTransport_transports]
    split
    · rename_i here
      rw [here] at outside
      exact (caller_of_internal step internal).1 outside
    · exact outside
  · intro thread ticket waits
    rcases inv.begun thread ticket waits with inside | ⟨reply, returned⟩
    · rw [setTransport_transports]
      split
      · rename_i here
        rw [here] at inside
        exact (caller_of_internal step internal).2 inside
      · exact Or.inl inside
    · exact Or.inr ⟨reply, returned_setTransport step returned⟩

theorem StackRun.callInvariant (run : StackRun deviceId labels self) : CallInvariant self := by
  induction run with
  | start begins =>
      rw [begins]
      exact ⟨fun _ _ _ => rfl, nofun⟩
  | snoc _ step inv =>
      cases step with
      | api => exact ⟨inv.fresh, inv.begun⟩
      | issue _ _ number step => exact inv.issue_step number step
      | transport step internal => exact inv.transport_step step internal
      | answer =>
          refine ⟨inv.fresh, ?_⟩
          intro thread ticket waits
          simp only [Function.update_apply] at waits
          split at waits
          · cases waits
          · exact inv.begun thread ticket waits

/-! ## No deadlock -/

omit [DecidableEq θ] in
/-- What a public call writes is a property value. -/
theorem short_of_body (object : Impl.SonyPTP3Impl τ) (op : PublicCall τ) :
    Interaction.Only (fun request => request.writeData.length ≤ 8)
      (op.body object : Impl.Escaping τ sizeT _) := by
  cases op with
  | operation op =>
      refine Interaction.Only.bind ?_ fun _ => Interaction.only_pure _
      exact (Impl.only_performCommands op).mono fun _ command => command.short
  | isConnected | getExposureParams | getExposureMode | isMovieRecording =>
      exact Interaction.only_pure _

omit [DecidableEq θ] in
/-- An `Escape` call that has not begun can begin. -/
theorem Ticket.exists_entry {deviceId : String} {state : WiaTransport (Ticket τ sizeT) sizeT}
    {ticket : Ticket τ sizeT} (outside : state.caller ticket = .outside) :
    ∃ next, Wia.Step deviceId Ticket.arguments state ticket.entry next := by
  rw [Ticket.entry]
  split
  · rename_i few
    exact ⟨_, .call outside few⟩
  · rename_i many
    exact ⟨_, .reject outside (Nat.lt_of_not_le many)⟩

/-- What a public call sends fits into a `std::vector`. -/
theorem fits_of_running {threads : List (Impl.ThreadLabel θ τ sizeT)}
    {shared : Impl.SharedSony θ τ sizeT} (run : ThreadRun threads shared) {thread : θ}
    {op : PublicCall τ} {request : Impl.Request τ}
    {resume : EscapeResult sizeT → Impl.Escaping τ sizeT (Impl.Answer × Impl.SonyPTP3Impl τ)}
    (runs : shared.phase thread = .running op (.call request resume)) :
    request.writeData.length < sizeT.modulus := by
  rcases Guarded.Run.linearizes run with ⟨calls, pending, lin⟩
  rcases (resume default).exists_exec with ⟨more, result, execution⟩
  have whole := lin.running thread op _ runs _ result (.call execution)
  have short : request.writeData.length ≤ 8 :=
    short_of_body _ op _ _ whole (request, default) (by simp)
  have room := sizeT.pow_32_le_modulus
  omega

/-- No owner thread of a run has failed to start, and one that is told to stop belongs to a
transport that is being destroyed. -/
theorem StackRun.transport_label (run : StackRun deviceId labels self) {transport : τ}
    {moved : Wia.Label (Ticket τ sizeT) sizeT}
    (membership : moved ∈ transportLabels transport labels) :
    moved.failsToStart = false ∧ (moved.stops = true → labels.any Label.destroys = true) := by
  rcases List.mem_filterMap.mp membership with ⟨label, taken, seen⟩
  have stepped : ∀ label ∈ labels, ∃ before after, Step deviceId before label after :=
    run.forall_labels fun _ before _ after step => ⟨before, after, step⟩
  rcases stepped label taken with ⟨before, after, step⟩
  rcases step.forTransport seen with ⟨starts, destroys⟩
  exact ⟨starts, fun stops => List.any_eq_true.mpr ⟨label, taken, destroys stops⟩⟩

/-- While the command in flight has not come back, its call or its owner thread can move. -/
theorem StackRun.transport_moves (run : StackRun deviceId labels self)
    (standing : labels.any Label.destroys = false) {transport : τ} {ticket : Ticket τ sizeT}
    (inside : ((self.transports transport).caller ticket).inside = true) :
    ∃ label next, label.works = true ∧ Step deviceId self label next := by
  have wiaRun := (StackRun.stackInvariant run).transports transport
  have created : (transportLabels transport labels).any Wia.Label.failsToStart = false := by
    rw [List.any_eq_false]
    intro moved membership
    rw [(StackRun.transport_label run membership).1]
    exact Bool.false_ne_true
  have alive : (self.transports transport).stop = false := by
    rw [(Wia.WiaRun.startInvariant wiaRun).stopped, List.any_eq_false]
    intro moved membership stops
    have destroyed := (StackRun.transport_label run membership).2 stops
    rw [standing] at destroyed
    cases destroyed
  rcases Wia.WiaRun.moves wiaRun created alive inside with ⟨moved, state, works, step⟩
  have internal : Internal moved := by cases moved <;> trivial
  exact ⟨.transport transport moved, _, works, .transport step internal⟩

/-- While a public call has not been answered, somebody can move. -/
theorem StackRun.moves (run : StackRun deviceId labels self)
    (standing : labels.any Label.destroys = false) {thread : θ}
    (busy : self.api.phase thread ≠ .idle) :
    ∃ label next, label.works = true ∧ Step deviceId self label next := by
  have stack := StackRun.stackInvariant run
  have calls := StackRun.callInvariant run
  cases waits : self.inFlight with
  | some ticket =>
      rcases stack.inFlight_iff.mp waits with ⟨holder, pending⟩
      rcases stack.awaited holder ticket pending with ⟨op, resume, runs⟩
      rcases calls.begun holder ticket pending with inside | ⟨reply, returned⟩
      · exact StackRun.transport_moves run standing inside
      · exact ⟨_, _, rfl, .answer pending returned (.exchange runs)⟩
  | none =>
      rcases Guarded.Run.linearizes stack.api with ⟨_, _, lin⟩
      rcases lin.moves busy with ⟨holder, op, rest, runs⟩ | ⟨free, op, waiting⟩
      · cases rest with
        | done result => exact ⟨_, _, rfl, .api (.complete runs) rfl⟩
        | call request resume =>
            have isTicket : ∃ ticket : Ticket τ sizeT,
                ticket.number = self.issued ∧ ticket.request = request :=
              ⟨⟨self.issued, request, fits_of_running stack.api runs⟩, rfl, rfl⟩
            rcases isTicket with ⟨ticket, number, rfl⟩
            have begins : ∃ state, Wia.Step (deviceId ticket.request.transport) Ticket.arguments
                (self.transports ticket.request.transport) ticket.entry state :=
              Ticket.exists_entry (calls.fresh _ ticket number.ge)
            rcases begins with ⟨state, step⟩
            have nothing : self.pending holder = none := by
              rwa [Assembly.inFlight, lin.holder_eq runs, Option.bind_some] at waits
            exact ⟨_, _, rfl, .issue nothing runs number step⟩
      · exact ⟨_, _, rfl, .api (.acquire waiting free) rfl⟩

/-- A step that brings the calls on. -/
abbrev WorkStep (deviceId : τ → String) (self : Assembly θ τ sizeT) (label : Label θ τ sizeT)
    (next : Assembly θ τ sizeT) : Prop :=
  Step deviceId self label next ∧ label.works = true

/-- The object has been reached by a run without destructors, whose steps are so many fewer than
those that its calls are given. -/
def MovesWithin (deviceId : τ → String) (fuel : ℕ) (object : Assembly θ τ sizeT) : Prop :=
  ∃ labels, StackRun deviceId labels object ∧ labels.any Label.destroys = false ∧
    granted labels ≤ labels.length + fuel

theorem ranking_movesWithin :
    Ranking (WorkStep deviceId) Label.works (MovesWithin deviceId)
      fun _ : Assembly θ τ sizeT => False where
  kept never _ := never
  lowers within step := by
    rename_i fuel self label next
    rcases within with ⟨labels, run, standing, enough⟩
    rcases step with ⟨step, works⟩
    rcases Label.old_of_works works with ⟨noCall, noEnd⟩
    have longer := StackRun.length_le (run.snoc step)
    rw [granted_snoc, noCall, noEnd] at longer
    simp only [List.length_append, List.length_singleton, Bool.toNat_false] at longer
    refine Or.inr ⟨fuel - 1, ⟨_, run.snoc step, by simp [standing, noEnd], ?_⟩, ?_⟩
    · rw [granted_snoc, noCall, noEnd]
      simp only [List.length_append, List.length_singleton, Bool.toNat_false]
      omega
    · rw [List.countP_singleton, if_pos works]
      omega

/-- No deadlock and no livelock: from every state that a run without destructors has reached, in
whatever order the threads and the owner threads take steps that bring the calls on, and
whatever the system replies, there are no more than 243 steps for each public call ever made;
as long as one has not been answered, somebody can take such a step, so that none needs its
timeout to come to an end. -/
theorem calls_get_answered (run : StackRun deviceId labels self)
    (standing : labels.any Label.destroys = false) {more : List (Label θ τ sizeT)}
    (path : Path (WorkStep deviceId) self more next) :
    labels.length + more.length ≤ stepsPerCall * labels.countP Label.invokes ∧
      ((∃ thread, next.api.phase thread ≠ .idle) →
        ∃ label after, WorkStep deviceId next label after) ∧
      ∃ rest final, Path (WorkStep deviceId) next rest final ∧
        ∀ thread, final.api.phase thread = .idle := by
  have given : granted labels = stepsPerCall * labels.countP Label.invokes := by
    have none : labels.countP Label.destroys = 0 := by
      simpa [List.countP_eq_zero, List.any_eq_false] using standing
    rw [granted, none, Nat.add_zero]
  have within : MovesWithin deviceId (granted labels - labels.length) self :=
    ⟨labels, run, standing, by omega⟩
  have moves {fuel : ℕ} {object : Assembly θ τ sizeT} (within : MovesWithin deviceId fuel object) :
      (∀ thread, object.api.phase thread = .idle) ∨
        ∃ label after, label.works = true ∧ WorkStep deviceId object label after := by
    rcases within with ⟨labels, run, standing, _⟩
    by_cases idle : ∀ thread, object.api.phase thread = .idle
    · exact Or.inl idle
    · rcases not_forall.mp idle with ⟨thread, busy⟩
      rcases StackRun.moves run standing busy with ⟨label, after, works, step⟩
      exact Or.inr ⟨label, after, works, step, works⟩
  rcases ranking_movesWithin.along within path with never | ⟨left, onNext, paid⟩
  · exact never.elim
  · have all : more.countP Label.works = more.length := by
      rw [List.countP_eq_length]
      intro label membership
      rcases path.exists_step label membership with ⟨_, _, step⟩
      exact step.2
    have before := StackRun.length_le run
    refine ⟨by omega, ?_, ?_⟩
    · intro busy
      rcases busy with ⟨thread, busy⟩
      rcases moves onNext with idle | ⟨label, after, _, step⟩
      · exact (busy (idle thread)).elim
      · exact ⟨label, after, step⟩
    · rcases ranking_movesWithin.exists_path moves onNext with ⟨rest, final, onward, _, idle⟩
      exact ⟨rest, final, onward, idle⟩

end Responsiveness

/-- The OpenSession of the Connect in progress has timed out and is still in the queue; the
Connect gets its answer. -/
theorem abandonedLabels_get_answered :
    (Guarded.answers (threadLabels abandonedLabels)).length <
        abandonedLabels.countP Label.invokes ∧
      ∃ self, StackRun (fun _ => "camera") abandonedLabels self ∧
        ∃ rest final, Path (WorkStep fun _ => "camera") self rest final ∧
          ∀ thread, final.api.phase thread = .idle := by
  have exists_run : ∃ final, StackRun (fun _ => "camera") abandonedLabels final :=
    run_of_play (by decide +kernel)
  rcases exists_run with ⟨self, run⟩
  exact ⟨by decide +kernel, self, run,
    (calls_get_answered run (by decide +kernel) .nil).2.2⟩

end SimpleCamCtrl.Stack
