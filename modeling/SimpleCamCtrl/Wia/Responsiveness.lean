import SimpleCamCtrl.Library.Effort
import SimpleCamCtrl.Wia.Progress
import SimpleCamCtrl.Wia.Timeouts
import SimpleCamCtrl.Wia.WorkerStart

/-!
# Responsiveness of a transport

While an `Escape` call is being executed, it or the owner thread can take a step without a
timeout; and fifteen steps for each call are enough, whatever the order of the steps.
-/

namespace SimpleCamCtrl.Wia

open History Interaction

section Responsiveness

variable {ι : Type} {sizeT : SizeT}

/-- The steps that bring a call nearer to the result of its own task. -/
def Label.works : Label ι sizeT → Bool
  | spawn _ | alreadyStarted _ | enqueue _ | collect _ _ | coInitialize _ | dequeue _
  | system _ _ _ | fulfil _ _ => true
  | call _ | reject _ | spawnFails _ | timeout _ | stop | exit => false

/-- The steps that a step brings with it, its own among them. -/
def Label.credit : Label ι sizeT → ℕ
  | call _ | reject _ => 15
  | stop => 1
  | spawn _ | spawnFails _ | alreadyStarted _ | enqueue _ | timeout _ | collect _ _
  | coInitialize _ | dequeue _ | system _ _ _ | fulfil _ _ | exit => 0

/-- Steps that are enough for the rest of a call: before the owner thread is started, with those
that the thread takes for itself, and before the push, with those for the task. -/
def Caller.effort : Caller sizeT → ℕ
  | outside | returned _ | thrown => 0
  | entered => 14
  | ready => 11
  | waiting => 1

/-- Steps that are enough for the owner thread to finish its task and to exit. -/
inductive OwnerThread.Enough : OwnerThread ι sizeT → ℕ → Prop where
  | absent : Enough .absent 0
  | started : Enough .started 2
  | looping {hrCom : Int32} : Enough (.looping hrCom) 1
  | executing {hrCom : Int32} {current : ι} {rest : Worker (EscapeResult sizeT)} {fuel : ℕ} :
      Within fuel rest → Enough (.executing hrCom current rest) (fuel + 2)
  | exited : Enough .exited 0

/-- Steps that are enough for all that a transport has to do. -/
inductive WiaTransport.Enough (object : WiaTransport ι sizeT) : ℕ → Prop where
  | intro {callers owner : ℕ} :
      Funded (fun phase share => Caller.effort phase = share) object.caller callers →
      object.ownerThread.Enough owner →
      Enough object (callers + owner + stepsPerTask * object.tasks.length)

/-- A new transport has nothing to do. -/
theorem WiaTransport.enough_new : ({} : WiaTransport ι sizeT).Enough 0 := by
  have idle : Funded (fun phase share => Caller.effort phase = share)
      ({} : WiaTransport ι sizeT).caller 0 := .of_idle fun _ => rfl
  have enough := WiaTransport.Enough.intro idle .absent
  exact enough

variable [DecidableEq ι]

/-- A step of a call is paid for by the call. -/
theorem funded_setCaller {self : WiaTransport ι sizeT} {caller : ι} {old new : Caller sizeT}
    {callers paid given : ℕ}
    (funded : Funded (fun phase share => Caller.effort phase = share) self.caller callers)
    (phase : self.caller caller = old) (balance : new.effort + paid ≤ old.effort + given) :
    ∃ left, Funded (fun phase share => Caller.effort phase = share)
      (self.setCaller caller new).caller left ∧ left + paid ≤ callers + given := by
  refine funded.update ?_
  intro share same
  rw [phase] at same
  exact ⟨_, rfl, same ▸ balance⟩

variable {labels : List (Label ι sizeT)} {label : Label ι sizeT}
variable {self next : WiaTransport ι sizeT} {caller : ι} {total : ℕ}

/-- A step of a call that leaves the owner thread and the queue alone. -/
theorem WiaTransport.Enough.of_caller (enough : self.Enough total) {old new : Caller sizeT}
    (phase : self.caller caller = old) (balance : new.effort + 1 ≤ old.effort + label.credit) :
    ∃ left, (self.setCaller caller new).Enough left ∧ left + 1 ≤ total + label.credit := by
  rcases enough with ⟨funded, owner⟩
  rcases funded_setCaller funded phase balance with ⟨left, refunded, paid⟩
  exact ⟨_, .intro refunded owner, by change _ + stepsPerTask * self.tasks.length + 1 ≤ _; omega⟩

variable [Commons] {deviceId : String} {arguments : ι → EscapeArguments sizeT}

/-- Every step is paid for by the call that it is a step of. -/
theorem Step.enough (step : Step deviceId arguments self label next)
    (enough : self.Enough total) :
    ∃ left, next.Enough left ∧ left + 1 ≤ total + label.credit := by
  cases step with
  | call phase | reject phase | alreadyStarted phase | timeout phase | collect phase =>
      exact enough.of_caller phase (by simp [Caller.effort, Label.credit])
  | spawn entered =>
      rcases enough with ⟨funded, owner⟩
      have balance : (Caller.ready : Caller sizeT).effort + 3 ≤
          (Caller.entered : Caller sizeT).effort + 0 := le_rfl
      rcases funded_setCaller funded entered balance with ⟨left, refunded, paid⟩
      exact ⟨_, .intro refunded .started,
        by change _ + stepsPerTask * self.tasks.length + 1 ≤ _; omega⟩
  | spawnFails entered =>
      rcases enough with ⟨funded, owner⟩
      have balance : (Caller.thrown : Caller sizeT).effort + 14 ≤
          (Caller.entered : Caller sizeT).effort + 0 := le_rfl
      rcases funded_setCaller funded entered balance with ⟨left, refunded, paid⟩
      exact ⟨_, .intro refunded owner,
        by change _ + stepsPerTask * self.tasks.length + 1 ≤ _; omega⟩
  | enqueue ready =>
      rcases enough with ⟨funded, owner⟩
      have balance : (Caller.waiting : Caller sizeT).effort + 10 ≤
          (Caller.ready : Caller sizeT).effort + 0 := le_rfl
      rcases funded_setCaller funded ready balance with ⟨left, refunded, paid⟩
      refine ⟨_, .intro refunded owner, ?_⟩
      simp only [List.length_append, List.length_singleton, stepsPerTask]
      omega
  | coInitialize started =>
      rcases enough with ⟨funded, owner⟩
      rw [started] at owner
      cases owner
      exact ⟨_, .intro funded .looping, by simp only [stepsPerTask]; omega⟩
  | dequeue looping front =>
      rcases enough with ⟨funded, owner⟩
      rw [looping] at owner
      cases owner
      refine ⟨_, .intro funded (.executing (within_executeTask _)), ?_⟩
      simp only [front, List.length_cons, stepsPerTask]
      omega
  | system executing =>
      rcases enough with ⟨funded, owner⟩
      rw [executing] at owner
      cases owner with
      | executing within =>
          rcases within.resume _ with ⟨fuel, rfl, onRest⟩
          exact ⟨_, .intro funded (.executing onRest), by simp only [stepsPerTask]; omega⟩
  | fulfil executing =>
      rcases enough with ⟨funded, owner⟩
      rw [executing] at owner
      cases owner
      exact ⟨_, .intro funded .looping, by simp only [stepsPerTask]; omega⟩
  | stop =>
      rcases enough with ⟨funded, owner⟩
      exact ⟨_, .intro funded owner, le_rfl⟩
  | exit looping =>
      rcases enough with ⟨funded, owner⟩
      rw [looping] at owner
      cases owner
      exact ⟨_, .intro funded .exited, by simp only [stepsPerTask]; omega⟩

/-- While a request waits for its result, the owner thread can take a step. -/
theorem WiaRun.owner_moves (run : WiaRun deviceId arguments labels self)
    (created : labels.any Label.failsToStart = false) (alive : self.stop = false)
    (waits : self.caller caller = .waiting) (pending : self.promise caller = none) :
    ∃ label next, label.works = true ∧ Step deviceId arguments self label next := by
  have start := WiaRun.startInvariant run
  have queued := (WiaRun.timeoutInvariant run).waiting caller waits
  rw [enqueued, (SingleServer.accounts (WiaRun.queueInvariant run).accepted).1,
    (SingleServer.accounts (WiaRun.queueInvariant run).accepted).2, List.append_assoc,
    List.mem_append] at queued
  have placed : caller ∈ self.server.serving.toList ++ self.tasks := by
    rcases queued with finished | placed
    · have promised := WiaRun.promise_of_fulfilled run caller finished
      rw [pending] at promised
      cases promised
    · exact placed
  cases thread : self.ownerThread with
  | started => exact ⟨.coInitialize sOk, _, rfl, .coInitialize thread⟩
  | executing hrCom current rest =>
      cases rest with
      | done result => exact ⟨_, _, rfl, .fulfil thread⟩
      | call request resume => exact ⟨.system current request default, _, rfl, .system thread⟩
  | looping hrCom =>
      cases front : self.tasks with
      | nil => simp [WiaTransport.server, thread, front] at placed
      | cons first rest => exact ⟨_, _, rfl, .dequeue thread front⟩
  | absent =>
      have inQueue : self.tasks ≠ [] := by
        intro empty
        simp [WiaTransport.server, thread, empty] at placed
      have running := start.served_iff.mpr (fun failed => by rw [created] at failed; cases failed)
        inQueue alive
      rw [thread] at running
      cases running
  | exited =>
      have stopped := start.exited thread
      rw [alive] at stopped
      cases stopped

/-- While a call is being executed, it or the owner thread can take a step. -/
theorem WiaRun.moves (run : WiaRun deviceId arguments labels self)
    (created : labels.any Label.failsToStart = false) (alive : self.stop = false)
    (inside : (self.caller caller).inside = true) :
    ∃ label next, label.works = true ∧ Step deviceId arguments self label next := by
  cases phase : self.caller caller with
  | entered =>
      cases started : self.started with
      | false => exact ⟨_, _, rfl, .spawn phase started⟩
      | true => exact ⟨_, _, rfl, .alreadyStarted phase started⟩
  | ready => exact ⟨_, _, rfl, .enqueue phase⟩
  | waiting =>
      cases promise : self.promise caller with
      | some result => exact ⟨_, _, rfl, .collect phase promise⟩
      | none => exact WiaRun.owner_moves run created alive phase promise
  | outside | returned | thrown =>
      rw [phase] at inside
      cases inside

end Responsiveness

end SimpleCamCtrl.Wia
