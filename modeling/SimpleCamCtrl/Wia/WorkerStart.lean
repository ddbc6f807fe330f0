import SimpleCamCtrl.Wia.OwnerQueue

/-!
# Starting the owner thread

The started flag is set before the thread is created, and it stays set when that fails.
No second thread is ever created, but after a failure nobody serves the requests that
later calls enqueue.
-/

namespace SimpleCamCtrl.Wia

open History

section WorkerStart

variable {ι : Type} {sizeT : SizeT}

/-- Started, and not yet out of its loop. -/
def OwnerThread.running : OwnerThread ι sizeT → Bool
  | started | looping _ | executing _ _ _ => true
  | absent | exited => false

/-- The creation of the owner thread. -/
def Label.startsWorker : Label ι sizeT → Bool
  | spawn _ => true
  | _ => false

/-- An attempt to create the owner thread that throws. -/
def Label.failsToStart : Label ι sizeT → Bool
  | spawnFails _ => true
  | _ => false

/-- The push of a task. -/
def Label.enqueues : Label ι sizeT → Bool
  | enqueue _ => true
  | _ => false

/-- The beginning of the destruction. -/
def Label.stops : Label ι sizeT → Bool
  | stop => true
  | _ => false

/-- Queued requests have a worker, unless the destruction has begun. -/
def Served (object : WiaTransport ι sizeT) : Prop :=
  object.tasks ≠ [] → object.stop = false → object.ownerThread.running = true

/-- After a failed start a request is enqueued only once the worker has been started, or
the destruction has begun. -/
def StartRetried (labels : List (Label ι sizeT)) : Prop :=
  Each (fun before label => label.enqueues = true → before.any Label.failsToStart = true →
    before.any Label.startsWorker = true ∨ before.any Label.stops = true) labels

/-- The guard: once the thread could not be created, no request is enqueued until the
destruction begins. -/
def NoneAfterFailure (labels : List (Label ι sizeT)) : Prop :=
  Each (fun before label => label.enqueues = true → before.any Label.failsToStart = true →
    before.any Label.stops = true) labels

instance (labels : List (Label ι sizeT)) : Decidable (NoneAfterFailure labels) :=
  inferInstanceAs (Decidable (Each _ _))

variable [DecidableEq ι] [Commons]

/-- There is at most one worker, and it is there in every state with queued requests that
the run goes through. -/
structure WorkerServes (deviceId : String) (arguments : ι → EscapeArguments sizeT)
    (labels : List (Label ι sizeT)) : Prop where
  once : labels.countP Label.startsWorker ≤ 1
  served : ∀ before object, before <+: labels → WiaRun deviceId arguments before object →
    Served object
  retried : StartRetried labels

variable {deviceId : String} {arguments : ι → EscapeArguments sizeT}
variable {labels : List (Label ι sizeT)} {label : Label ι sizeT}
variable {self next object : WiaTransport ι sizeT}

/-- What links the flags, the thread and the queue of a run to its history. -/
structure StartInvariant (labels : List (Label ι sizeT)) (object : WiaTransport ι sizeT) :
    Prop where
  attempts : labels.countP Label.startsWorker + labels.countP Label.failsToStart =
    object.started.toNat
  absent : object.ownerThread = .absent ↔ labels.countP Label.startsWorker = 0
  exited : object.ownerThread = .exited → object.stop = true
  stopped : object.stop = labels.any Label.stops
  ready : ∀ caller, object.caller caller = .ready → object.started = true
  queued : object.tasks ≠ [] → object.started = true

/-- The started flag is never cleared, and a call gets behind `EnsureWorkerStarted` only
with the flag set. -/
theorem Step.started (step : Step deviceId arguments self label next)
    (started : self.started = true) : next.started = true := by
  cases step with
  | spawn | spawnFails => rfl
  | _ => exact started

theorem Step.started_of_ready (step : Step deviceId arguments self label next) {caller : ι}
    (ready : next.caller caller = .ready) :
    next.started = true ∨ self.caller caller = .ready := by
  cases step with
  | spawn | spawnFails => exact Or.inl rfl
  | alreadyStarted entered started => exact Or.inl started
  | call phase | reject phase | enqueue phase | timeout phase | collect phase =>
      rw [setCaller_caller] at ready
      split at ready
      · cases ready
      · exact Or.inr ready
  | _ => exact Or.inr ready

omit [DecidableEq ι] [Commons] in
/-- A thread that takes steps has been created. -/
theorem StartInvariant.created (inv : StartInvariant labels self)
    (present : self.ownerThread ≠ .absent) :
    (labels ++ [label]).countP Label.startsWorker ≠ 0 := by
  rw [Ne, inv.absent] at present
  rw [List.countP_append]
  exact fun none => present (Nat.eq_zero_of_add_eq_zero_right none)

theorem StartInvariant.absent_step (inv : StartInvariant labels self)
    (step : Step deviceId arguments self label next) :
    next.ownerThread = .absent ↔ (labels ++ [label]).countP Label.startsWorker = 0 := by
  cases step with
  | spawn => simp [Label.startsWorker]
  | coInitialize thread | dequeue thread | system thread | fulfil thread | exit thread =>
      have present : self.ownerThread ≠ .absent := by
        rw [thread]
        exact nofun
      simp only [inv.created present, reduceCtorEq]
  | _ => simpa [Label.startsWorker, WiaTransport.setCaller] using inv.absent

theorem StartInvariant.step (inv : StartInvariant labels self)
    (step : Step deviceId arguments self label next) :
    StartInvariant (labels ++ [label]) next := by
  refine ⟨?_, inv.absent_step step, ?_, ?_, ?_, ?_⟩
  · have before := inv.attempts
    cases step with
    | spawn _ unstarted | spawnFails _ unstarted =>
        rw [unstarted, Bool.toNat_false, Nat.add_eq_zero_iff] at before
        simp [Label.startsWorker, Label.failsToStart, before.1, before.2]
    | _ => simpa [Label.startsWorker, Label.failsToStart, WiaTransport.setCaller] using before
  · intro exited
    cases step with
    | exit _ stopped => exact stopped
    | stop => rfl
    | spawn | coInitialize | dequeue | system | fulfil => cases exited
    | _ => exact inv.exited exited
  · cases step with
    | stop => simp [Label.stops]
    | _ => simpa [Label.stops, WiaTransport.setCaller] using inv.stopped
  · intro caller ready
    rcases step.started_of_ready ready with started | before
    · exact started
    · exact step.started (inv.ready caller before)
  · intro queued
    cases step with
    | spawn | spawnFails => rfl
    | enqueue ready => exact inv.ready _ ready
    | dequeue _ front => exact inv.queued (by simp [front])
    | _ => exact inv.queued queued

theorem WiaRun.startInvariant (run : WiaRun deviceId arguments labels self) :
    StartInvariant labels self := by
  refine run.invariant ?_ ?_
  · intro state begins
    rw [begins]
    refine ⟨rfl, by simp, ?_, rfl, ?_, ?_⟩
    · intro exited
      cases exited
    · intro caller ready
      cases ready
    · intro queued
      exact (queued rfl).elim
  · intro labels state label next _ inv step
    exact inv.step step

omit [DecidableEq ι] [Commons] in
theorem any_iff_countP_ne_zero {kind : Label ι sizeT → Bool} :
    labels.any kind = true ↔ labels.countP kind ≠ 0 := by
  rw [← Nat.pos_iff_ne_zero, List.countP_pos_iff, List.any_eq_true]

omit [DecidableEq ι] [Commons] in
/-- The one attempt to start the worker either succeeded or failed. -/
theorem StartInvariant.not_both (inv : StartInvariant labels object)
    (failed : labels.any Label.failsToStart = true) :
    labels.countP Label.startsWorker = 0 ∧ object.started = true := by
  have attempts := inv.attempts
  have atMostOne := Bool.toNat_le object.started
  rw [any_iff_countP_ne_zero] at failed
  refine ⟨by omega, ?_⟩
  cases started : object.started with
  | true => rfl
  | false =>
      rw [started, Bool.toNat_false] at attempts
      omega

omit [DecidableEq ι] [Commons] in
/-- The worker is missing exactly when requests are queued after a failed start. -/
theorem StartInvariant.served_iff (inv : StartInvariant labels object) :
    Served object ↔ (labels.any Label.failsToStart = true → object.stop = false →
      object.tasks = []) := by
  constructor
  · intro served failed notStopped
    by_contra queued
    have running := served queued notStopped
    rw [inv.absent.mpr (inv.not_both failed).1] at running
    cases running
  · intro idle queued notStopped
    have notFailed : labels.countP Label.failsToStart = 0 := by
      by_contra failed
      exact queued (idle (any_iff_countP_ne_zero.mpr failed) notStopped)
    have attempts := inv.attempts
    rw [inv.queued queued, notFailed, Bool.toNat_true] at attempts
    cases thread : object.ownerThread with
    | absent =>
        rw [inv.absent.mp thread] at attempts
        cases attempts
    | exited =>
        rw [inv.exited thread] at notStopped
        cases notStopped
    | _ => rfl

/-- Under the guard the queue stays empty after a failed start. -/
theorem WiaRun.idle_of_failed (run : WiaRun deviceId arguments labels self)
    (guarded : NoneAfterFailure labels) (failed : labels.any Label.failsToStart = true)
    (notStopped : self.stop = false) : self.tasks = [] := by
  induction run with
  | start begins => rw [begins]
  | snoc run step ih =>
      rename_i labels self next label
      have inv := WiaRun.startInvariant run
      rw [NoneAfterFailure, each_snoc] at guarded
      have earlier := ih guarded.1
      cases step with
      | spawnFails _ unstarted =>
          by_contra queued
          rw [inv.queued queued] at unstarted
          cases unstarted
      | enqueue =>
          have before : labels.any Label.failsToStart = true := by
            simpa [Label.failsToStart] using failed
          have stopped := guarded.2 rfl before
          rw [← inv.stopped] at stopped
          exact (Bool.false_ne_true (notStopped.symm.trans stopped)).elim
      | dequeue _ front =>
          have empty := earlier (by simpa [Label.failsToStart] using failed) notStopped
          rw [front] at empty
          cases empty
      | stop => cases notStopped
      | _ => exact earlier (by simpa [Label.failsToStart] using failed) notStopped

/-- A request enqueued after a failed start, before the destruction, has no worker. -/
theorem WorkerServes.noneAfterFailure (run : WiaRun deviceId arguments labels self)
    (serves : WorkerServes deviceId arguments labels) : NoneAfterFailure labels := by
  intro before label after split enqueues failed
  by_contra notStopped
  rw [split, List.append_cons] at run
  rcases run.exists_of_append with ⟨object, earlier⟩
  have inv := WiaRun.startInvariant earlier
  have served := serves.served _ object ⟨after, by simp [split]⟩ earlier
  rw [inv.served_iff, inv.stopped] at served
  rcases History.Run.snoc_iff.mp earlier with ⟨previous, _, step⟩
  cases step with
  | enqueue =>
      have empty := served (by simp [failed]) (by simpa [Label.stops] using notStopped)
      simp at empty
  | _ => cases enqueues

/-- In every run there is at most one worker and it serves every request, starting it
being tried again where it failed, exactly when no request is enqueued after a failed start
and before the destruction. -/
theorem workerServes_iff_noneAfterFailure (run : WiaRun deviceId arguments labels self) :
    WorkerServes deviceId arguments labels ↔ NoneAfterFailure labels := by
  constructor
  · intro serves
    exact serves.noneAfterFailure run
  · intro guarded
    refine ⟨?_, ?_, ?_⟩
    · have attempts := (WiaRun.startInvariant run).attempts
      have atMostOne := Bool.toNat_le self.started
      omega
    · intro before object isPrefix earlier
      rcases isPrefix with ⟨after, rfl⟩
      rw [(WiaRun.startInvariant earlier).served_iff]
      exact WiaRun.idle_of_failed earlier ((each_append before after).mp guarded).1
    · intro before label after split enqueues failed
      exact Or.inr (guarded before label after split enqueues failed)

end WorkerStart

/-- The first call cannot start the worker and throws; the second one enqueues its request. -/
def unservedLabels : List (Label Bool .bits64) :=
  [.call false, .spawnFails false, .call true, .alreadyStarted true, .enqueue true]

/-- The request of the second call is queued, and there is no worker and will be none. -/
theorem unservedLabels_not_serves :
    (∃ object, WiaRun "camera" sampleArguments unservedLabels object ∧ object.tasks = [true] ∧
      object.stop = false ∧ object.ownerThread.running = false ∧ object.started = true) ∧
      ¬WorkerServes "camera" sampleArguments unservedLabels := by
  have path : ∃ object, Path (Step "camera" sampleArguments) {} unservedLabels object ∧
      object.tasks = [true] ∧ object.stop = false ∧ object.ownerThread.running = false ∧
      object.started = true := by
    refine ⟨_, .cons (.call rfl (by decide)) <| .cons (.spawnFails rfl rfl) <|
      .cons (.call rfl (by decide)) <| .cons (.alreadyStarted rfl rfl) <|
      .cons (.enqueue rfl) .nil, rfl, rfl, rfl, rfl⟩
  rcases path with ⟨object, path, queued, notStopped, absent, started⟩
  have start : WiaRun "camera" sampleArguments [] {} := .start rfl
  have run := start.append_path path
  refine ⟨⟨object, run, queued, notStopped, absent, started⟩, ?_⟩
  intro serves
  have running := serves.served _ object List.prefix_rfl run (by simp [queued]) notStopped
  rw [absent] at running
  cases running

/-- A run in which the worker is started once serves. -/
theorem abandonedLabels_workerServes :
    WorkerServes "camera" sampleArguments abandonedLabels := by
  rcases abandonedLabels_run with ⟨object, run, _⟩
  exact (workerServes_iff_noneAfterFailure (QuietRun.wiaRun run)).mpr (by decide)

end SimpleCamCtrl.Wia
