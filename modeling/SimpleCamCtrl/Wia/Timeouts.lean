import SimpleCamCtrl.Wia.OwnerQueue

/-!
# Requests that have timed out

An `Escape` call that gives up waiting leaves its task where it is: nothing withdraws it
from the queue.  The request is served in its turn all the same, at most once, and only
its result is lost.
-/

namespace SimpleCamCtrl.Wia

open History

section Timeouts

variable {ι : Type} {sizeT : SizeT} [DecidableEq ι] [Commons]
variable {deviceId : String} {arguments : ι → EscapeArguments sizeT}
variable {labels : List (Label ι sizeT)} {label : Label ι sizeT}
variable {self next : WiaTransport ι sizeT} {caller : ι}

/-- A request that had not been taken up when its call timed out is never passed to the
device afterwards. -/
def TimeoutWithdraws (labels : List (Label ι sizeT)) : Prop :=
  ∀ before caller between request reply after,
    labels = before ++ .timeout caller :: between ++ .system caller request reply :: after →
    caller ∉ takenUp before → request.toDevice = none

/-- What happens to a request whose call has timed out. -/
structure ServedSilently (deviceId : String) (arguments : ι → EscapeArguments sizeT)
    (labels : List (Label ι sizeT)) (object : WiaTransport ι sizeT) (caller : ι) : Prop where
  returned : object.caller caller = .returned timeoutResult
  unheard : ∀ result, Label.collect caller result ∉ labels
  queued : caller ∈ enqueued labels
  inTurn : enqueued labels = takenUp labels ++ object.tasks
  keptQueued : caller ∉ takenUp labels → caller ∈ object.tasks ∧ systemCalls caller labels = []
  atMostOnce : passedToDevice (systemCalls caller labels) <+: [vendorDataIn (arguments caller)]
  executed : caller ∈ fulfilled labels →
    ∃ result, ComputedFor deviceId arguments labels caller result

section Moves

variable {task : EscapeArguments sizeT} {promise : Option (EscapeResult sizeT)}
variable {old new : Caller sizeT}

omit [DecidableEq ι] in
/-- A call that has returned takes no further steps. -/
theorem Caller.Moves.not_returned (moves : Caller.Moves caller task promise label old new)
    (result : EscapeResult sizeT) : old ≠ .returned result := by
  cases moves <;> exact nofun

omit [DecidableEq ι] in
/-- A call begins to wait by pushing its task. -/
theorem Caller.Moves.enqueue_of_waiting
    (moves : Caller.Moves caller task promise label old new) (waits : new = .waiting) :
    label = .enqueue caller := by
  cases moves with
  | enqueue => rfl
  | _ => cases waits

end Moves

/-- A call that has returned stays so and collects nothing more. -/
theorem Step.returned (step : Step deviceId arguments self label next)
    {result : EscapeResult sizeT} (returned : self.caller caller = .returned result) :
    next.caller caller = .returned result ∧ ∀ late, label ≠ .collect caller late := by
  rcases step.stepsCall caller with moves | ⟨same, other⟩
  · exact (moves.not_returned result returned).elim
  · refine ⟨by rw [same, returned], ?_⟩
    intro late collects
    rw [collects] at other
    exact other rfl

/-- A call that waits after a step has waited before or has just pushed its task. -/
theorem Step.waiting (step : Step deviceId arguments self label next)
    (waits : next.caller caller = .waiting) :
    self.caller caller = .waiting ∨ label = .enqueue caller := by
  rcases step.stepsCall caller with moves | ⟨same, _⟩
  · exact Or.inr (moves.enqueue_of_waiting waits)
  · rw [same] at waits
    exact Or.inl waits

/-- A call that times out has waited, and is over. -/
theorem Step.timeout_ends (step : Step deviceId arguments self label next)
    (timesOut : label = .timeout caller) :
    self.caller caller = .waiting ∧ next.caller caller = .returned timeoutResult := by
  cases step with
  | timeout waiting =>
      cases timesOut
      exact ⟨waiting, by simp [setCaller_caller]⟩
  | _ => cases timesOut

/-- A call that collects its result is over. -/
theorem Step.collect_ends (step : Step deviceId arguments self label next)
    {result : EscapeResult sizeT} (collects : label = .collect caller result) :
    next.caller caller = .returned result := by
  cases step with
  | collect waiting promised =>
      cases collects
      simp [setCaller_caller]
  | _ => cases collects

/-- What links the calls that wait or have ended to the history. -/
structure TimeoutInvariant (labels : List (Label ι sizeT)) (object : WiaTransport ι sizeT) :
    Prop where
  waiting : ∀ caller, object.caller caller = .waiting → caller ∈ enqueued labels
  collected : ∀ caller result, Label.collect caller result ∈ labels →
    object.caller caller = .returned result
  timedOut : ∀ caller, Label.timeout caller ∈ labels →
    caller ∈ enqueued labels ∧ object.caller caller = .returned timeoutResult ∧
      ∀ result, Label.collect caller result ∉ labels

theorem TimeoutInvariant.step (inv : TimeoutInvariant labels self)
    (step : Step deviceId arguments self label next) :
    TimeoutInvariant (labels ++ [label]) next := by
  have kept {caller : ι} (old : caller ∈ enqueued labels) :
      caller ∈ enqueued (labels ++ [label]) := by
    rw [enqueued, SingleServer.arrivals_append]
    exact List.mem_append_left _ old
  refine ⟨?_, ?_, ?_⟩
  · intro caller waits
    rcases step.waiting waits with before | pushed
    · exact kept (inv.waiting caller before)
    · rw [pushed]
      simp [SingleServer.mem_arrivals, queueAction]
  · intro caller result collects
    rcases List.mem_append.mp collects with old | last
    · exact (step.returned (inv.collected caller result old)).1
    · exact step.collect_ends (List.mem_singleton.mp last).symm
  · intro caller timesOut
    rcases List.mem_append.mp timesOut with old | last
    · rcases inv.timedOut caller old with ⟨queued, returned, unheard⟩
      rcases step.returned returned with ⟨stays, silent⟩
      refine ⟨kept queued, stays, ?_⟩
      intro result collects
      rcases List.mem_append.mp collects with heard | now
      · exact unheard result heard
      · exact silent result (List.mem_singleton.mp now).symm
    · rcases step.timeout_ends (List.mem_singleton.mp last).symm with ⟨waits, returned⟩
      refine ⟨kept (inv.waiting caller waits), returned, ?_⟩
      intro result collects
      rcases List.mem_append.mp collects with heard | now
      · rw [inv.collected caller result heard] at waits
        cases waits
      · rw [← List.mem_singleton.mp last] at now
        simp at now

theorem WiaRun.timeoutInvariant (run : WiaRun deviceId arguments labels self) :
    TimeoutInvariant labels self := by
  refine run.invariant ?_ ?_
  · intro state begins
    rw [begins]
    refine ⟨?_, by simp, by simp⟩
    intro caller waits
    cases waits
  · intro labels state label next _ inv step
    exact inv.step step

/-- In every run a request whose call has timed out keeps its place in the queue and is
taken up in its turn; only then, and at most once, is it passed to the device, as the frame
of its own arguments, and nobody hears of its result.  If no call overlaps the destructor,
the worker does not exit before it has executed the request. -/
theorem timedOut_servedSilently (run : WiaRun deviceId arguments labels self)
    (timedOut : Label.timeout caller ∈ labels) :
    ServedSilently deviceId arguments labels self caller ∧
      (QuietRun deviceId arguments labels self → self.ownerThread = .exited →
        caller ∈ fulfilled labels) := by
  have queue := WiaRun.queueInvariant run
  rcases (WiaRun.timeoutInvariant run).timedOut caller timedOut with ⟨queued, returned, unheard⟩
  have inTurn : enqueued labels = takenUp labels ++ self.tasks :=
    (SingleServer.accounts queue.accepted).1
  have results := WiaRun.resultInvariant run
  constructor
  · refine ⟨returned, unheard, queued, inTurn, ?_, WiaRun.passedToDevice run caller, ?_⟩
    · intro notTaken
      rw [inTurn, List.mem_append] at queued
      exact ⟨queued.resolve_left notTaken, results.untouched caller notTaken⟩
    · intro finished
      rcases mem_fulfilled.mp finished with ⟨result, membership⟩
      exact ⟨result, results.computed caller result membership⟩
  · intro quiet exited
    rw [QuietRun.drained quiet exited]
    exact queued

end Timeouts

theorem abandonedLabels_served :
    ∃ object, ServedSilently "camera" sampleArguments abandonedLabels object true ∧
      object.ownerThread = .exited ∧ true ∈ fulfilled abandonedLabels := by
  rcases abandonedLabels_run with ⟨object, run, exited⟩
  have timedOut : Label.timeout true ∈ abandonedLabels := by simp [abandonedLabels]
  have served := timedOut_servedSilently (QuietRun.wiaRun run) timedOut
  exact ⟨object, served.1, exited, served.2 run exited⟩

/-- The second request times out in the queue, and its frame is passed to the device
when the first one is done. -/
theorem abandonedLabels_not_withdrawn :
    (∃ object, QuietRun "camera" sampleArguments abandonedLabels object) ∧
      ¬TimeoutWithdraws abandonedLabels := by
  constructor
  · rcases abandonedLabels_run with ⟨object, run, _⟩
    exact ⟨object, run⟩
  · intro withdraws
    have nothing := withdraws (abandonedLabels.take 8) true ((abandonedLabels.drop 9).take 10)
      (.escape (vendorDataIn (sampleArguments true)) (dwInSize (sampleArguments true)) dwOutSize)
      { memory := [0x01, 0x20] } (abandonedLabels.drop 20) rfl (by decide)
    cases nothing

end SimpleCamCtrl.Wia
