import SimpleCamCtrl.Library.SingleServer
import SimpleCamCtrl.Wia.Transport

/-!
# The owner-thread queue

Every step of a `WiaTransport` is a step of a queue with a single server, whose customers
are the `Escape` calls.  What the queue discipline says about order and multiplicity
then holds of the requests, and the result a call returns with is traced back to the
execution of its own task.
-/

namespace SimpleCamCtrl.Wia

open History Interaction

section OwnerQueue

variable {ι : Type} {sizeT : SizeT}

/-- What a step means for the queue. -/
def queueAction : Label ι sizeT → SingleServer.Action ι
  | .enqueue caller => .arrived caller
  | .dequeue caller => .taken caller
  | .fulfil caller _ => .finished caller
  | _ => .neutral

/-- The calls whose requests have been enqueued, in order. -/
abbrev enqueued (labels : List (Label ι sizeT)) : List ι := SingleServer.arrivals queueAction labels

/-- The calls whose requests the worker has taken up, in order. -/
abbrev takenUp (labels : List (Label ι sizeT)) : List ι := SingleServer.takes queueAction labels

/-- The calls whose promises have been fulfilled, in order. -/
abbrev fulfilled (labels : List (Label ι sizeT)) : List ι :=
  SingleServer.finishes queueAction labels

theorem queueAction_eq_arrived_iff {label : Label ι sizeT} {caller : ι} :
    queueAction label = .arrived caller ↔ label = .enqueue caller := by
  cases label <;> simp [queueAction]

theorem queueAction_eq_taken_iff {label : Label ι sizeT} {caller : ι} :
    queueAction label = .taken caller ↔ label = .dequeue caller := by
  cases label <;> simp [queueAction]

theorem queueAction_eq_finished_iff {label : Label ι sizeT} {caller : ι} :
    queueAction label = .finished caller ↔ ∃ result, label = .fulfil caller result := by
  cases label <;> simp [queueAction]

theorem mem_fulfilled {labels : List (Label ι sizeT)} {caller : ι} :
    caller ∈ fulfilled labels ↔ ∃ result, Label.fulfil caller result ∈ labels := by
  rw [fulfilled, SingleServer.mem_finishes]
  constructor
  · intro finished
    rcases finished with ⟨label, membership, action⟩
    rcases queueAction_eq_finished_iff.mp action with ⟨result, rfl⟩
    exact ⟨result, membership⟩
  · intro fulfils
    rcases fulfils with ⟨result, membership⟩
    exact ⟨_, membership, rfl⟩

/-- The abstraction: who waits in the queue, and whose task is being executed. -/
def WiaTransport.server (self : WiaTransport ι sizeT) : SingleServer ι where
  waiting := self.tasks
  serving :=
    match self.ownerThread with
    | .executing _ current _ => some current
    | _ => none

variable [DecidableEq ι]

/-- The calls to the system made for the task of a call, with their replies. -/
def systemCalls (caller : ι) (labels : List (Label ι sizeT)) :
    List (SystemCall × SystemReply) :=
  labels.filterMap fun label =>
    match label with
    | .system other request reply => if other = caller then some (request, reply) else none
    | _ => none

variable [Commons]
variable {deviceId : String} {arguments : ι → EscapeArguments sizeT}
variable {labels : List (Label ι sizeT)} {label : Label ι sizeT}
variable {self next : WiaTransport ι sizeT}

/-- The result that executing the task of the call gave, which its promise was set to. -/
def ComputedFor (deviceId : String) (arguments : ι → EscapeArguments sizeT)
    (labels : List (Label ι sizeT)) (caller : ι) (result : EscapeResult sizeT) : Prop :=
  Label.fulfil caller result ∈ labels ∧
    ∃ hrCom, Label.coInitialize hrCom ∈ labels ∧
      Exec (executeTask deviceId hrCom (arguments caller)) (systemCalls caller labels) result

/-- Every step is a step of the queue discipline. -/
theorem Step.server (step : Step deviceId arguments self label next)
    (unstarted : self.started = false → self.ownerThread = .absent) :
    SingleServer.step self.server (queueAction label) = some next.server := by
  cases step with
  | spawn entered notStarted =>
      simp [SingleServer.step, queueAction, WiaTransport.server, WiaTransport.setCaller,
        unstarted notStarted]
  | coInitialize begun => simp [SingleServer.step, queueAction, WiaTransport.server, begun]
  | dequeue looping front =>
      simp [SingleServer.step, queueAction, WiaTransport.server, looping, front]
  | system executing => simp [SingleServer.step, queueAction, WiaTransport.server, executing]
  | fulfil executing => simp [SingleServer.step, queueAction, WiaTransport.server, executing]
  | exit looping => simp [SingleServer.step, queueAction, WiaTransport.server, looping]
  | _ => rfl

/-- The call has not pushed its task yet. -/
def Caller.beforePush : Caller sizeT → Bool
  | outside | entered | ready => true
  | waiting | returned _ | thrown => false

section Moves

variable {caller : ι} {task : EscapeArguments sizeT} {promise : Option (EscapeResult sizeT)}
variable {old new : Caller sizeT}

omit [DecidableEq ι] in
theorem Caller.Moves.beforePush (moves : Caller.Moves caller task promise label old new)
    (before : new.beforePush = true) : old.beforePush = true ∧ label ≠ .enqueue caller := by
  cases moves with
  | call | spawn | alreadyStarted => exact ⟨rfl, nofun⟩
  | reject | spawnFails | enqueue | timeout | collect => cases before

omit [DecidableEq ι] in
/-- A call that gets through the check of its arguments returns for one of two reasons. -/
theorem Caller.Moves.returned {result : EscapeResult sizeT}
    (moves : Caller.Moves caller task promise label old (.returned result))
    (few : task.params.length ≤ Commons.ptpMaxParams) :
    result = timeoutResult ∨ promise = some result := by
  cases moves with
  | reject many => exact (Nat.not_le.mpr many few).elim
  | timeout => exact Or.inl rfl
  | collect promised => exact Or.inr promised

end Moves

/-- A call that has not pushed its task after a step had not before, and did not in the
step. -/
theorem Step.beforePush (step : Step deviceId arguments self label next) {caller : ι}
    (before : (next.caller caller).beforePush = true) :
    (self.caller caller).beforePush = true ∧ label ≠ .enqueue caller := by
  rcases step.stepsCall caller with moves | ⟨same, other⟩
  · exact moves.beforePush before
  · rw [same] at before
    refine ⟨before, ?_⟩
    intro pushed
    rw [pushed] at other
    exact other rfl

/-- A call that is enqueued had not pushed its task before. -/
theorem Step.beforePush_of_enqueue (step : Step deviceId arguments self label next) {caller : ι}
    (pushed : label = .enqueue caller) : (self.caller caller).beforePush = true := by
  cases step with
  | enqueue ready =>
      cases pushed
      rw [ready]
      rfl
  | _ => cases pushed

/-- Before the worker is started there is no thread. -/
theorem Step.unstarted (step : Step deviceId arguments self label next)
    (unstarted : self.started = false → self.ownerThread = .absent) :
    next.started = false → next.ownerThread = .absent := by
  cases step with
  | spawn | spawnFails => simp
  | coInitialize running | dequeue running | system running | fulfil running | exit running =>
      intro notStarted
      rw [unstarted notStarted] at running
      cases running
  | _ => exact unstarted

/-- What links the queue of a run to its history. -/
structure QueueInvariant (labels : List (Label ι sizeT)) (object : WiaTransport ι sizeT) :
    Prop where
  unstarted : object.started = false → object.ownerThread = .absent
  accepted : SingleServer.Accepted queueAction labels object.server
  notYet : ∀ caller, (object.caller caller).beforePush = true → caller ∉ enqueued labels
  once : (enqueued labels).Nodup

theorem QueueInvariant.step (inv : QueueInvariant labels self)
    (step : Step deviceId arguments self label next) : QueueInvariant (labels ++ [label]) next := by
  have mem_new {caller : ι} : caller ∈ enqueued [label] ↔ label = .enqueue caller := by
    simp [SingleServer.mem_arrivals, queueAction_eq_arrived_iff]
  refine ⟨step.unstarted inv.unstarted,
    Monitor.run_snoc inv.accepted (step.server inv.unstarted), ?_, ?_⟩
  · intro caller before
    rcases step.beforePush before with ⟨earlier, notPushed⟩
    rw [enqueued, SingleServer.arrivals_append, List.mem_append, ← enqueued, ← enqueued, mem_new]
    intro either
    rcases either with old | new
    · exact inv.notYet caller earlier old
    · exact notPushed new
  · rw [enqueued, SingleServer.arrivals_append, List.nodup_append, ← enqueued, ← enqueued]
    refine ⟨inv.once, ?_, ?_⟩
    · cases label <;> simp [SingleServer.arrivals, queueAction]
    · intro caller old other new same
      have pushed := step.beforePush_of_enqueue (mem_new.mp new)
      rw [← same] at pushed
      exact inv.notYet caller pushed old

theorem WiaRun.queueInvariant (run : WiaRun deviceId arguments labels self) :
    QueueInvariant labels self := by
  refine run.invariant ?_ ?_
  · intro state begins
    rw [begins]
    exact ⟨fun _ => rfl, rfl, fun _ _ => by simp [SingleServer.arrivals], List.nodup_nil⟩
  · intro labels state label next _ inv step
    exact inv.step step

/-! ## Results -/

omit [Commons] in
theorem systemCalls_append (caller : ι) (left right : List (Label ι sizeT)) :
    systemCalls caller (left ++ right) = systemCalls caller left ++ systemCalls caller right :=
  List.filterMap_append

omit [Commons] in
/-- Only a call to the system for the task of the call counts. -/
theorem systemCalls_snoc_of_ne {caller : ι}
    (other : ∀ request reply, label ≠ .system caller request reply) :
    systemCalls caller (labels ++ [label]) = systemCalls caller labels := by
  have nothing : systemCalls caller [label] = [] := by
    cases label with
    | system running request reply =>
        have different : running ≠ caller := by
          intro same
          exact other request reply (by rw [same])
        simp [systemCalls, different]
    | _ => rfl
  rw [systemCalls_append, nothing, List.append_nil]

/-- Calls to the system are made for the task being executed. -/
theorem Step.serving_of_system (step : Step deviceId arguments self label next) {caller : ι}
    {request : SystemCall} {reply : SystemReply} (calls : label = .system caller request reply) :
    self.server.serving = some caller := by
  cases step with
  | system executing =>
      cases calls
      simp [WiaTransport.server, executing]
  | _ => cases calls

/-- A result computed for a call stays the result computed for it. -/
theorem ComputedFor.snoc {caller : ι} {result : EscapeResult sizeT}
    (computed : ComputedFor deviceId arguments labels caller result)
    (inv : QueueInvariant labels self) (step : Step deviceId arguments self label next) :
    ComputedFor deviceId arguments (labels ++ [label]) caller result := by
  rcases computed with ⟨fulfils, hrCom, begun, execution⟩
  have finished : caller ∈ fulfilled labels := mem_fulfilled.mpr ⟨result, fulfils⟩
  have other : ∀ request reply, label ≠ .system caller request reply := by
    intro request reply calls
    exact SingleServer.not_mem_finishes_of_serving inv.accepted inv.once
      (step.serving_of_system calls) finished
  refine ⟨List.mem_append_left _ fulfils, hrCom, List.mem_append_left _ begun, ?_⟩
  rwa [systemCalls_snoc_of_ne other]

/-- What links the results of a run to its history. -/
structure ResultInvariant (deviceId : String) (arguments : ι → EscapeArguments sizeT)
    (labels : List (Label ι sizeT)) (object : WiaTransport ι sizeT) : Prop where
  untouched : ∀ caller, caller ∉ takenUp labels → systemCalls caller labels = []
  looping : ∀ hrCom, object.ownerThread = .looping hrCom → Label.coInitialize hrCom ∈ labels
  executing : ∀ hrCom current rest, object.ownerThread = .executing hrCom current rest →
    Label.coInitialize hrCom ∈ labels ∧ ∀ calls result, Exec rest calls result →
      Exec (executeTask deviceId hrCom (arguments current)) (systemCalls current labels ++ calls)
        result
  computed : ∀ caller result, Label.fulfil caller result ∈ labels →
    ComputedFor deviceId arguments labels caller result
  promised : ∀ caller result, object.promise caller = some result →
    Label.fulfil caller result ∈ labels
  returned : ∀ caller result, object.caller caller = .returned result →
    (arguments caller).params.length ≤ Commons.ptpMaxParams →
    result = timeoutResult ∨ ComputedFor deviceId arguments labels caller result

section Step

variable (queue : QueueInvariant labels self)
variable (inv : ResultInvariant deviceId arguments labels self)
variable (step : Step deviceId arguments self label next)

include queue step inv

theorem ResultInvariant.untouched_step (caller : ι)
    (notTaken : caller ∉ takenUp (labels ++ [label])) :
    systemCalls caller (labels ++ [label]) = [] := by
  rw [takenUp, SingleServer.takes_append, List.mem_append, ← takenUp] at notTaken
  have notBefore : caller ∉ takenUp labels := fun taken => notTaken (Or.inl taken)
  rw [systemCalls_snoc_of_ne, inv.untouched caller notBefore]
  intro request reply calls
  have serving := step.serving_of_system calls
  apply notBefore
  rw [takenUp, (SingleServer.accounts queue.accepted).2, serving]
  simp

/-- While a task is executed, its calls so far and the rest of its program make up an
execution of the whole. -/
theorem ResultInvariant.executing_step (hrCom : Int32) (current : ι)
    (rest : Worker (EscapeResult sizeT))
    (executing : next.ownerThread = .executing hrCom current rest) :
    Label.coInitialize hrCom ∈ labels ++ [label] ∧ ∀ calls result, Exec rest calls result →
      Exec (executeTask deviceId hrCom (arguments current))
        (systemCalls current (labels ++ [label]) ++ calls) result := by
  cases step with
  | dequeue looping front =>
      cases executing
      have waits : current ∈ self.server.waiting := by simp [WiaTransport.server, front]
      have notTaken : current ∉ takenUp labels :=
        SingleServer.not_mem_takes_of_waiting queue.accepted queue.once waits
      refine ⟨List.mem_append_left _ (inv.looping _ looping), ?_⟩
      intro calls result execution
      rw [systemCalls_snoc_of_ne (by simp), inv.untouched current notTaken]
      exact execution
  | system running =>
      rename_i request reply resume
      cases executing
      rcases inv.executing _ _ _ running with ⟨begun, whole⟩
      refine ⟨List.mem_append_left _ begun, ?_⟩
      intro calls result execution
      have appended : systemCalls current (labels ++ [Label.system current request reply]) =
          systemCalls current labels ++ [(request, reply)] := by
        simp [systemCalls]
      rw [appended, List.append_assoc]
      exact whole _ _ (.call execution)
  | coInitialize | fulfil | exit => cases executing
  | spawn => cases executing
  | _ =>
      rcases inv.executing _ _ _ executing with ⟨begun, whole⟩
      refine ⟨List.mem_append_left _ begun, ?_⟩
      intro calls result execution
      rw [systemCalls_snoc_of_ne (by simp)]
      exact whole calls result execution

/-- A promise is set to the result of executing the task it belongs to. -/
theorem ResultInvariant.computed_step (caller : ι) (result : EscapeResult sizeT)
    (fulfils : Label.fulfil caller result ∈ labels ++ [label]) :
    ComputedFor deviceId arguments (labels ++ [label]) caller result := by
  rcases List.mem_append.mp fulfils with old | last
  · exact (inv.computed caller result old).snoc queue step
  · rw [List.mem_singleton] at last
    cases step with
    | fulfil running =>
        cases last
        rcases inv.executing _ _ _ running with ⟨begun, whole⟩
        have execution := whole [] result .done
        rw [List.append_nil] at execution
        refine ⟨fulfils, _, List.mem_append_left _ begun, ?_⟩
        rwa [systemCalls_snoc_of_ne (by simp)]
    | _ => cases last

omit queue in
theorem ResultInvariant.promised_step (caller : ι) (result : EscapeResult sizeT)
    (promised : next.promise caller = some result) :
    Label.fulfil caller result ∈ labels ++ [label] := by
  have kept (old : self.promise caller = some result) :
      Label.fulfil caller result ∈ labels ++ [label] :=
    List.mem_append_left _ (inv.promised caller result old)
  cases step with
  | fulfil running =>
      simp only [Function.update_apply] at promised
      split at promised
      · rename_i same
        cases promised
        simp [same]
      · exact kept promised
  | _ => exact kept promised

/-- A call returns with the timeout result or with what its promise was set to. -/
theorem ResultInvariant.returned_step (caller : ι) (result : EscapeResult sizeT)
    (returned : next.caller caller = .returned result)
    (few : (arguments caller).params.length ≤ Commons.ptpMaxParams) :
    result = timeoutResult ∨
      ComputedFor deviceId arguments (labels ++ [label]) caller result := by
  rcases step.stepsCall caller with moves | ⟨same, _⟩
  · rw [returned] at moves
    rcases moves.returned few with timedOut | promised
    · exact Or.inl timedOut
    · have computed := inv.computed caller result (inv.promised caller result promised)
      exact Or.inr (computed.snoc queue step)
  · rw [same] at returned
    rcases inv.returned caller result returned few with timedOut | computed
    · exact Or.inl timedOut
    · exact Or.inr (computed.snoc queue step)

end Step

theorem ResultInvariant.step (inv : ResultInvariant deviceId arguments labels self)
    (queue : QueueInvariant labels self) (step : Step deviceId arguments self label next) :
    ResultInvariant deviceId arguments (labels ++ [label]) next := by
  refine ⟨inv.untouched_step queue step, ?_, inv.executing_step queue step,
    inv.computed_step queue step, inv.promised_step step, inv.returned_step queue step⟩
  intro hrCom looping
  cases step with
  | coInitialize => cases looping; simp
  | fulfil running =>
      cases looping
      exact List.mem_append_left _ (inv.executing _ _ _ running).1
  | spawn | dequeue | system | exit => cases looping
  | _ => exact List.mem_append_left _ (inv.looping hrCom looping)

theorem WiaRun.resultInvariant (run : WiaRun deviceId arguments labels self) :
    ResultInvariant deviceId arguments labels self := by
  refine run.invariant ?_ ?_
  · intro state begins
    rw [begins]
    refine ⟨fun _ _ => rfl, ?_, ?_, by simp, ?_, ?_⟩
    · intro hrCom looping
      cases looping
    · intro hrCom current rest executing
      cases executing
    · intro caller result promised
      cases promised
    · intro caller result returned
      cases returned
  · intro labels state label next earlier inv step
    exact inv.step (WiaRun.queueInvariant earlier) step

/-- The system calls made for a call are the beginning of an execution of its task. -/
theorem WiaRun.exists_execution (run : WiaRun deviceId arguments labels self) (caller : ι) :
    systemCalls caller labels = [] ∨
      ∃ hrCom later result, Exec (executeTask deviceId hrCom (arguments caller))
        (systemCalls caller labels ++ later) result := by
  have queue := WiaRun.queueInvariant run
  have results := WiaRun.resultInvariant run
  by_cases taken : caller ∈ takenUp labels
  · right
    rw [takenUp, (SingleServer.accounts queue.accepted).2, List.mem_append] at taken
    rcases taken with finished | serving
    · rcases mem_fulfilled.mp finished with ⟨result, membership⟩
      rcases results.computed caller result membership with ⟨_, hrCom, _, execution⟩
      refine ⟨hrCom, [], result, ?_⟩
      rwa [List.append_nil]
    · cases thread : self.ownerThread with
      | executing hrCom current rest =>
          simp only [WiaTransport.server, thread, Option.toList_some, List.mem_singleton] at serving
          rw [serving]
          rcases rest.exists_exec with ⟨calls, result, execution⟩
          exact ⟨hrCom, calls, result, (results.executing _ _ _ thread).2 calls result execution⟩
      | _ => simp [WiaTransport.server, thread] at serving
  · exact Or.inl (results.untouched caller taken)

/-- The system calls made for a call pass its frame to the device at most once. -/
theorem WiaRun.passedToDevice (run : WiaRun deviceId arguments labels self) (caller : ι) :
    passedToDevice (systemCalls caller labels) <+: [vendorDataIn (arguments caller)] := by
  rcases WiaRun.exists_execution run caller with none | ⟨hrCom, later, result, execution⟩
  · rw [none]
    exact List.nil_prefix
  · have passed := passedToDevice_of_executeTask execution
    rw [passedToDevice_append] at passed
    exact (List.prefix_append _ _).trans passed

/-! ## Destruction -/

theorem QuietRun.wiaRun (run : QuietRun deviceId arguments labels self) :
    WiaRun deviceId arguments labels self :=
  run.mono fun _ _ _ _ step => step.1

/-- What the absence of overlapping calls adds. -/
structure QuietInvariant (object : WiaTransport ι sizeT) : Prop where
  nobodyInside : object.stop = true → ∀ caller, (object.caller caller).inside = false
  exited : object.ownerThread = .exited → object.stop = true ∧ object.tasks = []

/-- Once the stop flag is set, no call gets inside. -/
theorem QuietInvariant.nobodyInside_step (inv : QuietInvariant self)
    (step : Step deviceId arguments self label next) (quiet : Quiet self label)
    (stopped : next.stop = true) (caller : ι) : (next.caller caller).inside = false := by
  cases step with
  | call outside =>
      have running : self.stop = false := quiet
      rw [WiaTransport.setCaller, running] at stopped
      cases stopped
  | spawn phase | alreadyStarted phase | enqueue phase =>
      have inside := congrArg Caller.inside phase
      rw [inv.nobodyInside stopped] at inside
      cases inside
  | reject phase | spawnFails phase | timeout phase | collect phase =>
      simp only [setCaller_caller]
      split
      · rfl
      · exact inv.nobodyInside stopped caller
  | stop => exact quiet caller
  | _ => exact inv.nobodyInside stopped caller

/-- The owner thread exits with an empty queue, to which nothing is added any more. -/
theorem QuietInvariant.exited_step (inv : QuietInvariant self)
    (step : Step deviceId arguments self label next) (exited : next.ownerThread = .exited) :
    next.stop = true ∧ next.tasks = [] := by
  cases step with
  | exit looping stopped empty => exact ⟨stopped, empty⟩
  | enqueue ready =>
      have inside := congrArg Caller.inside ready
      rw [inv.nobodyInside (inv.exited exited).1] at inside
      cases inside
  | spawn | coInitialize | dequeue | system | fulfil => cases exited
  | stop => exact ⟨rfl, (inv.exited exited).2⟩
  | _ => exact inv.exited exited

theorem QuietRun.quietInvariant (run : QuietRun deviceId arguments labels self) :
    QuietInvariant self := by
  induction run with
  | start begins =>
      rw [begins]
      refine ⟨fun _ _ => rfl, ?_⟩
      intro exited
      cases exited
  | snoc run step inv =>
      exact ⟨inv.nobodyInside_step step.1 step.2, inv.exited_step step.1⟩

/-- When the worker has exited, every request has been fulfilled. -/
theorem QuietRun.drained (run : QuietRun deviceId arguments labels self)
    (exited : self.ownerThread = .exited) : fulfilled labels = enqueued labels := by
  have queue := WiaRun.queueInvariant (QuietRun.wiaRun run)
  have empty := ((QuietRun.quietInvariant run).exited exited).2
  exact SingleServer.finishes_of_empty queue.accepted empty
    (by simp [WiaTransport.server, exited])

/-- The queue loses, duplicates, reorders and mixes up nothing. -/
structure ServesInOrder (deviceId : String) (arguments : ι → EscapeArguments sizeT)
    (labels : List (Label ι sizeT)) (object : WiaTransport ι sizeT) : Prop where
  takenInOrder : takenUp labels <+: enqueued labels
  enqueuedOnce : (enqueued labels).Nodup
  fulfilledOnce : ∀ caller, (fulfilled labels).count caller ≤ 1
  fulfilledBeforeNext : Each (fun before label => ∀ caller, label = .dequeue caller →
    fulfilled before = takenUp before) labels
  ownResult : ∀ caller result, object.caller caller = .returned result →
    (arguments caller).params.length ≤ Commons.ptpMaxParams →
    result = timeoutResult ∨ ComputedFor deviceId arguments labels caller result
  drained : object.ownerThread = .exited →
    ∀ caller ∈ enqueued labels, (fulfilled labels).count caller = 1

/-- In every run without calls that overlap the destructor the requests are served in the
order in which they were enqueued, each once, and every call returns with the timeout
result or with the result of its own request. -/
theorem ownerQueue_servesInOrder (run : QuietRun deviceId arguments labels self) :
    ServesInOrder deviceId arguments labels self := by
  have queue := WiaRun.queueInvariant (QuietRun.wiaRun run)
  have results := WiaRun.resultInvariant (QuietRun.wiaRun run)
  have once : (fulfilled labels).Nodup := SingleServer.nodup_finishes queue.accepted queue.once
  refine ⟨SingleServer.takes_prefix_arrivals queue.accepted, queue.once,
    List.nodup_iff_count_le_one.mp once, ?_, results.returned, ?_⟩
  · intro before label after split caller taken
    exact SingleServer.each_taken_finished queue.accepted before label after split caller
      (queueAction_eq_taken_iff.mpr taken)
  · intro exited caller membership
    rw [← QuietRun.drained run exited] at membership
    exact List.count_eq_one_of_mem once membership

end OwnerQueue

/-- Two commands without parameters and data. -/
def sampleArguments (second : Bool) : EscapeArguments .bits64 :=
  ⟨if second then 0x9207 else 0x9209, [], .empty⟩

/-- While the first request is executed the second one times out in the queue; it is
executed after the first and before the worker exits. -/
def abandonedLabels : List (Label Bool .bits64) :=
  [.call false, .spawn false, .enqueue false, .coInitialize sOk, .dequeue false,
    .call true, .alreadyStarted true, .enqueue true, .timeout true,
    .system false (.coTaskMemAlloc (dwInSize (sampleArguments false))) { notNull := false },
    .fulfil false (statusResult eOutOfMemory), .collect false (statusResult eOutOfMemory),
    .dequeue true,
    .system true (.coTaskMemAlloc (dwInSize (sampleArguments true))) {},
    .system true (.coTaskMemAlloc dwOutSize) {},
    .system true (.sysAllocStringLen 6) {},
    .system true .coCreateInstance {},
    .system true (.createDevice "camera") {},
    .system true .queryInterface {},
    .system true (.escape (vendorDataIn (sampleArguments true)) (dwInSize (sampleArguments true))
      dwOutSize) { memory := [0x01, 0x20] },
    .fulfil true ⟨sOk, 0x2001, .empty⟩,
    .stop, .exit]

theorem abandonedLabels_run :
    ∃ object, QuietRun "camera" sampleArguments abandonedLabels object ∧
      object.ownerThread = .exited := by
  have path : ∃ object, Path (fun self label next =>
      Step "camera" sampleArguments self label next ∧ Quiet self label) {} abandonedLabels object ∧
      object.ownerThread = .exited := by
    refine ⟨_, .cons ⟨.call rfl (by decide), rfl⟩ <| .cons ⟨.spawn rfl rfl, trivial⟩ <|
      .cons ⟨.enqueue rfl, trivial⟩ <| .cons ⟨.coInitialize rfl, trivial⟩ <|
      .cons ⟨.dequeue rfl rfl, trivial⟩ <| .cons ⟨.call rfl (by decide), rfl⟩ <|
      .cons ⟨.alreadyStarted rfl rfl, trivial⟩ <| .cons ⟨.enqueue rfl, trivial⟩ <|
      .cons ⟨.timeout rfl, trivial⟩ <| .cons ⟨.system rfl, trivial⟩ <|
      .cons ⟨.fulfil rfl, trivial⟩ <| .cons ⟨.collect rfl rfl, trivial⟩ <|
      .cons ⟨.dequeue rfl rfl, trivial⟩ <| .cons ⟨.system rfl, trivial⟩ <|
      .cons ⟨.system rfl, trivial⟩ <| .cons ⟨.system rfl, trivial⟩ <|
      .cons ⟨.system rfl, trivial⟩ <| .cons ⟨.system rfl, trivial⟩ <|
      .cons ⟨.system rfl, trivial⟩ <| .cons ⟨.system rfl, trivial⟩ <|
      .cons ⟨.fulfil rfl, trivial⟩ <| .cons ⟨.stop, fun caller => by cases caller <;> rfl⟩ <|
      .cons ⟨.exit rfl rfl rfl, trivial⟩ .nil, rfl⟩
  rcases path with ⟨object, path, exited⟩
  have start : QuietRun "camera" sampleArguments [] {} := .start rfl
  exact ⟨object, start.append_path path, exited⟩

theorem abandonedLabels_servesInOrder :
    ∃ object, ServesInOrder "camera" sampleArguments abandonedLabels object ∧
      object.ownerThread = .exited := by
  rcases abandonedLabels_run with ⟨object, run, exited⟩
  exact ⟨object, ownerQueue_servesInOrder run, exited⟩

end SimpleCamCtrl.Wia
