import SimpleCamCtrl.Library.Contract
import SimpleCamCtrl.Wia.Timeouts

/-!
# The order in which requests reach the device

The worker passes the requests to the device one by one, in the order in which it takes
them up, and a result that the device answered is the result of a request that reached it.
-/

namespace SimpleCamCtrl.Wia

open History Interaction

variable {ι : Type} {sizeT : SizeT}

/-- The call whose request a step passes to the device, with the reply. -/
def Label.reached : Label ι sizeT → Option (ι × SystemReply)
  | .system caller request reply =>
      if request.toDevice.isSome then some (caller, reply) else none
  | .call _ | .reject _ | .spawn _ | .spawnFails _ | .alreadyStarted _ | .enqueue _
  | .timeout _ | .collect _ _ | .coInitialize _ | .dequeue _ | .fulfil _ _ | .stop | .exit =>
      none

/-- The calls whose requests have reached the device, in order, with the replies. -/
def reachedDevice (labels : List (Label ι sizeT)) : List (ι × SystemReply) :=
  labels.filterMap Label.reached

theorem reachedDevice_snoc (labels : List (Label ι sizeT)) (label : Label ι sizeT) :
    reachedDevice (labels ++ [label]) = reachedDevice labels ++ label.reached.toList := by
  cases reached : label.reached <;> simp [reachedDevice, reached]

theorem reachedDevice_snoc_of_none {labels : List (Label ι sizeT)} {label : Label ι sizeT}
    (silent : label.reached = none) :
    reachedDevice (labels ++ [label]) = reachedDevice labels := by
  rw [reachedDevice_snoc, silent, Option.toList_none, List.append_nil]

section Order

variable [DecidableEq ι] [Commons]
variable {deviceId : String} {arguments : ι → EscapeArguments sizeT}
variable {labels : List (Label ι sizeT)} {label : Label ι sizeT}
variable {self next : WiaTransport ι sizeT} {caller : ι}

omit [Commons] in
/-- The calls to the device for the task of a call are the ones that reached it. -/
theorem mem_reachedDevice {reply : SystemReply} :
    (caller, reply) ∈ reachedDevice labels ↔
      ∃ request, (request, reply) ∈ deviceCalls (systemCalls caller labels) := by
  simp only [reachedDevice, deviceCalls, systemCalls, List.mem_filterMap, List.mem_filter]
  constructor
  · intro reaches
    rcases reaches with ⟨label, membership, reached⟩
    cases label with
    | system other request given =>
        simp only [Label.reached] at reached
        split at reached
        · rename_i toDevice
          cases reached
          exact ⟨request, ⟨_, membership, if_pos rfl⟩, toDevice⟩
        · cases reached
    | _ => cases reached
  · intro calls
    rcases calls with ⟨request, ⟨label, membership, mine⟩, toDevice⟩
    cases label with
    | system other request' given =>
        simp only at mine
        split at mine
        · rename_i same
          cases mine
          refine ⟨_, membership, ?_⟩
          rw [same, Label.reached, if_pos toDevice]
        · cases mine
    | _ => cases mine

omit [DecidableEq ι] in
/-- A step that moves a call is a step of that call. -/
theorem Caller.Moves.caller_eq {task : EscapeArguments sizeT}
    {promise : Option (EscapeResult sizeT)} {old new : Caller sizeT}
    (moves : Caller.Moves caller task promise label old new) : label.caller = some caller := by
  cases moves <;> rfl

/-- A step leaves the other calls where they are. -/
theorem Step.caller_of_ne (step : Step deviceId arguments self label next)
    (other : label.caller ≠ some caller) : next.caller caller = self.caller caller := by
  rcases step.stepsCall caller with moves | ⟨same, _⟩
  · exact (other moves.caller_eq).elim
  · exact same

/-- A call gets inside only by being made. -/
theorem Step.inside (step : Step deviceId arguments self label next)
    (notMade : label ≠ .call caller) (inside : (next.caller caller).inside = true) :
    (self.caller caller).inside = true := by
  rcases step.stepsCall caller with moves | ⟨same, _⟩
  · generalize self.caller caller = old at moves ⊢
    generalize next.caller caller = new at moves inside
    cases moves with
    | call => exact (notMade rfl).elim
    | reject | spawnFails | timeout | collect => cases inside
    | spawn | alreadyStarted | enqueue => rfl
  · rwa [same] at inside

/-! ## Order -/

/-- Requests reach the device in the order in which they are taken up, and the one being
served at most once. -/
structure DeviceOrder (labels : List (Label ι sizeT)) (object : WiaTransport ι sizeT) : Prop where
  inTurn : ((reachedDevice labels).map Prod.fst).Sublist (takenUp labels)
  notYet : ∀ caller, object.server.serving = some caller →
    passedToDevice (systemCalls caller labels) = [] →
      ((reachedDevice labels).map Prod.fst).Sublist (fulfilled labels)

omit [DecidableEq ι] [Commons] in
theorem enqueued_snoc_of_ne (other : ∀ caller, label ≠ .enqueue caller) :
    enqueued (labels ++ [label]) = enqueued labels := by
  rw [enqueued, SingleServer.arrivals_append, ← enqueued]
  have nothing : SingleServer.arrivals queueAction [label] = [] := by
    cases label with
    | enqueue caller => exact (other caller rfl).elim
    | _ => rfl
  rw [nothing, List.append_nil]

omit [DecidableEq ι] [Commons] in
theorem takenUp_snoc_of_ne (other : ∀ caller, label ≠ .dequeue caller) :
    takenUp (labels ++ [label]) = takenUp labels := by
  rw [takenUp, SingleServer.takes_append, ← takenUp]
  have nothing : SingleServer.takes queueAction [label] = [] := by
    cases label with
    | dequeue caller => exact (other caller rfl).elim
    | _ => rfl
  rw [nothing, List.append_nil]

omit [DecidableEq ι] [Commons] in
theorem fulfilled_snoc_of_ne (other : ∀ caller result, label ≠ .fulfil caller result) :
    fulfilled (labels ++ [label]) = fulfilled labels := by
  rw [fulfilled, SingleServer.finishes_append, ← fulfilled]
  have nothing : SingleServer.finishes queueAction [label] = [] := by
    cases label with
    | fulfil caller result => exact (other caller result rfl).elim
    | _ => rfl
  rw [nothing, List.append_nil]

omit [Commons] in
theorem takenUp_eq (queue : QueueInvariant labels self) :
    takenUp labels = fulfilled labels ++ self.server.serving.toList :=
  (SingleServer.accounts queue.accepted).2

omit [Commons] in
/-- Between two tasks everything taken up has been fulfilled. -/
theorem DeviceOrder.of_idle (order : DeviceOrder labels self)
    (queue : QueueInvariant labels self) (idle : self.server.serving = none) :
    ((reachedDevice labels).map Prod.fst).Sublist (fulfilled labels) := by
  have inTurn := order.inTurn
  rwa [takenUp_eq queue, idle, Option.toList_none, List.append_nil] at inTurn

omit [Commons] in
/-- A step that neither calls the system nor moves the server. -/
theorem DeviceOrder.of_neutral (order : DeviceOrder labels self)
    (silent : ∀ caller request reply, label ≠ .system caller request reply)
    (takesNone : ∀ caller, label ≠ .dequeue caller)
    (finishesNone : ∀ caller result, label ≠ .fulfil caller result)
    (same : next.server.serving = self.server.serving) :
    DeviceOrder (labels ++ [label]) next := by
  have nothing : label.reached = none := by
    cases label with
    | system caller request reply => exact (silent caller request reply rfl).elim
    | _ => rfl
  refine ⟨?_, ?_⟩
  · rw [reachedDevice_snoc_of_none nothing, takenUp_snoc_of_ne takesNone]
    exact order.inTurn
  · intro caller serving quiet
    rw [systemCalls_snoc_of_ne (silent caller)] at quiet
    rw [reachedDevice_snoc_of_none nothing, fulfilled_snoc_of_ne finishesNone]
    exact order.notYet caller (same ▸ serving) quiet

omit [Commons] in
/-- A call to the system for the task being served. -/
theorem DeviceOrder.of_system (order : DeviceOrder labels self)
    (queue : QueueInvariant labels self) {request : SystemCall} {reply : SystemReply}
    {frame : List UInt8} (serving : self.server.serving = some caller)
    (same : next.server.serving = some caller)
    (once : passedToDevice (systemCalls caller (labels ++ [.system caller request reply])) <+:
      [frame]) :
    DeviceOrder (labels ++ [.system caller request reply]) next := by
  have appended : systemCalls caller (labels ++ [Label.system caller request reply]) =
      systemCalls caller labels ++ [(request, reply)] := by
    simp [systemCalls]
  have taken : takenUp (labels ++ [.system caller request reply]) = takenUp labels :=
    takenUp_snoc_of_ne (by simp)
  have finished : fulfilled (labels ++ [.system caller request reply]) = fulfilled labels :=
    fulfilled_snoc_of_ne (by simp)
  cases toDevice : request.toDevice with
  | none =>
      have nothing : (Label.system caller request reply : Label ι sizeT).reached = none := by
        simp [Label.reached, toDevice]
      refine ⟨?_, ?_⟩
      · rw [reachedDevice_snoc_of_none nothing, taken]
        exact order.inTurn
      · intro other serves quiet
        cases same.symm.trans serves
        rw [appended, passedToDevice_append, List.append_eq_nil_iff] at quiet
        rw [reachedDevice_snoc_of_none nothing, finished]
        exact order.notYet caller serving quiet.1
  | some data =>
      have reached : (Label.system caller request reply : Label ι sizeT).reached =
          some (caller, reply) := by
        simp [Label.reached, toDevice]
      have passed : passedToDevice [(request, reply)] = [data] := by
        simp [passedToDevice, toDevice]
      rw [appended, passedToDevice_append, passed] at once
      have quiet : passedToDevice (systemCalls caller labels) = [] := by
        have short := once.length_le
        rw [List.length_append, List.length_singleton, List.length_singleton] at short
        exact List.eq_nil_of_length_eq_zero (by omega)
      refine ⟨?_, ?_⟩
      · rw [reachedDevice_snoc, reached, taken, takenUp_eq queue, serving, List.map_append]
        exact (order.notYet caller serving quiet).append (List.Sublist.refl _)
      · intro other serves silent
        cases same.symm.trans serves
        rw [appended, passedToDevice_append, passed] at silent
        simp at silent

theorem DeviceOrder.step (order : DeviceOrder labels self)
    (run : WiaRun deviceId arguments labels self)
    (step : Step deviceId arguments self label next) : DeviceOrder (labels ++ [label]) next := by
  have queue := WiaRun.queueInvariant run
  cases step with
  | system executing =>
      exact order.of_system queue (by simp [WiaTransport.server, executing])
        (by simp [WiaTransport.server]) (WiaRun.passedToDevice (.snoc run (.system executing)) _)
  | dequeue looping front =>
      rename_i hrCom caller rest
      have idle : self.server.serving = none := by simp [WiaTransport.server, looping]
      have earlier := order.of_idle queue idle
      have finished : fulfilled (labels ++ [.dequeue caller]) = fulfilled labels :=
        fulfilled_snoc_of_ne (by simp)
      refine ⟨?_, ?_⟩
      · rw [reachedDevice_snoc_of_none rfl, takenUp, SingleServer.takes_append, ← takenUp]
        exact order.inTurn.trans (List.sublist_append_left _ _)
      · intro other _ _
        rw [reachedDevice_snoc_of_none rfl, finished]
        exact earlier
  | fulfil executing =>
      rename_i hrCom caller result
      have taken : takenUp (labels ++ [.fulfil caller result]) = takenUp labels :=
        takenUp_snoc_of_ne (by simp)
      refine ⟨?_, ?_⟩
      · rw [reachedDevice_snoc_of_none rfl, taken]
        exact order.inTurn
      · intro other serving
        simp [WiaTransport.server] at serving
  | spawn entered notStarted =>
      refine order.of_neutral (by simp) (by simp) (by simp) ?_
      simp [WiaTransport.server, WiaTransport.setCaller, queue.unstarted notStarted]
  | coInitialize begun =>
      refine order.of_neutral (by simp) (by simp) (by simp) ?_
      simp [WiaTransport.server, begun]
  | exit looping =>
      refine order.of_neutral (by simp) (by simp) (by simp) ?_
      simp [WiaTransport.server, looping]
  | _ => exact order.of_neutral (by simp) (by simp) (by simp) rfl

theorem WiaRun.deviceOrder (run : WiaRun deviceId arguments labels self) :
    DeviceOrder labels self := by
  induction run with
  | start begins =>
      refine ⟨List.Sublist.refl _, ?_⟩
      intro caller serving
      rw [begins] at serving
      cases serving
  | snoc run step ih => exact ih.step run step

/-- No request reaches the device twice. -/
theorem WiaRun.nodup_reachedDevice (run : WiaRun deviceId arguments labels self) :
    ((reachedDevice labels).map Prod.fst).Nodup := by
  have queue := WiaRun.queueInvariant run
  exact (WiaRun.deviceOrder run).inTurn.nodup (SingleServer.nodup_takes queue.accepted queue.once)

/-- Requests reach the device in the order in which they are enqueued. -/
theorem WiaRun.reachedDevice_sublist (run : WiaRun deviceId arguments labels self) :
    ((reachedDevice labels).map Prod.fst).Sublist (enqueued labels) :=
  (WiaRun.deviceOrder run).inTurn.trans
    (SingleServer.takes_prefix_arrivals (WiaRun.queueInvariant run).accepted).sublist

section Answers

variable {task : EscapeArguments sizeT}

omit [DecidableEq ι] [Commons] in
/-- A call that passes nothing to the device, after which the task is given up or goes on. -/
theorem ensures_checked {α : Type} {request : SystemCall} {stop : SystemReply → Bool}
    {early : SystemReply → α} {rest : SystemReply → Worker α} {failed : α → Prop}
    (silent : request.toDevice = none) (onEarly : ∀ reply, failed (early reply))
    (onRest : ∀ reply,
      Ensures (rest reply) fun calls outcome => deviceCalls calls = [] → failed outcome) :
    Ensures (perform request >>= fun reply =>
      if stop reply then pure (early reply) else rest reply)
      fun calls outcome => deviceCalls calls = [] → failed outcome := by
  rw [ensures_perform_bind]
  intro reply calls outcome execution quiet
  have same : deviceCalls ((request, reply) :: calls) = deviceCalls calls :=
    List.filter_cons_of_neg (by simp [silent])
  rw [same] at quiet
  split at execution
  · rw [← (exec_pure.mp execution).2]
    exact onEarly reply
  · exact onRest reply calls outcome execution quiet

omit [DecidableEq ι] in
/-- A device that is not called leaves nothing in memory. -/
theorem ensures_escapeOnDevice :
    Ensures (escapeOnDevice deviceId task) fun calls outcome =>
      deviceCalls calls = [] → outcome.2.2 = [] := by
  refine ensures_checked rfl (fun _ => rfl) fun _ => ?_
  refine ensures_checked rfl (fun _ => rfl) fun _ => ?_
  refine ensures_checked rfl (fun _ => rfl) fun _ => ?_
  refine ensures_checked rfl (fun _ => rfl) fun _ => ?_
  intro calls outcome execution quiet
  rcases exec_bind_pure.mp execution with ⟨reply, escaped, _⟩
  rw [exec_perform.mp escaped] at quiet
  cases quiet

omit [DecidableEq ι] in
/-- A task that does not call the device has no response code. -/
theorem ensures_executeTask (hrCom : Int32) :
    Ensures (executeTask deviceId hrCom task) fun calls result =>
      deviceCalls calls = [] → result.responseCode = 0 := by
  rw [executeTask]
  split
  · rw [ensures_pure]
    exact fun _ => rfl
  · refine ensures_checked rfl (fun _ => rfl) fun _ => ?_
    refine ensures_checked rfl (fun _ => rfl) fun _ => ?_
    intro calls result execution quiet
    rcases exec_bind_pure.mp execution with ⟨⟨hrLocal, dwActualLocal, memory⟩, onDevice, taken⟩
    have nothing : memory = [] := ensures_escapeOnDevice calls _ onDevice quiet
    rw [← taken, nothing, readResult]
    split <;> rfl

/-- A result with a response code is what the device replied to the request of the call. -/
theorem ComputedFor.reached {result : EscapeResult sizeT}
    (computed : ComputedFor deviceId arguments labels caller result)
    (answered : result.responseCode ≠ 0) :
    ∃ reply, (caller, reply) ∈ reachedDevice labels ∧
      result = readResult reply.hr reply.actualDataSize reply.memory := by
  rcases computed with ⟨_, hrCom, _, execution⟩
  rcases escapesOnce_of_executeTask execution with none | ⟨reply, once, taken⟩
  · exact (answered (ensures_executeTask hrCom _ result execution none)).elim
  · exact ⟨reply, mem_reachedDevice.mpr ⟨_, once ▸ List.mem_singleton_self _⟩, taken⟩

/-- A call with too many parameters is rejected. -/
theorem WiaRun.rejected (run : WiaRun deviceId arguments labels self)
    (many : (arguments caller).params.length > Commons.ptpMaxParams) :
    self.caller caller = .outside ∨ self.caller caller = .returned buildTooManyParamsError := by
  induction run with
  | start begins =>
      rw [begins]
      exact Or.inl rfl
  | snoc _ step ih =>
      rename_i before after label _
      rcases step.stepsCall caller with moves | ⟨same, _⟩
      · rcases ih with outside | returned
        · rw [outside] at moves
          generalize entered : after.caller caller = new at moves
          cases moves with
          | call =>
              cases step with
              | call _ few => exact (Nat.not_lt.mpr few many).elim
          | reject => exact Or.inr rfl
        · exact (moves.not_returned _ returned).elim
      · rwa [same]

/-- Only a call with few enough parameters pushes a task. -/
theorem WiaRun.few_of_enqueued (run : WiaRun deviceId arguments labels self)
    (pushed : caller ∈ enqueued labels) :
    (arguments caller).params.length ≤ Commons.ptpMaxParams := by
  induction run with
  | start => cases pushed
  | snoc run step ih =>
      rw [enqueued, SingleServer.arrivals_append, List.mem_append] at pushed
      rcases pushed with old | new
      · exact ih old
      · rcases SingleServer.mem_arrivals.mp new with ⟨label, isLast, pushes⟩
        rw [List.mem_singleton.mp isLast, queueAction_eq_arrived_iff] at pushes
        rw [pushes] at step
        cases step with
        | enqueue ready =>
            by_contra many
            rcases WiaRun.rejected run (Nat.lt_of_not_le many) with outside | rejected
            · rw [outside] at ready
              cases ready
            · rw [rejected] at ready
              cases ready

/-- A call that returns while its task waits in the queue has timed out. -/
theorem WiaRun.timedOut_of_waiting (run : WiaRun deviceId arguments labels self)
    {result : EscapeResult sizeT} (returned : self.caller caller = .returned result)
    (waits : caller ∈ self.tasks) : result = timeoutResult := by
  have queue := WiaRun.queueInvariant run
  have notTaken : caller ∉ takenUp labels :=
    SingleServer.not_mem_takes_of_waiting queue.accepted queue.once waits
  have pushed : caller ∈ enqueued labels := by
    rw [enqueued, (SingleServer.accounts queue.accepted).1]
    exact List.mem_append_right _ waits
  rcases (WiaRun.resultInvariant run).returned caller result returned
    (WiaRun.few_of_enqueued run pushed) with timedOut | computed
  · exact timedOut
  · have finished : caller ∈ fulfilled labels := mem_fulfilled.mpr ⟨result, computed.1⟩
    exact (notTaken ((SingleServer.finishes_prefix_takes queue.accepted).subset finished)).elim

/-- A call that returns a response code returns what the device replied to its request. -/
theorem WiaRun.reached_of_returned (run : WiaRun deviceId arguments labels self)
    {result : EscapeResult sizeT} (returned : self.caller caller = .returned result)
    (answered : result.responseCode ≠ 0) :
    ∃ reply, (caller, reply) ∈ reachedDevice labels ∧
      result = readResult reply.hr reply.actualDataSize reply.memory := by
  rcases Nat.lt_or_ge Commons.ptpMaxParams (arguments caller).params.length with many | few
  · rcases WiaRun.rejected run many with outside | rejected
    · rw [outside] at returned
      cases returned
    · rw [rejected] at returned
      cases returned
      exact (answered rfl).elim
  · rcases (WiaRun.resultInvariant run).returned caller result returned few with rfl | computed
    · exact (answered rfl).elim
    · exact computed.reached answered

end Answers

end Order

end SimpleCamCtrl.Wia
