import SimpleCamCtrl.Wia.WorkerMain
import SimpleCamCtrl.Wia.WorkerStart

/-!
# WorkerMain refines the owner thread

The transport with its owner thread running `workerMain`, every allocation, access and release
and every call to COM a step of its own, among the steps of the `Escape` calls and of the
destructor.  Forgetting the steps that nobody else can see, what is left is a run of the
transport whose owner thread only executes tasks.
-/

namespace SimpleCamCtrl.Wia

open History Interaction

section WorkerRefinement

variable {ι π : Type} {sizeT : SizeT}

inductive CodedLabel (ι π : Type) (sizeT : SizeT) where
  /-- A step of an `Escape` call or of the destructor. -/
  | outside (label : Label ι sizeT)
  /-- A call of the worker and its return. -/
  | worker (request : WorkerCall ι π sizeT) (reply : WorkerReply ι π)

/-- The members that the threads share, and what the worker still has to do. -/
structure CodedTransport (ι π : Type) (sizeT : SizeT) where
  shared : SharedMembers ι sizeT := {}
  worker : Option (Working ι π sizeT Bool) := none

/-- The calls that concern the queue or a promise. -/
def WorkerCall.concernsShared : WorkerCall ι π sizeT → Bool
  | .nextTask | .setValue _ _ => true
  | _ => false

/-- The transport whose owner thread stands here. -/
def SharedMembers.withOwner (shared : SharedMembers ι sizeT) (owner : OwnerThread ι sizeT) :
    WiaTransport ι sizeT :=
  { shared with ownerThread := owner }

variable [DecidableEq ι]

/-- What a call of the worker does to the shared members. -/
inductive Serves (self : SharedMembers ι sizeT) :
    WorkerCall ι π sizeT → WorkerReply ι π → SharedMembers ι sizeT → Prop where
  | takes {caller : ι} {rest : List ι} {reply : WorkerReply ι π} :
      self.tasks = caller :: rest → reply.task = some caller →
      Serves self .nextTask reply { self with tasks := rest }
  | stops {reply : WorkerReply ι π} :
      self.stop = true → self.tasks = [] → reply.task = none → Serves self .nextTask reply self
  | sets {task : ι} {out : EscapeResult sizeT} {reply : WorkerReply ι π} :
      Serves self (.setValue task out) reply
        { self with promise := Function.update self.promise task (some out) }
  | elsewhere {request : WorkerCall ι π sizeT} {reply : WorkerReply ι π} :
      request.concernsShared = false → Serves self request reply self

variable [Commons]

/-- The steps of the transport as coded; the worker's loop is given so many turns.  An `Escape`
call and the destructor see the members alone, with no owner thread. -/
inductive CodedStep (deviceId : String) (arguments : ι → EscapeArguments sizeT) (fuel : Nat)
    (self : CodedTransport ι π sizeT) :
    CodedLabel ι π sizeT → CodedTransport ι π sizeT → Prop where
  | spawn {caller : ι} {next : SharedMembers ι sizeT} :
      Step deviceId arguments (self.shared.withOwner .absent) (.spawn caller)
        (next.withOwner .started) →
      CodedStep deviceId arguments fuel self (.outside (.spawn caller))
        ⟨next, some (workerMain deviceId arguments fuel)⟩
  | outside {label : Label ι sizeT} {next : SharedMembers ι sizeT} :
      Step deviceId arguments (self.shared.withOwner .absent) label (next.withOwner .absent) →
      label.byOwner = false → (∀ caller, label ≠ .spawn caller) →
      CodedStep deviceId arguments fuel self (.outside label) { self with shared := next }
  | worker {request : WorkerCall ι π sizeT} {reply : WorkerReply ι π}
      {resume : WorkerReply ι π → Working ι π sizeT Bool} {next : SharedMembers ι sizeT} :
      self.worker = some (.call request resume) → Serves self.shared request reply next →
      CodedStep deviceId arguments fuel self (.worker request reply) ⟨next, some (resume reply)⟩

/-- Runs from the construction of the transport on. -/
abbrev CodedRun (deviceId : String) (arguments : ι → EscapeArguments sizeT) (fuel : Nat) :
    List (CodedLabel ι π sizeT) → CodedTransport ι π sizeT → Prop :=
  History.Run (· = {}) fun _ => CodedStep deviceId arguments fuel

/-- The task that the worker has taken last. -/
def CodedLabel.lastTaken (current : Option ι) : CodedLabel ι π sizeT → Option ι
  | worker .nextTask reply => reply.task
  | _ => current

/-- What a step means to the transport whose owner thread only executes tasks, if it means
anything. -/
def CodedLabel.toWia (deviceId : String) (current : Option ι) :
    CodedLabel ι π sizeT → Option (Label ι sizeT)
  | outside label => some label
  | worker .coInitializeEx reply => some (.coInitialize reply.hr)
  | worker .nextTask reply => some (reply.task.elim .exit .dequeue)
  | worker (.setValue task out) _ => some (.fulfil task out)
  | worker request reply =>
      match current, request.toSystem deviceId with
      | some current, some request => some (.system current request reply.toSystem)
      | _, _ => none

/-- The labels with what is private to the worker left out. -/
def wiaLabels (deviceId : String) :
    (current : Option ι) → List (CodedLabel ι π sizeT) → List (Label ι sizeT)
  | _, [] => []
  | current, label :: labels =>
      (label.toWia deviceId current).toList ++ wiaLabels deviceId (label.lastTaken current) labels

/-- The task taken last in a history. -/
def lastTask (current : Option ι) (labels : List (CodedLabel ι π sizeT)) : Option ι :=
  labels.foldl CodedLabel.lastTaken current

omit [DecidableEq ι] [Commons] in
theorem wiaLabels_append (deviceId : String) (current : Option ι)
    (left right : List (CodedLabel ι π sizeT)) :
    wiaLabels deviceId current (left ++ right) =
      wiaLabels deviceId current left ++ wiaLabels deviceId (lastTask current left) right := by
  induction left generalizing current with
  | nil => rfl
  | cons label labels ih =>
      rw [List.cons_append, wiaLabels, ih, wiaLabels, List.append_assoc]
      rfl

omit [DecidableEq ι] [Commons] in
theorem wiaLabels_snoc (deviceId : String) (current : Option ι)
    (labels : List (CodedLabel ι π sizeT)) (label : CodedLabel ι π sizeT) :
    wiaLabels deviceId current (labels ++ [label]) =
      wiaLabels deviceId current labels ++ (label.toWia deviceId (lastTask current labels)).toList :=
    by
  rw [wiaLabels_append, wiaLabels, wiaLabels, List.append_nil]

omit [DecidableEq ι] [Commons] in
theorem lastTask_snoc (current : Option ι) (labels : List (CodedLabel ι π sizeT))
    (label : CodedLabel ι π sizeT) :
    lastTask current (labels ++ [label]) = label.lastTaken (lastTask current labels) :=
  List.foldl_append

/-! ## The owner thread alone -/

section OwnerStep

variable (deviceId : String) (arguments : ι → EscapeArguments sizeT)

/-- The steps of the owner thread, without what it shares. -/
inductive OwnerStep : OwnerThread ι sizeT → Label ι sizeT → OwnerThread ι sizeT → Prop where
  | coInitialize {hrCom : Int32} : OwnerStep .started (.coInitialize hrCom) (.looping hrCom)
  | dequeue {hrCom : Int32} {caller : ι} :
      OwnerStep (.looping hrCom) (.dequeue caller)
        (.executing hrCom caller (executeTask deviceId hrCom (arguments caller)))
  | system {hrCom : Int32} {caller : ι} {request : SystemCall} {reply : SystemReply}
      {resume : SystemReply → Worker (EscapeResult sizeT)} :
      OwnerStep (.executing hrCom caller (.call request resume)) (.system caller request reply)
        (.executing hrCom caller (resume reply))
  | fulfil {hrCom : Int32} {caller : ι} {result : EscapeResult sizeT} :
      OwnerStep (.executing hrCom caller (.done result)) (.fulfil caller result) (.looping hrCom)
  | exit {hrCom : Int32} : OwnerStep (.looping hrCom) .exit .exited

variable {deviceId arguments}

omit [DecidableEq ι] in
theorem OwnerStep.unique {owner next other : OwnerThread ι sizeT} {label : Label ι sizeT}
    (step : OwnerStep deviceId arguments owner label next)
    (again : OwnerStep deviceId arguments owner label other) : next = other := by
  cases step <;> cases again <;> rfl

omit [DecidableEq ι] in
/-- An execution of what is left of a task, step by step. -/
theorem path_of_exec {hrCom : Int32} {caller : ι} {program : Worker (EscapeResult sizeT)}
    {exchanges : List (SystemCall × SystemReply)} {result : EscapeResult sizeT}
    (execution : Exec program exchanges result) :
    Path (OwnerStep deviceId arguments) (.executing hrCom caller program)
      (exchanges.map fun exchange => .system caller exchange.1 exchange.2)
      (.executing hrCom caller (.done result)) := by
  induction execution with
  | done => exact .nil
  | call _ ih => exact .cons .system ih

end OwnerStep

variable {deviceId : String} {arguments : ι → EscapeArguments sizeT} {fuel : ℕ}

/-- The calls of an execution as labels. -/
def asLabels (calls : List (WorkerCall ι π sizeT × WorkerReply ι π)) :
    List (CodedLabel ι π sizeT) :=
  calls.map fun call => .worker call.1 call.2

/-- Every execution of the program takes the owner thread along, and to its end when the
program returns. -/
def Follows (deviceId : String) (arguments : ι → EscapeArguments sizeT)
    (owner : OwnerThread ι sizeT) (current : Option ι) (program : Working ι π sizeT Bool) : Prop :=
  Ensures program fun calls ended => ∃ final,
    Path (OwnerStep deviceId arguments) owner (wiaLabels deviceId current (asLabels calls)) final ∧
      (ended = true → final = .exited)

omit [DecidableEq ι] [Commons] in
theorem toWia_within (deviceId : String) (caller : ι) {request : WorkerCall ι π sizeT}
    (within : request.WithinTask) (reply : WorkerReply ι π) :
    (CodedLabel.worker request reply).toWia deviceId (some caller) =
        (request.toSystem deviceId).map (fun asked => .system caller asked reply.toSystem) ∧
      (CodedLabel.worker request reply).lastTaken (some caller) = some caller := by
  cases request with
  | coInitializeEx | coUninit | nextTask | setValue => exact within.elim
  | _ => exact ⟨rfl, rfl⟩

omit [DecidableEq ι] [Commons] in
/-- Within a task only the calls that decide it are left. -/
theorem wiaLabels_within {calls : List (WorkerCall ι π sizeT × WorkerReply ι π)} {caller : ι}
    (within : ∀ call ∈ calls, call.1.WithinTask) :
    wiaLabels deviceId (some caller) (asLabels calls) =
        (systemExchanges deviceId calls).map (fun exchange =>
          .system caller exchange.1 exchange.2) ∧
      lastTask (some caller) (asLabels calls) = some caller := by
  induction calls with
  | nil => exact ⟨rfl, rfl⟩
  | cons call calls ih =>
      rw [List.forall_mem_cons] at within
      rcases toWia_within deviceId caller within.1 call.2 with
        ⟨shown, same⟩
      rcases ih within.2 with ⟨onRest, last⟩
      rw [asLabels, List.map_cons, ← asLabels]
      constructor
      · rw [wiaLabels, shown, same, onRest]
        cases asked : call.1.toSystem deviceId <;> simp [systemExchanges, asked]
      · rw [lastTask, List.foldl_cons, same]
        exact last

omit [DecidableEq ι] in
/-- A task takes the owner thread from the head of its loop back to it. -/
theorem path_of_taskPerformed {hrCom : Int32} {current : ι} {result : EscapeResult sizeT}
    {calls before : List (WorkerCall ι π sizeT × WorkerReply ι π)}
    (performed : TaskPerformed deviceId hrCom current (arguments current) calls before result) :
    Path (OwnerStep deviceId arguments)
        (.executing hrCom current (executeTask deviceId hrCom (arguments current)))
        (wiaLabels deviceId (some current) (asLabels calls)) (.looping hrCom) ∧
      lastTask (some current) (asLabels calls) = some current := by
  rcases performed.split with ⟨reply, rfl⟩
  rcases wiaLabels_within performed.within with ⟨shown, last⟩
  rw [asLabels, List.map_append, ← asLabels, wiaLabels_append, shown, last]
  constructor
  · exact (path_of_exec performed.executes).append (.cons .fulfil .nil)
  · rw [List.map_singleton, lastTask_snoc, last]
    rfl

omit [DecidableEq ι] in
theorem follows_serveTasks (hrCom : Int32) (current : Option ι) :
    Follows deviceId arguments (.looping hrCom) current
      (serveTasks deviceId arguments hrCom fuel : Working ι π sizeT Bool) := by
  induction fuel generalizing current with
  | zero => exact ensures_pure.mpr ⟨_, .nil, nofun⟩
  | succ fuel ih =>
      rw [Follows, serveTasks, ensures_perform_bind]
      intro next
      cases taken : next.task with
      | none =>
          refine ensures_pure.mpr ⟨.exited, ?_, fun _ => rfl⟩
          simp only [asLabels, List.map_cons, List.map_nil, wiaLabels, CodedLabel.toWia, taken]
          exact .cons .exit .nil
      | some caller =>
          refine Ensures.bind (fun calls _ execution => taskPerformed execution) ?_
          intro left _ performed
          rcases performed with ⟨before, result, performed⟩
          rcases path_of_taskPerformed performed with ⟨path, last⟩
          refine (ih (some caller)).mono fun right ended rest => ?_
          rcases rest with ⟨final, onRest, exits⟩
          refine ⟨final, ?_, exits⟩
          rw [asLabels, List.map_cons, List.map_append, ← asLabels, ← asLabels, wiaLabels,
            wiaLabels_append]
          simp only [CodedLabel.toWia, CodedLabel.lastTaken, taken, last]
          exact .cons .dequeue (path.append onRest)

omit [DecidableEq ι] [Commons] in
theorem toWia_coUninit (current : Option ι) (reply : WorkerReply ι π) :
    (CodedLabel.worker .coUninit reply : CodedLabel ι π sizeT).toWia deviceId current = none := by
  cases current <;> rfl

omit [DecidableEq ι] in
theorem follows_workerMain :
    Follows deviceId arguments .started none
      (workerMain deviceId arguments fuel : Working ι π sizeT Bool) := by
  rw [Follows, workerMain, ensures_perform_bind]
  intro initialised
  refine Ensures.bind (follows_serveTasks initialised.hr none) ?_
  intro left ended serves
  rcases serves with ⟨final, path, exits⟩
  have begun : Path (OwnerStep deviceId arguments) .started
      (wiaLabels deviceId none (asLabels ((.coInitializeEx, initialised) :: left))) final :=
    .cons .coInitialize path
  split
  · refine ensures_perform_bind.mpr fun reply => ensures_pure.mpr ⟨final, ?_, exits⟩
    rw [asLabels, List.map_cons, List.map_append, ← asLabels, List.map_singleton]
    rw [← List.cons_append, wiaLabels_snoc, toWia_coUninit, Option.toList_none, List.append_nil]
    exact begun
  · refine ensures_pure.mpr ⟨final, ?_, exits⟩
    rwa [List.append_nil]

/-! ## Simulation -/

instance : Inhabited (WorkerReply ι π) := ⟨{}⟩

omit [DecidableEq ι] in
/-- One call of the worker: the owner thread takes the step that is left of it, or none. -/
theorem Follows.step {owner : OwnerThread ι sizeT} {current : Option ι}
    {request : WorkerCall ι π sizeT} {resume : WorkerReply ι π → Working ι π sizeT Bool}
    (follows : Follows deviceId arguments owner current (.call request resume))
    (reply : WorkerReply ι π) :
    ∃ next, Path (OwnerStep deviceId arguments) owner
        ((CodedLabel.worker request reply).toWia deviceId current).toList next ∧
      Follows deviceId arguments next ((CodedLabel.worker request reply).lastTaken current)
        (resume reply) := by
  cases shown : (CodedLabel.worker request reply).toWia deviceId current with
  | none =>
      refine ⟨owner, .nil, fun calls ended execution => ?_⟩
      have whole := follows _ _ (.call execution)
      simpa [asLabels, wiaLabels, shown] using whole
  | some label =>
      rcases exists_exec (resume reply) with ⟨calls, ended, execution⟩
      rcases follows _ _ (.call execution) with ⟨final, path, _⟩
      simp only [asLabels, List.map_cons, wiaLabels, shown, Option.toList_some,
        List.singleton_append] at path
      cases path with
      | @cons _ next _ _ _ step _ =>
          refine ⟨next, .cons step .nil, fun calls ended execution => ?_⟩
          rcases follows _ _ (.call execution) with ⟨final, path, exits⟩
          simp only [asLabels, List.map_cons, wiaLabels, shown, Option.toList_some,
            List.singleton_append] at path
          cases path with
          | cons again rest =>
              rw [step.unique again]
              exact ⟨final, rest, exits⟩

omit [DecidableEq ι] [Commons] in
/-- A call that concerns neither the queue nor a promise is one of three kinds. -/
theorem toWia_elsewhere (deviceId : String) {request : WorkerCall ι π sizeT}
    (apart : request.concernsShared = false) (current : Option ι) (reply : WorkerReply ι π) :
    (CodedLabel.worker request reply).toWia deviceId current = none ∨
      (CodedLabel.worker request reply).toWia deviceId current = some (.coInitialize reply.hr) ∨
      ∃ caller asked, (CodedLabel.worker request reply).toWia deviceId current =
        some (.system caller asked reply.toSystem) := by
  cases request with
  | coInitializeEx => exact Or.inr (Or.inl rfl)
  | nextTask | setValue => cases apart
  | _ =>
      cases current with
      | none => exact Or.inl rfl
      | some caller => first | exact Or.inl rfl | exact Or.inr (Or.inr ⟨caller, _, rfl⟩)

/-- What is left of a call of the worker is a step of the transport. -/
theorem path_of_serves {self next : SharedMembers ι sizeT} {owner owner' : OwnerThread ι sizeT}
    {current : Option ι} {request : WorkerCall ι π sizeT} {reply : WorkerReply ι π}
    (serves : Serves self request reply next)
    (path : Path (OwnerStep deviceId arguments) owner
      ((CodedLabel.worker request reply).toWia deviceId current).toList owner') :
    Path (Step deviceId arguments) (self.withOwner owner)
      ((CodedLabel.worker request reply).toWia deviceId current).toList
      (next.withOwner owner') := by
  cases serves with
  | takes front taken =>
      simp only [CodedLabel.toWia, taken, Option.elim_some, Option.toList_some] at path ⊢
      rcases path with _ | ⟨⟨⟩, ⟨⟩⟩
      exact .cons (.dequeue rfl front) .nil
  | stops stopped empty taken =>
      simp only [CodedLabel.toWia, taken, Option.elim_none, Option.toList_some] at path ⊢
      rcases path with _ | ⟨⟨⟩, ⟨⟩⟩
      exact .cons (.exit rfl stopped empty) .nil
  | sets =>
      simp only [CodedLabel.toWia, Option.toList_some] at path ⊢
      rcases path with _ | ⟨⟨⟩, ⟨⟩⟩
      exact .cons (.fulfil rfl) .nil
  | elsewhere apart =>
      rcases toWia_elsewhere deviceId apart current reply with
        silent | begins | ⟨caller, asked, calls⟩
      · rw [silent] at path ⊢
        cases path
        exact .nil
      · rw [begins, Option.toList_some] at path ⊢
        rcases path with _ | ⟨⟨⟩, ⟨⟩⟩
        exact .cons (.coInitialize rfl) .nil
      · rw [calls, Option.toList_some] at path ⊢
        rcases path with _ | ⟨⟨⟩, ⟨⟩⟩
        exact .cons (.system rfl) .nil

/-- A step of a call or of the destructor does not depend on the owner thread. -/
theorem Step.withOwner {self next : WiaTransport ι sizeT} {label : Label ι sizeT}
    (step : Step deviceId arguments self label next) (notOwner : label.byOwner = false)
    (spawnsNot : ∀ caller, label ≠ .spawn caller) (owner : OwnerThread ι sizeT) :
    Step deviceId arguments (self.toSharedMembers.withOwner owner) label
      (next.toSharedMembers.withOwner owner) := by
  cases step with
  | call outside few => exact .call outside few
  | reject outside many => exact .reject outside many
  | spawn => exact (spawnsNot _ rfl).elim
  | spawnFails entered unstarted => exact .spawnFails entered unstarted
  | alreadyStarted entered started => exact .alreadyStarted entered started
  | enqueue ready => exact .enqueue ready
  | timeout waiting => exact .timeout waiting
  | collect waiting promised => exact .collect waiting promised
  | stop => exact .stop
  | coInitialize | dequeue | system | fulfil | exit => cases notOwner

/-- The thread is started as it would be. -/
theorem Step.spawn_withOwner {self next : WiaTransport ι sizeT} {caller : ι}
    (step : Step deviceId arguments self (.spawn caller) next) (owner : OwnerThread ι sizeT) :
    Step deviceId arguments (self.toSharedMembers.withOwner owner) (.spawn caller)
      (next.toSharedMembers.withOwner .started) := by
  cases step with
  | spawn entered unstarted => exact .spawn entered unstarted

/-- Where the owner thread stands while the worker still has this to do. -/
def StandsAt (deviceId : String) (arguments : ι → EscapeArguments sizeT)
    (owner : OwnerThread ι sizeT) (current : Option ι) :
    Option (Working ι π sizeT Bool) → Prop
  | none => owner = .absent ∧ current = none
  | some program => Follows deviceId arguments owner current program

/-- The calls that the worker has made, with their replies. -/
def workerCalls (labels : List (CodedLabel ι π sizeT)) :
    List (WorkerCall ι π sizeT × WorkerReply ι π) :=
  labels.filterMap fun label =>
    match label with
    | .worker request reply => some (request, reply)
    | .outside _ => none

omit [DecidableEq ι] [Commons] in
theorem workerCalls_append (left right : List (CodedLabel ι π sizeT)) :
    workerCalls (left ++ right) = workerCalls left ++ workerCalls right :=
  List.filterMap_append

/-- What the worker has done and what it still has to do are an execution of WorkerMain. -/
def Executes (deviceId : String) (arguments : ι → EscapeArguments sizeT) (fuel : ℕ)
    (calls : List (WorkerCall ι π sizeT × WorkerReply ι π)) :
    Option (Working ι π sizeT Bool) → Prop
  | none => calls = []
  | some program => ∀ more ended, Exec program more ended →
      Exec (workerMain deviceId arguments fuel) (calls ++ more) ended

/-- What links the transport as coded to the one whose owner thread only executes tasks. -/
structure Simulates (deviceId : String) (arguments : ι → EscapeArguments sizeT) (fuel : ℕ)
    (labels : List (CodedLabel ι π sizeT)) (object : CodedTransport ι π sizeT)
    (owner : OwnerThread ι sizeT) : Prop where
  run : WiaRun deviceId arguments (wiaLabels deviceId none labels) (object.shared.withOwner owner)
  stands : StandsAt deviceId arguments owner (lastTask none labels) object.worker
  started : object.worker.isSome = true → object.shared.started = true
  executes : Executes deviceId arguments fuel (workerCalls labels) object.worker

variable {labels : List (CodedLabel ι π sizeT)} {label : CodedLabel ι π sizeT}
variable {self next : CodedTransport ι π sizeT} {owner : OwnerThread ι sizeT}

theorem Simulates.step (simulates : Simulates deviceId arguments fuel labels self owner)
    (step : CodedStep deviceId arguments fuel self label next) :
    ∃ owner', Simulates deviceId arguments fuel (labels ++ [label]) next owner' := by
  have run := simulates.run
  have stands := simulates.stands
  have executes := simulates.executes
  cases step with
  | @spawn caller shared step =>
      have notYet : self.worker = none := by
        cases running : self.worker with
        | none => rfl
        | some program =>
            have started := simulates.started (by rw [running]; rfl)
            cases step with
            | spawn entered unstarted => cases started.symm.trans unstarted
      rw [notYet] at stands executes
      refine ⟨.started, ?_, ?_, fun _ => ?_, ?_⟩
      · rw [wiaLabels_snoc]
        exact .snoc run (step.spawn_withOwner owner)
      · rw [lastTask_snoc, stands.2]
        exact follows_workerMain
      · cases step with
        | spawn => rfl
      · rw [workerCalls_append, show workerCalls labels = [] from executes]
        exact fun _ _ execution => execution
  | @outside label shared step notOwner spawnsNot =>
      refine ⟨owner, ?_, ?_, fun running => step.started (simulates.started running), ?_⟩
      · rw [wiaLabels_snoc]
        exact .snoc run (step.withOwner notOwner spawnsNot owner)
      · rw [lastTask_snoc]
        exact stands
      · rw [workerCalls_append, show workerCalls [CodedLabel.outside label] = [] from rfl,
          List.append_nil]
        exact executes
  | @worker request reply resume shared runs serves =>
      rw [runs] at stands executes
      rcases Follows.step stands reply with ⟨owner', path, follows⟩
      refine ⟨owner', ?_, ?_, fun _ => ?_, ?_⟩
      · rw [wiaLabels_snoc]
        exact run.append_path (path_of_serves serves path)
      · rw [lastTask_snoc]
        exact follows
      · have started := simulates.started (by rw [runs]; rfl)
        cases serves <;> exact started
      · intro more ended execution
        rw [workerCalls_append, List.append_assoc]
        exact executes _ _ (.call execution)

theorem CodedRun.simulates (run : CodedRun deviceId arguments fuel labels self) :
    ∃ owner, Simulates deviceId arguments fuel labels self owner := by
  induction run with
  | start begins =>
      rw [begins]
      exact ⟨.absent, .start rfl, ⟨rfl, rfl⟩, nofun, rfl⟩
  | snoc _ stepped ih =>
      rcases ih with ⟨owner, simulates⟩
      exact simulates.step stepped

/-- Every run of the transport as coded is a run of the transport whose owner thread only
executes tasks, once the private calls of the worker are forgotten; the calls, the queue and
the promises are the same, and the worker that has returned is the thread that has exited. -/
theorem codedRun_refines (run : CodedRun deviceId arguments fuel labels self) :
    ∃ owner, WiaRun deviceId arguments (wiaLabels deviceId none labels)
        (self.shared.withOwner owner) ∧
      (self.worker = none → owner = .absent) ∧
      (self.worker = some (.done true) → owner = .exited) := by
  rcases CodedRun.simulates run with ⟨owner, simulates⟩
  refine ⟨owner, simulates.run, ?_, ?_⟩
  · intro notStarted
    have stands := simulates.stands
    rw [notStarted] at stands
    exact stands.1
  · intro returned
    have stands := simulates.stands
    rw [returned] at stands
    rcases stands [] true .done with ⟨final, path, exits⟩
    cases path
    exact exits rfl

end WorkerRefinement

section Sample

variable {request : WorkerCall Bool ℕ .bits64} {resume : WorkerReply Bool ℕ →
  Working Bool ℕ .bits64 Bool} {self : CodedTransport Bool ℕ .bits64}
  {next : SharedMembers Bool .bits64}

/-- A call of the worker that returns this. -/
theorem CodedStep.returns (reply : WorkerReply Bool ℕ)
    (runs : self.worker = some (.call request resume))
    (serves : Serves self.shared request reply next) :
    CodedStep "camera" sampleArguments 2 self (.worker request reply) ⟨next, some (resume reply)⟩ :=
  .worker runs serves

/-- A step that is not the worker's. -/
theorem CodedStep.moves (label : Label Bool .bits64)
    (step : Step "camera" sampleArguments (self.shared.withOwner .absent) label
      (next.withOwner .absent)) (notOwner : label.byOwner = false)
    (spawnsNot : ∀ caller, label ≠ .spawn caller) :
    CodedStep "camera" sampleArguments 2 self (.outside label) { self with shared := next } :=
  .outside step notOwner spawnsNot

/-- The start of the worker by a call. -/
theorem CodedStep.starts (caller : Bool) (entered : self.shared.caller caller = .entered)
    (unstarted : self.shared.started = false) :
    CodedStep "camera" sampleArguments 2 self (.outside (.spawn caller))
      ⟨{ self.shared with
          caller := Function.update self.shared.caller caller .ready
          started := true },
        some (workerMain "camera" sampleArguments 2)⟩ :=
  .spawn (.spawn entered unstarted)

/-- One request is served on a thread whose apartment has been initialised before, and then
the transport is destroyed. -/
theorem exists_servedRun : ∃ labels self,
    CodedRun "camera" sampleArguments 2 labels (self : CodedTransport Bool ℕ .bits64) ∧
      self.worker = some (.done true) ∧ (workerCalls labels).length = 23 := by
  have begun : CodedRun "camera" sampleArguments 2 []
      ({} : CodedTransport Bool ℕ .bits64) := .start rfl
  have entered := begun.snoc (.moves (.call false) (.call rfl (by decide)) rfl (by simp))
  have started := entered.snoc (.starts false rfl rfl)
  have queued := started.snoc (.moves (.enqueue false) (.enqueue rfl) rfl (by simp))
  have served := queued.append_path <|
    .cons (.returns { hr := sFalse } rfl (.elsewhere rfl)) <|
    .cons (.returns { task := some false } rfl (.takes rfl rfl)) <|
    .cons (.returns { pointer := some 1 } rfl (.elsewhere rfl)) <|
    .cons (.returns {} rfl (.elsewhere rfl)) <|
    .cons (.returns {} rfl (.elsewhere rfl)) <|
    .cons (.returns { pointer := some 2 } rfl (.elsewhere rfl)) <|
    .cons (.returns {} rfl (.elsewhere rfl)) <|
    .cons (.returns { pointer := some 3 } rfl (.elsewhere rfl)) <|
    .cons (.returns {} rfl (.elsewhere rfl)) <|
    .cons (.returns { pointer := some 4 } rfl (.elsewhere rfl)) <|
    .cons (.returns { pointer := some 5 } rfl (.elsewhere rfl)) <|
    .cons (.returns { pointer := some 6 } rfl (.elsewhere rfl)) <|
    .cons (.returns { actualDataSize := 64 } rfl (.elsewhere rfl)) <|
    .cons (.returns {} rfl (.elsewhere rfl)) <|
    .cons (.returns {} rfl (.elsewhere rfl)) <|
    .cons (.returns {} rfl (.elsewhere rfl)) <|
    .cons (.returns {} rfl (.elsewhere rfl)) <|
    .cons (.returns {} rfl (.elsewhere rfl)) <|
    .cons (.returns {} rfl (.elsewhere rfl)) <|
    .cons (.returns {} rfl (.elsewhere rfl)) <|
    .cons (.returns {} rfl (.elsewhere rfl)) <|
    .cons (.returns {} rfl .sets) .nil
  have left := served.snoc (.moves (.timeout false) (.timeout rfl) rfl (by simp))
  have stopped := left.snoc (.moves .stop .stop rfl (by simp))
  exact ⟨_, _, stopped.snoc (.returns {} rfl (.stops rfl rfl rfl)), rfl, rfl⟩

theorem servedRun_refines : ∃ (labels : List (CodedLabel Bool ℕ .bits64))
    (self : CodedTransport Bool ℕ .bits64), (workerCalls labels).length = 23 ∧
      WiaRun "camera" sampleArguments (wiaLabels "camera" none labels)
        (self.shared.withOwner .exited) := by
  rcases exists_servedRun with ⟨labels, self, run, returned, many⟩
  rcases codedRun_refines run with ⟨owner, abstract, _, exited⟩
  rw [exited returned] at abstract
  exact ⟨labels, self, many, abstract⟩

end Sample

end SimpleCamCtrl.Wia
