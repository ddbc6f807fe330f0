import SimpleCamCtrl.Library.History
import SimpleCamCtrl.Wia.WorkerTask
import Mathlib.Logic.Function.Basic

/-!
# Interleavings of a `WiaTransport`

Any number of `Escape` calls and the owner thread, step by step.  Everything done under
`m_mtx` is one step; a worker executing a task makes one call to the system a step.  An
`Escape` call is known by an identity from `ι`, with which its task and the promise in it
are known too, and `arguments` gives the arguments of each call.
-/

namespace SimpleCamCtrl.Wia

variable {ι : Type} {sizeT : SizeT}

/-- How far an `Escape` call has come. -/
inductive Caller (sizeT : SizeT) where
  /-- Not called yet. -/
  | outside
  /-- Before `EnsureWorkerStarted`. -/
  | entered
  /-- Behind `EnsureWorkerStarted`, before the task is pushed. -/
  | ready
  /-- In `wait_for`. -/
  | waiting
  | returned (result : EscapeResult sizeT)
  /-- Left by the exception of a thread that could not be started. -/
  | thrown
  deriving DecidableEq

/-- The call is being executed. -/
def Caller.inside : Caller sizeT → Bool
  | entered | ready | waiting => true
  | outside | returned _ | thrown => false

/-- How far the owner thread has come. -/
inductive OwnerThread (ι : Type) (sizeT : SizeT) where
  /-- Not started. -/
  | absent
  /-- Before `CoInitializeEx`. -/
  | started
  /-- At the head of the loop. -/
  | looping (hrCom : Int32)
  /-- Executing the task of a call; what is left to do. -/
  | executing (hrCom : Int32) (current : ι) (rest : Worker (EscapeResult sizeT))
  | exited

/-- The members of `WiaTransport` that the threads share, with the calls. -/
structure SharedMembers (ι : Type) (sizeT : SizeT) where
  /-- `m_qTasks`. -/
  tasks : List ι := []
  /-- `m_bStop`. -/
  stop : Bool := false
  /-- `m_bStarted`. -/
  started : Bool := false
  /-- The shared state of the promise in the task of each call. -/
  promise : ι → Option (EscapeResult sizeT) := fun _ => none
  caller : ι → Caller sizeT := fun _ => .outside

/-- A transport with its owner thread. -/
structure WiaTransport (ι : Type) (sizeT : SizeT) extends SharedMembers ι sizeT where
  ownerThread : OwnerThread ι sizeT := .absent

inductive Label (ι : Type) (sizeT : SizeT) where
  | call (caller : ι)
  | reject (caller : ι)
  | spawn (caller : ι)
  | spawnFails (caller : ι)
  | alreadyStarted (caller : ι)
  | enqueue (caller : ι)
  | timeout (caller : ι)
  | collect (caller : ι) (result : EscapeResult sizeT)
  | coInitialize (hrCom : Int32)
  | dequeue (caller : ι)
  | system (caller : ι) (request : SystemCall) (reply : SystemReply)
  | fulfil (caller : ι) (result : EscapeResult sizeT)
  | stop
  | exit

variable [DecidableEq ι] [Commons]

def WiaTransport.setCaller (self : WiaTransport ι sizeT) (caller : ι) (phase : Caller sizeT) :
    WiaTransport ι sizeT :=
  { self with caller := Function.update self.caller caller phase }

/-- The steps of the `Escape` calls, of the owner thread and of the destructor. -/
inductive Step (deviceId : String) (arguments : ι → EscapeArguments sizeT)
    (self : WiaTransport ι sizeT) : Label ι sizeT → WiaTransport ι sizeT → Prop where
  | call {caller : ι} :
      self.caller caller = .outside →
      (arguments caller).params.length ≤ Commons.ptpMaxParams →
      Step deviceId arguments self (.call caller) (self.setCaller caller .entered)
  | reject {caller : ι} :
      self.caller caller = .outside →
      (arguments caller).params.length > Commons.ptpMaxParams →
      Step deviceId arguments self (.reject caller)
        (self.setCaller caller (.returned buildTooManyParamsError))
  -- `m_bStarted` is set before the thread is created, and stays set if that throws.
  | spawn {caller : ι} :
      self.caller caller = .entered → self.started = false →
      Step deviceId arguments self (.spawn caller)
        { self.setCaller caller .ready with started := true, ownerThread := .started }
  | spawnFails {caller : ι} :
      self.caller caller = .entered → self.started = false →
      Step deviceId arguments self (.spawnFails caller)
        { self.setCaller caller .thrown with started := true }
  | alreadyStarted {caller : ι} :
      self.caller caller = .entered → self.started = true →
      Step deviceId arguments self (.alreadyStarted caller) (self.setCaller caller .ready)
  | enqueue {caller : ι} :
      self.caller caller = .ready →
      Step deviceId arguments self (.enqueue caller)
        { self.setCaller caller .waiting with tasks := self.tasks ++ [caller] }
  -- The promise may be fulfilled between the end of the wait and the return.
  | timeout {caller : ι} :
      self.caller caller = .waiting →
      Step deviceId arguments self (.timeout caller)
        (self.setCaller caller (.returned timeoutResult))
  | collect {caller : ι} {result : EscapeResult sizeT} :
      self.caller caller = .waiting → self.promise caller = some result →
      Step deviceId arguments self (.collect caller result)
        (self.setCaller caller (.returned result))
  | coInitialize {hrCom : Int32} :
      self.ownerThread = .started →
      Step deviceId arguments self (.coInitialize hrCom)
        { self with ownerThread := .looping hrCom }
  | dequeue {hrCom : Int32} {caller : ι} {rest : List ι} :
      self.ownerThread = .looping hrCom → self.tasks = caller :: rest →
      Step deviceId arguments self (.dequeue caller)
        { self with
          tasks := rest
          ownerThread := .executing hrCom caller (executeTask deviceId hrCom (arguments caller)) }
  | system {hrCom : Int32} {caller : ι} {request : SystemCall} {reply : SystemReply}
      {resume : SystemReply → Worker (EscapeResult sizeT)} :
      self.ownerThread = .executing hrCom caller (.call request resume) →
      Step deviceId arguments self (.system caller request reply)
        { self with ownerThread := .executing hrCom caller (resume reply) }
  | fulfil {hrCom : Int32} {caller : ι} {result : EscapeResult sizeT} :
      self.ownerThread = .executing hrCom caller (.done result) →
      Step deviceId arguments self (.fulfil caller result)
        { self with
          promise := Function.update self.promise caller (some result)
          ownerThread := .looping hrCom }
  | stop : Step deviceId arguments self .stop { self with stop := true }
  | exit {hrCom : Int32} :
      self.ownerThread = .looping hrCom → self.stop = true → self.tasks = [] →
      Step deviceId arguments self .exit { self with ownerThread := .exited }

/-- The call that takes the step. -/
def Label.caller : Label ι sizeT → Option ι
  | call caller | reject caller | spawn caller | spawnFails caller | alreadyStarted caller
  | enqueue caller | timeout caller | collect caller _ => some caller
  | coInitialize _ | dequeue _ | system _ _ _ | fulfil _ _ | stop | exit => none

/-- The steps of the owner thread. -/
def Label.byOwner : Label ι sizeT → Bool
  | coInitialize _ | dequeue _ | system _ _ _ | fulfil _ _ | exit => true
  | call _ | reject _ | spawn _ | spawnFails _ | alreadyStarted _ | enqueue _ | timeout _
  | collect _ _ | stop => false

/-- How the steps of a call with these arguments, and this state of its promise, move it
on. -/
inductive Caller.Moves (caller : ι) (arguments : EscapeArguments sizeT)
    (promise : Option (EscapeResult sizeT)) :
    Label ι sizeT → Caller sizeT → Caller sizeT → Prop where
  | call : Moves caller arguments promise (.call caller) .outside .entered
  | reject : arguments.params.length > Commons.ptpMaxParams →
      Moves caller arguments promise (.reject caller) .outside
        (.returned buildTooManyParamsError)
  | spawn : Moves caller arguments promise (.spawn caller) .entered .ready
  | spawnFails : Moves caller arguments promise (.spawnFails caller) .entered .thrown
  | alreadyStarted : Moves caller arguments promise (.alreadyStarted caller) .entered .ready
  | enqueue : Moves caller arguments promise (.enqueue caller) .ready .waiting
  | timeout : Moves caller arguments promise (.timeout caller) .waiting
      (.returned timeoutResult)
  | collect {result : EscapeResult sizeT} : promise = some result →
      Moves caller arguments promise (.collect caller result) .waiting (.returned result)

section Moves

variable {deviceId : String} {arguments : ι → EscapeArguments sizeT}
variable {label : Label ι sizeT} {self next : WiaTransport ι sizeT}

omit [Commons] in
theorem setCaller_caller (caller other : ι) (phase : Caller sizeT) :
    (self.setCaller caller phase).caller other =
      if other = caller then phase else self.caller other := by
  simp [WiaTransport.setCaller, Function.update_apply]

/-- What a step does to a call: it is a step of the call, or leaves it where it is. -/
def StepsCall (arguments : ι → EscapeArguments sizeT) (self : WiaTransport ι sizeT)
    (label : Label ι sizeT) (next : WiaTransport ι sizeT) (caller : ι) : Prop :=
  Caller.Moves caller (arguments caller) (self.promise caller) label (self.caller caller)
      (next.caller caller) ∨
    (next.caller caller = self.caller caller ∧ label.caller ≠ some caller)

theorem setCaller_stepsCall {moved : ι} {old new : Caller sizeT}
    (phase : self.caller moved = old) (mine : label.caller = some moved)
    (moves : Caller.Moves moved (arguments moved) (self.promise moved) label old new)
    (caller : ι) : StepsCall arguments self label (self.setCaller moved new) caller := by
  rw [StepsCall, setCaller_caller]
  split
  · rename_i same
    rw [same, phase]
    exact Or.inl moves
  · rename_i other
    refine Or.inr ⟨rfl, ?_⟩
    rw [mine, Ne, Option.some.injEq]
    exact Ne.symm other

/-- Every step moves at most the call that takes it. -/
theorem Step.stepsCall (step : Step deviceId arguments self label next) (caller : ι) :
    StepsCall arguments self label next caller := by
  cases step with
  | call outside => exact setCaller_stepsCall outside rfl .call caller
  | reject outside many => exact setCaller_stepsCall outside rfl (.reject many) caller
  | spawn entered => exact setCaller_stepsCall entered rfl .spawn caller
  | spawnFails entered => exact setCaller_stepsCall entered rfl .spawnFails caller
  | alreadyStarted entered => exact setCaller_stepsCall entered rfl .alreadyStarted caller
  | enqueue ready => exact setCaller_stepsCall ready rfl .enqueue caller
  | timeout waiting => exact setCaller_stepsCall waiting rfl .timeout caller
  | collect waiting promised =>
      exact setCaller_stepsCall waiting rfl (.collect promised) caller
  | coInitialize | dequeue | system | fulfil | stop | exit => exact Or.inr ⟨rfl, nofun⟩

end Moves

/-- No `Escape` call overlaps the destructor. -/
def Quiet (self : WiaTransport ι sizeT) : Label ι sizeT → Prop
  | .stop => ∀ caller, (self.caller caller).inside = false
  | .call _ => self.stop = false
  | _ => True

/-- Runs from the construction of the transport on. -/
abbrev WiaRun (deviceId : String) (arguments : ι → EscapeArguments sizeT) :
    List (Label ι sizeT) → WiaTransport ι sizeT → Prop :=
  History.Run (· = {}) fun _ => Step deviceId arguments

/-- Runs in which no `Escape` call overlaps the destructor. -/
abbrev QuietRun (deviceId : String) (arguments : ι → EscapeArguments sizeT) :
    List (Label ι sizeT) → WiaTransport ι sizeT → Prop :=
  History.Run (· = {}) fun _ self label next =>
    Step deviceId arguments self label next ∧ Quiet self label

end SimpleCamCtrl.Wia
