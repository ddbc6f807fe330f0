import SimpleCamCtrl.Impl.HandshakeGrammar
import SimpleCamCtrl.Impl.SessionProtocol
import SimpleCamCtrl.Library.Guarded

/-!
# Threads

The public functions of `SonyPTP3_Impl`, called by any number of threads.  Each takes
`api_mutex_` before it looks at the object, or returns after its timeout with a value that
says nothing.  Only the destructor is not called here: it runs alone, after all the others.
-/

namespace SimpleCamCtrl.Impl

open Interaction

/-- A call of a public function other than the destructor. -/
inductive PublicCall (τ : Type) where
  | operation (op : Op τ) (survives : op ≠ .destroy)
  | isConnected
  | getExposureParams
  | getExposureMode
  | isMovieRecording
  deriving DecidableEq

/-- What a public function returns; `Disconnect` returns nothing, which is `flag true`, or
`flag false` without the lock.  The parameters are `none` where the result is false. -/
inductive Answer where
  | flag (value : Bool)
  | params (value : Option ExposureParams)
  | mode (value : UInt32)
  deriving DecidableEq

section Threads

variable {τ : Type} {sizeT : SizeT} [Commons]

/-- What a getter reads. -/
def PublicCall.reading (self : SonyPTP3Impl τ) : PublicCall τ → Option Answer
  | .operation _ _ => none
  | .isConnected => some (.flag (Impl.isConnected self))
  | .getExposureParams => some (.params (Impl.getExposureParams self))
  | .getExposureMode => some (.mode (Impl.getExposureMode self))
  | .isMovieRecording => some (.flag (Impl.isMovieRecording self))

variable [DecidableEq τ]

/-- A public function that has got the lock. -/
def PublicCall.body (self : SonyPTP3Impl τ) :
    PublicCall τ → Escaping τ sizeT (Answer × SonyPTP3Impl τ)
  | .operation op _ => do
      let (ok, self) ← perform self op
      return (.flag ok, self)
  | .isConnected => pure (.flag (Impl.isConnected self), self)
  | .getExposureParams => pure (.params (Impl.getExposureParams self), self)
  | .getExposureMode => pure (.mode (Impl.getExposureMode self), self)
  | .isMovieRecording => pure (.flag (Impl.isMovieRecording self), self)

omit [Commons] [DecidableEq τ] in
/-- What a public function returns when it has not got the lock. -/
def PublicCall.refusal : PublicCall τ → Answer
  | .operation _ _ | .isConnected | .isMovieRecording => .flag false
  | .getExposureParams => .params none
  | .getExposureMode => .mode 0

/-- `SonyPTP3_Impl` as an object guarded by a lock. -/
def sonyInterface :
    Guarded.Interface (PublicCall τ) (Request τ) (EscapeResult sizeT) (SonyPTP3Impl τ) Answer where
  initial := construct
  body := PublicCall.body
  refusal := PublicCall.refusal

/-- The object with the threads that call it. -/
abbrev SharedSony (θ τ : Type) (sizeT : SizeT) :=
  Guarded θ (PublicCall τ) (Request τ) (EscapeResult sizeT) (SonyPTP3Impl τ) Answer

abbrev ThreadLabel (θ τ : Type) (sizeT : SizeT) :=
  Guarded.Label θ (PublicCall τ) (Request τ) (EscapeResult sizeT) Answer

/-- A public call of a thread as it happened. -/
abbrev ThreadCall (θ τ : Type) (sizeT : SizeT) :=
  Guarded.Call θ (PublicCall τ) (Request τ) (EscapeResult sizeT) (SonyPTP3Impl τ) Answer

/-- Runs of any number of threads. -/
abbrev ThreadRun {θ : Type} [DecidableEq θ] :
    List (ThreadLabel θ τ sizeT) → SharedSony θ τ sizeT → Prop :=
  Guarded.Run sonyInterface

omit [DecidableEq τ] [Commons] in
theorem EndsSession.length_le {self : SonyPTP3Impl τ} {exchanges : List (Exchange τ sizeT)}
    (ends : EndsSession self exchanges) : exchanges.length ≤ 3 := by
  rw [EndsSession] at ends
  split at ends
  · simp [ends]
  · rcases ends with ⟨stopMovie, releaseFocus, close, rfl⟩
    simp

/-- No operation sends more than fifteen commands. -/
theorem length_le_of_perform {self : SonyPTP3Impl τ} {op : Op τ}
    {exchanges : List (Exchange τ sizeT)} {result : Bool} {after : SonyPTP3Impl τ}
    (execution : Exec (perform self op) exchanges (result, after)) : exchanges.length ≤ 15 := by
  have handshake {transport : τ} (held : self.transport = some transport)
      (closed : ensureConnected self = none)
      (connects : Exec (connect self) exchanges (result, after)) : exchanges.length ≤ 15 := by
    refine ((exec_connect held ?_).mp connects).1.length_le
    intro isOpen
    rw [ensureConnected_eq_some_iff.mpr ⟨isOpen, held⟩] at closed
    cases closed
  cases perform_outcome execution with
  | connected held closed | refused held closed => exact handshake held closed execution
  | disconnected _ ends | newTransport _ ends => exact ends.length_le.trans (by decide)
  | wrote _ requests =>
      have four := congrArg List.length requests
      rw [List.length_map] at four
      rw [four]
      exact of_decide_eq_true rfl
  | _ => simp

theorem length_le_of_body {self after : SonyPTP3Impl τ} {op : PublicCall τ}
    {exchanges : List (Exchange τ sizeT)} {answer : Answer}
    (execution : Exec (op.body self) exchanges (answer, after)) : exchanges.length ≤ 15 := by
  cases op with
  | operation op =>
      rcases exec_bind_pure.mp execution with ⟨⟨ok, object⟩, performed, _⟩
      exact length_le_of_perform performed
  | isConnected | getExposureParams | getExposureMode | isMovieRecording =>
      rw [(exec_pure.mp execution).1]
      exact Nat.zero_le _

variable {θ : Type}

omit [DecidableEq τ] [Commons] in
/-- The operation that a public call has performed; a getter performs none. -/
def operationCall (call : ThreadCall θ τ sizeT) : Option (Call τ sizeT) :=
  match call.op, call.answer with
  | .operation op _, .flag ok =>
      some ⟨op, call.locked, call.before, call.exchanges, ok, call.after⟩
  | _, _ => none

/-- The operations that a sequence of public calls has performed. -/
def operationCalls (calls : List (ThreadCall θ τ sizeT)) : List (Call τ sizeT) :=
  calls.filterMap operationCall

variable {state state' : SonyPTP3Impl τ} {call : ThreadCall θ τ sizeT}
variable {calls : List (ThreadCall θ τ sizeT)}

/-- A call of an operation performs it. -/
theorem performs_of_operation {op : Op τ} {survives : op ≠ .destroy}
    (performs : Guarded.Performs sonyInterface state call state')
    (isOperation : call.op = .operation op survives) :
    ∃ made, operationCall call = some made ∧ made.exchanges = call.exchanges ∧
      Performs (some state) made (some state') := by
  have found := performs.found
  have left := performs.left
  have executes := performs.executes
  rcases call with ⟨thread, called, locked, before, exchanges, answer, after⟩
  cases isOperation
  cases found
  cases left
  cases locked with
  | false =>
      simp only [Bool.false_eq_true, if_false] at executes
      rcases executes with ⟨rfl, rfl, rfl⟩
      exact ⟨⟨op, false, after, [], false, after⟩, rfl, rfl, rfl, ⟨rfl, rfl, rfl⟩,
        (if_neg survives).symm⟩
  | true =>
      rcases exec_bind_pure.mp executes with ⟨⟨ok, object⟩, performed, same⟩
      cases same
      exact ⟨⟨op, true, before, exchanges, ok, after⟩, rfl, rfl, rfl, performed,
        (if_neg survives).symm⟩

/-- A getter reads, sends nothing and changes nothing. -/
theorem performs_of_getter {value : Answer}
    (performs : Guarded.Performs sonyInterface state call state')
    (reads : call.op.reading state = some value) :
    operationCall call = none ∧ call.exchanges = [] ∧ state' = state ∧
      (call.answer = value ∨ call.answer = call.op.refusal) := by
  have found := performs.found
  have left := performs.left
  have executes := performs.executes
  rcases call with ⟨thread, called, locked, before, exchanges, answer, after⟩
  cases found
  cases left
  cases locked with
  | false =>
      simp only [Bool.false_eq_true, if_false] at executes
      rcases executes with ⟨rfl, rfl, rfl⟩
      cases called with
      | operation => cases reads
      | _ => exact ⟨rfl, rfl, rfl, Or.inr rfl⟩
  | true =>
      cases called with
      | operation => cases reads
      | _ =>
          rcases exec_pure.mp executes with ⟨rfl, same⟩
          simp only [Prod.mk.injEq] at same
          rcases same with ⟨rfl, rfl⟩
          cases reads
          exact ⟨rfl, rfl, rfl, Or.inl rfl⟩

omit [Commons] [DecidableEq τ] in
/-- A public call is of an operation or of a getter. -/
theorem PublicCall.operation_or_reads (self : SonyPTP3Impl τ) (op : PublicCall τ) :
    (∃ performed survives, op = .operation performed survives) ∨
      ∃ value, op.reading self = some value := by
  cases op with
  | operation op survives => exact Or.inl ⟨op, survives, rfl⟩
  | _ => exact Or.inr ⟨_, rfl⟩

/-- Sequential public calls are a run of operations, which sends all that they send. -/
theorem callRun_of_guarded (run : Guarded.CallRun sonyInterface calls state) :
    CallRun (operationCalls calls) (some state) ∧
      trace (operationCalls calls) = calls.flatMap Guarded.Call.exchanges := by
  induction run with
  | start begins => exact ⟨.start (congrArg some begins), rfl⟩
  | snoc _ performs ih =>
      rename_i calls state state' call _
      rcases ih with ⟨run, whole⟩
      rw [operationCalls, List.filterMap_append, List.flatMap_append, List.flatMap_singleton,
        ← whole, ← operationCalls]
      rcases call.op.operation_or_reads state with ⟨op, survives, isOperation⟩ | ⟨value, reads⟩
      · rcases performs_of_operation performs isOperation with ⟨made, counted, sent, performed⟩
        rw [List.filterMap_cons_some counted, List.filterMap_nil, trace_append, trace_singleton,
          sent]
        exact ⟨.snoc run performed, rfl⟩
      · rcases performs_of_getter performs reads with ⟨skipped, silent, unchanged, _⟩
        rw [List.filterMap_cons_none skipped, List.filterMap_nil, List.append_nil, silent,
          List.append_nil, unchanged]
        exact ⟨run, rfl⟩

/-- Every getter sends nothing and reads the state left by the operations answered before it,
or returns the value for no lock. -/
def GettersCurrent (calls : List (ThreadCall θ τ sizeT)) : Prop :=
  History.Each (fun before call => ∀ value, call.op.reading call.before = some value →
    CallRun (operationCalls before) (some call.before) ∧ call.exchanges = [] ∧
      (call.answer = value ∨ call.answer = call.op.refusal)) calls

theorem gettersCurrent_of_guarded (run : Guarded.CallRun sonyInterface calls state) :
    GettersCurrent calls := by
  induction run with
  | start => exact History.each_nil
  | snoc run performs ih =>
      rw [GettersCurrent, History.each_snoc]
      refine ⟨ih, ?_⟩
      intro value reads
      rw [← performs.found] at reads ⊢
      rcases performs_of_getter performs reads with ⟨_, silent, _, answer⟩
      exact ⟨(callRun_of_guarded run).1, silent, answer⟩

variable [DecidableEq θ] {labels : List (ThreadLabel θ τ sizeT)} {shared : SharedSony θ τ sizeT}

/-- Threads that call the object see what they would see one after the other, in the order of
their answers. -/
structure Linearizable (labels : List (ThreadLabel θ τ sizeT)) (shared : SharedSony θ τ sizeT)
    (calls : List (ThreadCall θ τ sizeT)) (pending : List (Exchange τ sizeT)) : Prop where
  answered : calls.map Guarded.Call.answered = Guarded.answers labels
  run : CallRun (operationCalls calls) (some shared.object)
  getters : GettersCurrent calls
  exchanged : Guarded.exchanges labels = trace (operationCalls calls) ++ pending
  unanswered : History.Each (fun before label => ∀ thread op answer,
    label.answered = some (thread, op, answer) → Guarded.Unanswered before thread op) labels
  exclusive : ∀ thread, shared.holder = some thread ↔
    ∃ op rest, shared.phase thread = .running op rest
  free : shared.holder = none → pending = []
  bounded : pending.length ≤ 15

instance : Inhabited (EscapeResult sizeT) := ⟨⟨0, 0, .empty⟩⟩

omit [DecidableEq θ] in
/-- The exchanges of the call that holds the lock are the beginning of an execution. -/
theorem pending_length_le {pending : List (Exchange τ sizeT)}
    (lin : Guarded.Linearizes sonyInterface labels shared calls pending) :
    pending.length ≤ 15 := by
  cases held : shared.holder with
  | none =>
      rw [lin.free held]
      exact Nat.zero_le _
  | some thread =>
      rcases (lin.holds thread).mp held with ⟨op, rest, runs⟩
      rcases rest.exists_exec with ⟨more, result, execution⟩
      have whole := length_le_of_body (lin.running thread op rest runs more result execution)
      rw [List.length_append] at whole
      omega

omit [DecidableEq θ] in
/-- The exchanges of sequential calls step the session protocol to the session that the
object believes to be open. -/
theorem session_of_guarded (run : Guarded.CallRun sonyInterface calls state) :
    Session.run sessionAction none (calls.flatMap Guarded.Call.exchanges) =
      some (ensureConnected state) := by
  rcases callRun_of_guarded run with ⟨operations, whole⟩
  rcases operations.sessionInvariant.accepted with ⟨final, accepted, alive, _⟩
  rw [← whole, accepted, alive state rfl]

omit [DecidableEq θ] in
/-- However the call that holds the lock goes on, its exchanges fit the session protocol. -/
theorem session_of_running {pending more : List (Exchange τ sizeT)}
    (lin : Guarded.Linearizes sonyInterface labels shared calls pending) {thread : θ}
    {op : PublicCall τ} {rest : Escaping τ sizeT (Answer × SonyPTP3Impl τ)}
    {result : Answer × SonyPTP3Impl τ} (runs : shared.phase thread = .running op rest)
    (execution : Exec rest more result) :
    Session.run sessionAction none (Guarded.exchanges labels ++ more) =
      some (ensureConnected result.2) := by
  have accepted := session_of_guarded (lin.completed runs execution)
  rw [List.flatMap_append, List.flatMap_singleton, ← List.append_assoc, ← lin.exchanged]
    at accepted
  exact accepted

/-- The exchanges of all threads fit the session protocol; when no call holds the lock, the
session that they leave open is the one that the object believes to be open. -/
theorem ThreadRun.accepted (run : ThreadRun labels shared) :
    ∃ final, Session.run sessionAction none (Guarded.exchanges labels) = some final ∧
      (shared.holder = none → final = ensureConnected shared.object) := by
  rcases Guarded.Run.linearizes run with ⟨calls, pending, lin⟩
  cases held : shared.holder with
  | none =>
      have whole := lin.exchanged
      rw [lin.free held, List.append_nil] at whole
      rw [whole]
      exact ⟨_, session_of_guarded lin.run, fun _ => rfl⟩
  | some thread =>
      rcases (lin.holds thread).mp held with ⟨op, rest, runs⟩
      rcases rest.exists_exec with ⟨more, result, execution⟩
      have accepted := session_of_running lin runs execution
      rw [Session.run_append, Option.bind_eq_some_iff] at accepted
      rcases accepted with ⟨final, accepted, _⟩
      exact ⟨final, accepted, nofun⟩

/-- So does the command that a thread is about to send, whatever the reply. -/
theorem ThreadRun.accepted_next (run : ThreadRun labels shared) {thread : θ} {op : PublicCall τ}
    {request : Request τ}
    {resume : EscapeResult sizeT → Escaping τ sizeT (Answer × SonyPTP3Impl τ)}
    (runs : shared.phase thread = .running op (.call request resume))
    (reply : EscapeResult sizeT) :
    ∃ final, Session.run sessionAction none (Guarded.exchanges labels ++ [(request, reply)]) =
      some final := by
  rcases Guarded.Run.linearizes run with ⟨calls, pending, lin⟩
  rcases (resume reply).exists_exec with ⟨more, result, execution⟩
  have answered : Exec (.call request resume) ((request, reply) :: more) result := .call execution
  have accepted := session_of_running lin runs answered
  rw [List.append_cons, Session.run_append, Option.bind_eq_some_iff] at accepted
  rcases accepted with ⟨final, accepted, _⟩
  exact ⟨final, accepted⟩

/-- The commands of all threads together obey the session protocol at any moment, and when no
call holds the lock every session is closed unless the object believes one to be open. -/
theorem threads_obey_sessionProtocol (run : ThreadRun labels shared) :
    ObeysSessionProtocol (Guarded.exchanges labels) ∧
      (shared.holder = none → shared.object.connectionState ≠ .sessionOpen →
        EverySessionClosed (Guarded.exchanges labels)) := by
  rcases ThreadRun.accepted run with ⟨final, accepted, idle⟩
  refine ⟨obeysSessionProtocol_of_accepted accepted, ?_⟩
  intro free notOpen
  rw [idle free, ensureConnected_of_not_open notOpen] at accepted
  exact everySessionClosed_of_accepted accepted

end Threads

/-- While one thread connects, the other gives up an UpdateStatus; afterwards it asks whether
the object is connected, and begins another UpdateStatus. -/
def overlappingChoices : List (Guarded.Choice Bool (PublicCall Unit) (EscapeResult .bits64)) :=
  [.invoke false (.operation (.setPtpTransport (some ())) nofun), .acquire false,
    .invoke true (.operation .updateStatus nofun), .complete false,
    .invoke false (.operation .connect nofun), .acquire false, .reply false okReply,
    .giveUp true, .reply false okReply, .reply false infoReply, .reply false okReply,
    .reply false okReply, .complete false,
    .invoke true .isConnected, .acquire true, .complete true,
    .invoke true (.operation .updateStatus nofun), .acquire true]

def overlappingLabels : List (ThreadLabel Bool Unit .bits64) :=
  Guarded.playedLabels sonyInterface overlappingChoices

theorem overlappingLabels_run : ∃ shared, ThreadRun overlappingLabels shared :=
  Guarded.run_of_play (by decide)

theorem overlappingLabels_obey :
    (Guarded.exchanges overlappingLabels).length = 5 ∧
      ObeysSessionProtocol (Guarded.exchanges overlappingLabels) := by
  rcases overlappingLabels_run with ⟨shared, run⟩
  exact ⟨by decide, (threads_obey_sessionProtocol run).1⟩

end SimpleCamCtrl.Impl
