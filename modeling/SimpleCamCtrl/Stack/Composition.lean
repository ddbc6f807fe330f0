import SimpleCamCtrl.Impl.Threads
import SimpleCamCtrl.Wia.DeviceOrder

/-!
# The whole stack

The public functions of `SonyPTP3_Impl`, called by any number of threads, over one
`WiaTransport` for each transport that the object may be given.  Every `Escape` call of a
thread goes through the queue of its transport; the transports make their own steps in
between, and the device answers the calls of their owner threads arbitrarily.  Each thread
waits for its own `Escape` call; that no two threads are in one is the work of the API lock.

The owner threads can be started here: a failure would leave the public function by an
exception.
-/

namespace SimpleCamCtrl.Stack

open Impl (SharedSony ThreadLabel ThreadRun sonyInterface)
open Wia (WiaTransport WiaRun enqueued)

variable {θ τ : Type} {sizeT : SizeT}

/-- An `Escape` call of the object: the how-many-th it is, and its arguments. -/
structure Ticket (τ : Type) (sizeT : SizeT) where
  number : Nat
  request : Impl.Request τ
  fits : request.writeData.length < sizeT.modulus
  deriving DecidableEq

def Ticket.arguments (ticket : Ticket τ sizeT) : Wia.EscapeArguments sizeT :=
  ⟨ticket.request.opcode, ticket.request.params, ⟨ticket.request.writeData, ticket.fits⟩⟩

/-- The object, its callers and the transports. -/
structure Assembly (θ τ : Type) (sizeT : SizeT) where
  api : SharedSony θ τ sizeT
  transports : τ → WiaTransport (Ticket τ sizeT) sizeT := fun _ => {}
  /-- The number of `Escape` calls so far. -/
  issued : Nat := 0
  /-- The `Escape` call that each thread waits for. -/
  pending : θ → Option (Ticket τ sizeT) := fun _ => none

/-- The `Escape` call of the thread that holds the API lock. -/
def Assembly.inFlight (self : Assembly θ τ sizeT) : Option (Ticket τ sizeT) :=
  self.api.holder.bind self.pending

inductive Label (θ τ : Type) (sizeT : SizeT) where
  /-- A step of a public function that is not an `Escape` call. -/
  | api (label : ThreadLabel θ τ sizeT)
  /-- A thread calls `Escape`. -/
  | issue (thread : θ) (ticket : Ticket τ sizeT)
  /-- A step of a transport. -/
  | transport (transport : τ) (label : Wia.Label (Ticket τ sizeT) sizeT)
  /-- `Escape` returns to its thread. -/
  | answer (thread : θ) (ticket : Ticket τ sizeT) (reply : EscapeResult sizeT)

/-- The steps that a transport takes by itself. -/
def Internal {ι : Type} : Wia.Label ι sizeT → Prop
  | .call _ | .reject _ | .spawnFails _ => False
  | .spawn _ | .alreadyStarted _ | .enqueue _ | .timeout _ | .collect _ _ | .coInitialize _
  | .dequeue _ | .system _ _ _ | .fulfil _ _ | .stop | .exit => True

variable [Commons]

/-- How an `Escape` call begins: with too many parameters it is over at once. -/
def Ticket.entry (ticket : Ticket τ sizeT) : Wia.Label (Ticket τ sizeT) sizeT :=
  if ticket.request.params.length ≤ Commons.ptpMaxParams then .call ticket else .reject ticket

variable [DecidableEq θ] [DecidableEq τ]

def Assembly.setTransport (self : Assembly θ τ sizeT) (transport : τ)
    (state : WiaTransport (Ticket τ sizeT) sizeT) : Assembly θ τ sizeT :=
  { self with transports := Function.update self.transports transport state }

inductive Step (deviceId : τ → String) (self : Assembly θ τ sizeT) :
    Label θ τ sizeT → Assembly θ τ sizeT → Prop where
  | api {label : ThreadLabel θ τ sizeT} {api : SharedSony θ τ sizeT} :
      Guarded.Step sonyInterface self.api label api → label.exchanged = none →
      Step deviceId self (.api label) { self with api := api }
  | issue {thread : θ} {op : Impl.PublicCall τ} {ticket : Ticket τ sizeT}
      {resume : EscapeResult sizeT →
        Impl.Escaping τ sizeT (Impl.Answer × Impl.SonyPTP3Impl τ)}
      {next : WiaTransport (Ticket τ sizeT) sizeT} :
      self.pending thread = none →
      self.api.phase thread = .running op (.call ticket.request resume) →
      ticket.number = self.issued →
      Wia.Step (deviceId ticket.request.transport) Ticket.arguments
        (self.transports ticket.request.transport) ticket.entry next →
      Step deviceId self (.issue thread ticket)
        { self.setTransport ticket.request.transport next with
          issued := self.issued + 1
          pending := Function.update self.pending thread (some ticket) }
  | transport {transport : τ} {label : Wia.Label (Ticket τ sizeT) sizeT}
      {next : WiaTransport (Ticket τ sizeT) sizeT} :
      Wia.Step (deviceId transport) Ticket.arguments (self.transports transport) label next →
      Internal label →
      Step deviceId self (.transport transport label) (self.setTransport transport next)
  | answer {thread : θ} {ticket : Ticket τ sizeT} {reply : EscapeResult sizeT}
      {api : SharedSony θ τ sizeT} :
      self.pending thread = some ticket →
      (self.transports ticket.request.transport).caller ticket = .returned reply →
      Guarded.Step sonyInterface self.api (.exchange thread ticket.request reply) api →
      Step deviceId self (.answer thread ticket reply)
        { self with api := api, pending := Function.update self.pending thread none }

/-- Runs from the construction of the object and the transports on. -/
abbrev StackRun (deviceId : τ → String) : List (Label θ τ sizeT) → Assembly θ τ sizeT → Prop :=
  History.Run (· = { api := { object := Impl.construct } }) fun _ => Step deviceId

omit [Commons] [DecidableEq θ] [DecidableEq τ] in
/-- What a step is for the callers of the object. -/
def Label.forThreads : Label θ τ sizeT → Option (ThreadLabel θ τ sizeT)
  | .api label => some label
  | .answer thread ticket reply => some (.exchange thread ticket.request reply)
  | .issue _ _ | .transport _ _ => none

omit [DecidableEq θ] in
/-- What a step is for a transport. -/
def Label.forTransport (transport : τ) :
    Label θ τ sizeT → Option (Wia.Label (Ticket τ sizeT) sizeT)
  | .issue _ ticket => if ticket.request.transport = transport then some ticket.entry else none
  | .transport other label => if other = transport then some label else none
  | .api _ | .answer _ _ _ => none

omit [Commons] [DecidableEq θ] [DecidableEq τ] in
/-- The `Escape` call that a step begins. -/
def Label.issued : Label θ τ sizeT → Option (Ticket τ sizeT)
  | .issue _ ticket => some ticket
  | .api _ | .transport _ _ | .answer _ _ _ => none

omit [Commons] [DecidableEq θ] [DecidableEq τ] in
/-- The `Escape` call that a step ends, and what it returns. -/
def Label.answered : Label θ τ sizeT → Option (Ticket τ sizeT × EscapeResult sizeT)
  | .answer _ ticket reply => some (ticket, reply)
  | .api _ | .issue _ _ | .transport _ _ => none

/-- A run as the callers of the object see it. -/
def threadLabels (labels : List (Label θ τ sizeT)) : List (ThreadLabel θ τ sizeT) :=
  labels.filterMap Label.forThreads

/-- A run as a transport sees it. -/
def transportLabels (transport : τ) (labels : List (Label θ τ sizeT)) :
    List (Wia.Label (Ticket τ sizeT) sizeT) :=
  labels.filterMap (Label.forTransport transport)

/-- The `Escape` calls that have begun, in order. -/
def issues (labels : List (Label θ τ sizeT)) : List (Ticket τ sizeT) :=
  labels.filterMap Label.issued

/-- The `Escape` calls that have ended, in order, with what they returned. -/
def answers (labels : List (Label θ τ sizeT)) : List (Ticket τ sizeT × EscapeResult sizeT) :=
  labels.filterMap Label.answered

/-- An `Escape` call that has returned, as an exchange. -/
def toExchange (answer : Ticket τ sizeT × EscapeResult sizeT) : Impl.Exchange τ sizeT :=
  (answer.1.request, answer.2)

variable {deviceId : τ → String} {labels : List (Label θ τ sizeT)} {label : Label θ τ sizeT}
variable {self next : Assembly θ τ sizeT}

omit [Commons] in
/-- One more event of a history seen through a filter. -/
theorem filterMap_snoc {α β : Type} (view : α → Option β) (events : List α) (event : α) :
    (events ++ [event]).filterMap view = events.filterMap view ++ (view event).toList := by
  cases seen : view event <;> simp [seen]

/-! ## What holds along a run -/

/-- What links the parts of the stack to each other and to the history. -/
structure StackInvariant (deviceId : τ → String) (labels : List (Label θ τ sizeT))
    (object : Assembly θ τ sizeT) : Prop where
  api : ThreadRun (threadLabels labels) object.api
  transports : ∀ transport, WiaRun (deviceId transport) Ticket.arguments
    (transportLabels transport labels) (object.transports transport)
  numbered : (issues labels).map Ticket.number = List.range object.issued
  accounted : issues labels = (answers labels).map Prod.fst ++ object.inFlight.toList
  exchanged : Guarded.exchanges (threadLabels labels) = (answers labels).map toExchange
  returned : ∀ ticket reply, (ticket, reply) ∈ answers labels →
    (object.transports ticket.request.transport).caller ticket = .returned reply
  awaited : ∀ thread ticket, object.pending thread = some ticket →
    ∃ op resume, object.api.phase thread = .running op (.call ticket.request resume)
  inside : ∀ transport ticket,
    ((object.transports transport).caller ticket).inside = true →
      object.inFlight = some ticket ∧ ticket.request.transport = transport
  order : ∀ transport, (enqueued (transportLabels transport labels)).Sublist (issues labels)
  placed : ∀ transport, ∀ ticket ∈ enqueued (transportLabels transport labels),
    ticket.request.transport = transport
  unpushed : ∀ transport ticket, object.inFlight = some ticket →
    ((object.transports transport).caller ticket).beforePush = true →
      (enqueued (transportLabels transport labels)).Sublist ((answers labels).map Prod.fst)

omit [DecidableEq θ] [DecidableEq τ] in
theorem Ticket.entry_ne_enqueue (ticket other : Ticket τ sizeT) : ticket.entry ≠ .enqueue other := by
  rw [Ticket.entry]
  split <;> exact nofun

omit [DecidableEq θ] [DecidableEq τ] in
theorem Ticket.entry_caller (ticket : Ticket τ sizeT) : ticket.entry.caller = some ticket := by
  rw [Ticket.entry]
  split <;> rfl

omit [Commons] [DecidableEq θ] in
theorem setTransport_transports (transport other : τ)
    (state : WiaTransport (Ticket τ sizeT) sizeT) :
    (self.setTransport transport state).transports other =
      if other = transport then state else self.transports other := by
  simp [Assembly.setTransport, Function.update_apply]

omit [DecidableEq θ] in
/-- A step of one transport continues its run, and leaves those of the others. -/
theorem wiaRun_setTransport {transport : τ} {moved : Wia.Label (Ticket τ sizeT) sizeT}
    {state : WiaTransport (Ticket τ sizeT) sizeT}
    (runs : ∀ other, WiaRun (deviceId other) Ticket.arguments (transportLabels other labels)
      (self.transports other))
    (step : Wia.Step (deviceId transport) Ticket.arguments (self.transports transport) moved state)
    (other : τ) :
    WiaRun (deviceId other) Ticket.arguments
      (transportLabels other labels ++ if transport = other then [moved] else [])
      ((self.setTransport transport state).transports other) := by
  rw [setTransport_transports]
  split
  · rename_i same
    subst same
    rw [if_pos rfl]
    exact .snoc (runs _) step
  · rename_i different
    rw [if_neg (Ne.symm different), List.append_nil]
    exact runs other

omit [DecidableEq θ] in
/-- What a call has returned stays, whatever a transport does. -/
theorem returned_setTransport {transport : τ} {moved : Wia.Label (Ticket τ sizeT) sizeT}
    {state : WiaTransport (Ticket τ sizeT) sizeT}
    (step : Wia.Step (deviceId transport) Ticket.arguments (self.transports transport) moved state)
    {ticket : Ticket τ sizeT} {reply : EscapeResult sizeT}
    (returned : (self.transports ticket.request.transport).caller ticket = .returned reply) :
    ((self.setTransport transport state).transports ticket.request.transport).caller ticket =
      .returned reply := by
  rw [setTransport_transports]
  split
  · rename_i same
    rw [same] at returned
    exact (step.returned returned).1
  · exact returned

/-! ## The API lock -/

/-- The API lock lets one thread at a time into `Escape`: whoever waits for a reply holds the
lock, so the call in flight is the only one. -/
theorem inFlight_eq_some_iff (object : Assembly θ τ sizeT)
    {threads : List (ThreadLabel θ τ sizeT)} (run : ThreadRun threads object.api)
    (awaited : ∀ thread ticket, object.pending thread = some ticket →
      ∃ op resume, object.api.phase thread = .running op (.call ticket.request resume))
    {ticket : Ticket τ sizeT} :
    object.inFlight = some ticket ↔ ∃ thread, object.pending thread = some ticket := by
  rw [Assembly.inFlight, Option.bind_eq_some_iff]
  constructor
  · intro waits
    rcases waits with ⟨thread, _, waits⟩
    exact ⟨thread, waits⟩
  · intro waits
    rcases waits with ⟨thread, waits⟩
    rcases awaited thread ticket waits with ⟨op, resume, runs⟩
    rcases Guarded.Run.linearizes run with ⟨calls, pending, lin⟩
    exact ⟨thread, lin.holder_eq runs, waits⟩

theorem StackInvariant.inFlight_iff (inv : StackInvariant deviceId labels self)
    {ticket : Ticket τ sizeT} :
    self.inFlight = some ticket ↔ ∃ thread, self.pending thread = some ticket :=
  inFlight_eq_some_iff self inv.api inv.awaited

/-- A thread that runs and is not in `Escape` finds no other one there. -/
theorem StackInvariant.inFlight_eq_none (inv : StackInvariant deviceId labels self) {thread : θ}
    {op : Impl.PublicCall τ} {rest : Impl.Escaping τ sizeT (Impl.Answer × Impl.SonyPTP3Impl τ)}
    (nothing : self.pending thread = none) (runs : self.api.phase thread = .running op rest) :
    self.inFlight = none := by
  rcases Guarded.Run.linearizes inv.api with ⟨calls, pending, lin⟩
  rw [Assembly.inFlight, lin.holder_eq runs, Option.bind_some, nothing]

/-- A thread in `Escape` goes on waiting through the steps of the others. -/
theorem StackInvariant.awaited_step (inv : StackInvariant deviceId labels self)
    {threadLabel : ThreadLabel θ τ sizeT} {api : SharedSony θ τ sizeT}
    (step : Guarded.Step sonyInterface self.api threadLabel api)
    (silent : threadLabel.exchanged = none) (thread : θ) (ticket : Ticket τ sizeT)
    (waits : self.pending thread = some ticket) :
    ∃ op resume, api.phase thread = .running op (.call ticket.request resume) := by
  rcases inv.awaited thread ticket waits with ⟨op, resume, runs⟩
  exact ⟨op, resume, step.running_of_silent silent runs⟩

/-- The `Escape` call that a thread begins is the one in flight. -/
theorem StackInvariant.inFlight_issue (inv : StackInvariant deviceId labels self) {thread : θ}
    {op : Impl.PublicCall τ} {rest : Impl.Escaping τ sizeT (Impl.Answer × Impl.SonyPTP3Impl τ)}
    (runs : self.api.phase thread = .running op rest) (ticket : Ticket τ sizeT)
    (transports : τ → WiaTransport (Ticket τ sizeT) sizeT) (issued : Nat) :
    (Assembly.mk self.api transports issued
      (Function.update self.pending thread (some ticket))).inFlight = some ticket := by
  rcases Guarded.Run.linearizes inv.api with ⟨calls, pending, lin⟩
  rw [Assembly.inFlight, lin.holder_eq runs, Option.bind_some]
  exact Function.update_self _ _ _

/-- The one that is answered was in flight, and then none is. -/
theorem StackInvariant.inFlight_answer (inv : StackInvariant deviceId labels self) {thread : θ}
    {ticket : Ticket τ sizeT} {reply : EscapeResult sizeT} {api : SharedSony θ τ sizeT}
    (waits : self.pending thread = some ticket)
    (step : Guarded.Step sonyInterface self.api (.exchange thread ticket.request reply) api) :
    self.inFlight = some ticket ∧
      { self with api := api, pending := Function.update self.pending thread none }.inFlight =
        none := by
  refine ⟨inv.inFlight_iff.mpr ⟨thread, waits⟩, ?_⟩
  rcases inv.awaited thread ticket waits with ⟨op, resume, runs⟩
  rcases Guarded.Run.linearizes inv.api with ⟨calls, pending, lin⟩
  have held : api.holder = some thread := by
    cases step
    exact lin.holder_eq runs
  rw [Assembly.inFlight, held, Option.bind_some]
  exact Function.update_self _ _ _

/-- No step of a public function but an `Escape` call changes which one is in flight. -/
theorem StackInvariant.inFlight_api (inv : StackInvariant deviceId labels self)
    {threadLabel : ThreadLabel θ τ sizeT} {api : SharedSony θ τ sizeT}
    (step : Guarded.Step sonyInterface self.api threadLabel api)
    (silent : threadLabel.exchanged = none) :
    { self with api := api }.inFlight = self.inFlight := by
  have run : ThreadRun (threadLabels labels ++ [threadLabel]) api := .snoc inv.api step
  refine Option.ext fun ticket => ?_
  have after : { self with api := api }.inFlight = some ticket ↔
      ∃ thread, self.pending thread = some ticket :=
    inFlight_eq_some_iff { self with api := api } run (inv.awaited_step step silent)
  rw [inv.inFlight_iff, after]

theorem StackInvariant.api_step (inv : StackInvariant deviceId labels self)
    {threadLabel : ThreadLabel θ τ sizeT} {api : SharedSony θ τ sizeT}
    (step : Guarded.Step sonyInterface self.api threadLabel api)
    (silent : threadLabel.exchanged = none) :
    StackInvariant deviceId (labels ++ [.api threadLabel]) { self with api := api } := by
  have sameThreads : threadLabels (labels ++ [.api threadLabel]) =
      threadLabels labels ++ [threadLabel] := filterMap_snoc _ _ _
  have sameTransports (transport : τ) : transportLabels transport (labels ++ [.api threadLabel]) =
      transportLabels transport labels := by
    simp [transportLabels, Label.forTransport]
  have sameIssues : issues (labels ++ [.api threadLabel]) = issues labels := by
    simp [issues, Label.issued]
  have sameAnswers : answers (labels ++ [.api threadLabel]) = answers labels := by
    simp [answers, Label.answered]
  have sameInFlight := inv.inFlight_api step silent
  refine ⟨?_, ?_, ?_, ?_, ?_, ?_, inv.awaited_step step silent, ?_, ?_, ?_, ?_⟩
  · rw [sameThreads]
    exact .snoc inv.api step
  · intro transport
    rw [sameTransports]
    exact inv.transports transport
  · rw [sameIssues]
    exact inv.numbered
  · rw [sameIssues, sameAnswers, sameInFlight]
    exact inv.accounted
  · rw [sameThreads, sameAnswers, ← inv.exchanged]
    simp [Guarded.exchanges, silent]
  · rw [sameAnswers]
    exact inv.returned
  · rw [sameInFlight]
    exact inv.inside
  · intro transport
    rw [sameTransports, sameIssues]
    exact inv.order transport
  · intro transport
    rw [sameTransports]
    exact inv.placed transport
  · intro transport
    rw [sameTransports, sameAnswers, sameInFlight]
    exact inv.unpushed transport

theorem StackInvariant.issue_step (inv : StackInvariant deviceId labels self) {thread : θ}
    {op : Impl.PublicCall τ} {ticket : Ticket τ sizeT}
    {resume : EscapeResult sizeT → Impl.Escaping τ sizeT (Impl.Answer × Impl.SonyPTP3Impl τ)}
    {state : WiaTransport (Ticket τ sizeT) sizeT} (nothing : self.pending thread = none)
    (runs : self.api.phase thread = .running op (.call ticket.request resume))
    (number : ticket.number = self.issued)
    (step : Wia.Step (deviceId ticket.request.transport) Ticket.arguments
      (self.transports ticket.request.transport) ticket.entry state) :
    StackInvariant deviceId (labels ++ [.issue thread ticket])
      { self.setTransport ticket.request.transport state with
        issued := self.issued + 1
        pending := Function.update self.pending thread (some ticket) } := by
  have nothing := inv.inFlight_eq_none nothing runs
  have inFlight := inv.inFlight_issue runs ticket
    (self.setTransport ticket.request.transport state).transports (self.issued + 1)
  have sameThreads : threadLabels (labels ++ [.issue thread ticket]) = threadLabels labels := by
    simp [threadLabels, Label.forThreads]
  have sameAnswers : answers (labels ++ [.issue thread ticket]) = answers labels := by
    simp [answers, Label.answered]
  have newIssues : issues (labels ++ [.issue thread ticket]) = issues labels ++ [ticket] :=
    filterMap_snoc _ _ _
  have newTransports (transport : τ) :
      transportLabels transport (labels ++ [.issue thread ticket]) =
        transportLabels transport labels ++
          (if ticket.request.transport = transport then [ticket.entry] else []) := by
    rw [transportLabels, filterMap_snoc, Label.forTransport]
    split <;> rfl
  have sameEnqueued (transport : τ) :
      enqueued (transportLabels transport (labels ++ [.issue thread ticket])) =
        enqueued (transportLabels transport labels) := by
    rw [newTransports]
    split
    · exact Wia.enqueued_snoc_of_ne ticket.entry_ne_enqueue
    · rw [List.append_nil]
  have allAnswered : issues labels = (answers labels).map Prod.fst := by
    rw [inv.accounted, nothing, Option.toList_none, List.append_nil]
  have nobody (transport : τ) (other : Ticket τ sizeT) :
      ((self.transports transport).caller other).inside = false := by
    by_contra somebody
    have waits := (inv.inside transport other (Bool.eq_true_of_not_eq_false somebody)).1
    rw [nothing] at waits
    cases waits
  have sameCaller {other : Ticket τ sizeT} (different : other ≠ ticket) :
      state.caller other = (self.transports ticket.request.transport).caller other := by
    refine step.caller_of_ne ?_
    rw [ticket.entry_caller]
    intro same
    exact different (Option.some.inj same).symm
  refine ⟨?_, ?_, ?_, ?_, ?_, ?_, ?_, ?_, ?_, ?_, ?_⟩
  · rw [sameThreads]
    exact inv.api
  · intro transport
    rw [newTransports]
    exact wiaRun_setTransport inv.transports step transport
  · rw [newIssues, List.map_append, inv.numbered, List.map_singleton, number, List.range_succ]
  · rw [newIssues, sameAnswers, allAnswered]
    exact congrArg _ (congrArg Option.toList inFlight.symm)
  · rw [sameThreads, sameAnswers]
    exact inv.exchanged
  · intro other reply given
    rw [sameAnswers] at given
    exact returned_setTransport step (inv.returned other reply given)
  · intro other another waits
    simp only [Function.update_apply] at waits
    split at waits
    · rename_i same
      cases waits
      rw [same]
      exact ⟨op, resume, runs⟩
    · exact inv.awaited other another waits
  · intro transport other inside
    simp only [setTransport_transports] at inside
    split at inside
    · rename_i here
      by_cases same : other = ticket
      · rw [same]
        exact ⟨inFlight, here.symm⟩
      · rw [sameCaller same, nobody] at inside
        cases inside
    · rw [nobody] at inside
      cases inside
  · intro transport
    rw [sameEnqueued, newIssues]
    exact (inv.order transport).trans (List.sublist_append_left _ _)
  · intro transport
    rw [sameEnqueued]
    exact inv.placed transport
  · intro transport _ _ _
    rw [sameEnqueued, sameAnswers, ← allAnswered]
    exact inv.order transport

theorem StackInvariant.answer_step (inv : StackInvariant deviceId labels self) {thread : θ}
    {ticket : Ticket τ sizeT} {reply : EscapeResult sizeT} {api : SharedSony θ τ sizeT}
    (waits : self.pending thread = some ticket)
    (returned : (self.transports ticket.request.transport).caller ticket = .returned reply)
    (step : Guarded.Step sonyInterface self.api (.exchange thread ticket.request reply) api) :
    StackInvariant deviceId (labels ++ [.answer thread ticket reply])
      { self with api := api, pending := Function.update self.pending thread none } := by
  rcases inv.inFlight_answer waits step with ⟨inFlight, nothing⟩
  have newThreads : threadLabels (labels ++ [.answer thread ticket reply]) =
      threadLabels labels ++ [.exchange thread ticket.request reply] := filterMap_snoc _ _ _
  have newAnswers : answers (labels ++ [.answer thread ticket reply]) =
      answers labels ++ [(ticket, reply)] := filterMap_snoc _ _ _
  have sameIssues : issues (labels ++ [.answer thread ticket reply]) = issues labels := by
    simp [issues, Label.issued]
  have sameTransports (transport : τ) :
      transportLabels transport (labels ++ [.answer thread ticket reply]) =
        transportLabels transport labels := by
    simp [transportLabels, Label.forTransport]
  refine ⟨?_, ?_, ?_, ?_, ?_, ?_, ?_, ?_, ?_, ?_, ?_⟩
  · rw [newThreads]
    exact .snoc inv.api step
  · intro transport
    rw [sameTransports]
    exact inv.transports transport
  · rw [sameIssues]
    exact inv.numbered
  · rw [sameIssues, newAnswers, inv.accounted, inFlight, nothing]
    simp
  · rw [newThreads, newAnswers, List.map_append, ← inv.exchanged]
    simp [Guarded.exchanges, Guarded.Label.exchanged, toExchange]
  · intro other result given
    rw [newAnswers, List.mem_append] at given
    rcases given with old | new
    · exact inv.returned other result old
    · cases List.mem_singleton.mp new
      exact returned
  · intro other another waiting
    simp only [Function.update_apply] at waiting
    split at waiting
    · cases waiting
    · rename_i different
      rcases inv.awaited other another waiting with ⟨op, resume, runs⟩
      cases step
      refine ⟨op, resume, ?_⟩
      rw [Guarded.setPhase_phase, if_neg different, runs]
  · intro transport other inside
    rcases inv.inside transport other inside with ⟨again, here⟩
    rw [inFlight] at again
    cases again
    have ended := congrArg Wia.Caller.inside returned
    rw [here, inside] at ended
    cases ended
  · intro transport
    rw [sameTransports, sameIssues]
    exact inv.order transport
  · intro transport
    rw [sameTransports]
    exact inv.placed transport
  · intro transport other waiting
    rw [nothing] at waiting
    cases waiting

/-- Only the call in flight can push its task, and it has not done so before. -/
theorem StackInvariant.pushes_inFlight (inv : StackInvariant deviceId labels self) {transport : τ}
    {ticket : Ticket τ sizeT} {state : WiaTransport (Ticket τ sizeT) sizeT}
    (step : Wia.Step (deviceId transport) Ticket.arguments (self.transports transport)
      (.enqueue ticket) state) :
    self.inFlight = some ticket ∧ ticket.request.transport = transport ∧
      (enqueued (transportLabels transport labels)).Sublist ((answers labels).map Prod.fst) := by
  have before := step.beforePush_of_enqueue rfl
  have here : self.inFlight = some ticket ∧ ticket.request.transport = transport := by
    refine inv.inside transport ticket ?_
    cases step with
    | enqueue ready =>
        rw [ready]
        rfl
  exact ⟨here.1, here.2, inv.unpushed transport ticket here.1 before⟩

theorem StackInvariant.transport_step (inv : StackInvariant deviceId labels self) {transport : τ}
    {moved : Wia.Label (Ticket τ sizeT) sizeT} {state : WiaTransport (Ticket τ sizeT) sizeT}
    (step : Wia.Step (deviceId transport) Ticket.arguments (self.transports transport) moved state)
    (internal : Internal moved) :
    StackInvariant deviceId (labels ++ [.transport transport moved])
      (self.setTransport transport state) := by
  have sameThreads : threadLabels (labels ++ [.transport transport moved]) =
      threadLabels labels := by
    simp [threadLabels, Label.forThreads]
  have sameAnswers : answers (labels ++ [.transport transport moved]) = answers labels := by
    simp [answers, Label.answered]
  have sameIssues : issues (labels ++ [.transport transport moved]) = issues labels := by
    simp [issues, Label.issued]
  have newTransports (other : τ) :
      transportLabels other (labels ++ [.transport transport moved]) =
        transportLabels other labels ++ (if transport = other then [moved] else []) := by
    rw [transportLabels, filterMap_snoc, Label.forTransport]
    split <;> rfl
  have notMade (ticket : Ticket τ sizeT) : moved ≠ .call ticket := by
    intro same
    rw [same] at internal
    exact internal
  have pushed (ticket : Ticket τ sizeT) (pushes : moved = .enqueue ticket) :=
    inv.pushes_inFlight (pushes ▸ step)
  refine ⟨?_, ?_, ?_, ?_, ?_, ?_, inv.awaited, ?_, ?_, ?_, ?_⟩
  · rw [sameThreads]
    exact inv.api
  · intro other
    rw [newTransports]
    exact wiaRun_setTransport inv.transports step other
  · rw [sameIssues]
    exact inv.numbered
  · rw [sameIssues, sameAnswers]
    exact inv.accounted
  · rw [sameThreads, sameAnswers]
    exact inv.exchanged
  · intro ticket reply given
    rw [sameAnswers] at given
    exact returned_setTransport step (inv.returned ticket reply given)
  · intro other ticket inside
    rw [setTransport_transports] at inside
    split at inside
    · rename_i same
      rw [same]
      exact inv.inside transport ticket (step.inside (notMade ticket) inside)
    · exact inv.inside other ticket inside
  · intro other
    rw [newTransports, sameIssues]
    split
    · rename_i same
      subst same
      by_cases pushes : ∃ ticket, moved = .enqueue ticket
      · rcases pushes with ⟨ticket, pushes⟩
        rcases pushed ticket pushes with ⟨inFlight, _, earlier⟩
        rw [inv.accounted, inFlight, pushes, enqueued, SingleServer.arrivals_append]
        exact earlier.append (List.Sublist.refl _)
      · rw [Wia.enqueued_snoc_of_ne fun ticket same => pushes ⟨ticket, same⟩]
        exact inv.order _
    · rw [List.append_nil]
      exact inv.order other
  · intro other ticket membership
    rw [newTransports, enqueued, SingleServer.arrivals_append, List.mem_append] at membership
    rcases membership with old | new
    · exact inv.placed other ticket old
    · split at new
      · rename_i same
        rcases SingleServer.mem_arrivals.mp new with ⟨label, isMoved, pushes⟩
        rw [List.mem_singleton.mp isMoved, Wia.queueAction_eq_arrived_iff] at pushes
        rw [← same]
        exact (pushed ticket pushes).2.1
      · cases new
  · intro other ticket inFlight before
    rw [setTransport_transports] at before
    rw [newTransports, sameAnswers]
    split at before
    · rename_i same
      subst same
      rcases step.beforePush before with ⟨earlier, notPushed⟩
      have nothingPushed (pushing : Ticket τ sizeT) : moved ≠ .enqueue pushing := by
        intro pushes
        have again := (pushed pushing pushes).1
        rw [show self.inFlight = some ticket from inFlight] at again
        cases again
        exact notPushed pushes
      rw [if_pos rfl, Wia.enqueued_snoc_of_ne nothingPushed]
      exact inv.unpushed _ ticket inFlight earlier
    · rename_i different
      rw [if_neg (Ne.symm different), List.append_nil]
      exact inv.unpushed other ticket inFlight before

theorem StackRun.stackInvariant (run : StackRun deviceId labels self) :
    StackInvariant deviceId labels self := by
  induction run with
  | start begins =>
      rw [begins]
      refine ⟨.start rfl, fun _ => .start rfl, rfl, rfl, rfl, nofun, nofun, nofun, ?_, nofun, nofun⟩
      exact fun _ => List.Sublist.refl _
  | snoc _ step inv =>
      cases step with
      | api step silent => exact inv.api_step step silent
      | issue nothing runs number step => exact inv.issue_step nothing runs number step
      | transport step internal => exact inv.transport_step step internal
      | answer waits returned step => exact inv.answer_step waits returned step

end SimpleCamCtrl.Stack
