import SimpleCamCtrl.Library.Contract
import Mathlib.Logic.Function.Basic

/-!
# Objects guarded by a lock

Any number of threads call one object, whose operations are interactive programs.  Each
call waits for the lock and then runs, one exchange with the environment a step, or gives
up waiting and answers without having run.  What a call does to the object shows when it
completes, since nobody reads the object without the lock.

Every such run is a sequential run of the same calls, in the order of their answers.
-/

/-- How far the call of a thread has come. -/
inductive Guarded.Phase (ω κ ρ σ β : Type) where
  | idle
  /-- Waiting for the lock. -/
  | waiting (op : ω)
  /-- Holding the lock; what is left to do. -/
  | running (op : ω) (rest : Interaction κ ρ (β × σ))

/-- An object with the threads that call it. -/
structure Guarded (θ ω κ ρ σ β : Type) where
  object : σ
  holder : Option θ := none
  phase : θ → Guarded.Phase ω κ ρ σ β := fun _ => .idle

namespace Guarded

variable {θ ω κ ρ σ β : Type}

/-- What an object offers: the program of each operation, and the answer of a call that has
not got the lock. -/
structure Interface (ω κ ρ σ β : Type) where
  initial : σ
  body : σ → ω → Interaction κ ρ (β × σ)
  refusal : ω → β

inductive Label (θ ω κ ρ β : Type) where
  | invoke (thread : θ) (op : ω)
  | acquire (thread : θ)
  | exchange (thread : θ) (request : κ) (reply : ρ)
  | complete (thread : θ) (op : ω) (answer : β)
  | giveUp (thread : θ) (op : ω) (answer : β)

section Steps

variable [DecidableEq θ]

def setPhase (self : Guarded θ ω κ ρ σ β) (thread : θ) (phase : Phase ω κ ρ σ β) :
    Guarded θ ω κ ρ σ β :=
  { self with phase := Function.update self.phase thread phase }

inductive Step (offers : Interface ω κ ρ σ β) (self : Guarded θ ω κ ρ σ β) :
    Label θ ω κ ρ β → Guarded θ ω κ ρ σ β → Prop where
  | invoke {thread : θ} {op : ω} :
      self.phase thread = .idle →
      Step offers self (.invoke thread op) (self.setPhase thread (.waiting op))
  | acquire {thread : θ} {op : ω} :
      self.phase thread = .waiting op → self.holder = none →
      Step offers self (.acquire thread)
        { self.setPhase thread (.running op (offers.body self.object op)) with
          holder := some thread }
  | exchange {thread : θ} {op : ω} {request : κ} {reply : ρ}
      {resume : ρ → Interaction κ ρ (β × σ)} :
      self.phase thread = .running op (.call request resume) →
      Step offers self (.exchange thread request reply)
        (self.setPhase thread (.running op (resume reply)))
  | complete {thread : θ} {op : ω} {answer : β} {object : σ} :
      self.phase thread = .running op (.done (answer, object)) →
      Step offers self (.complete thread op answer)
        { self.setPhase thread .idle with object := object, holder := none }
  | giveUp {thread : θ} {op : ω} :
      self.phase thread = .waiting op →
      Step offers self (.giveUp thread op (offers.refusal op)) (self.setPhase thread .idle)

/-- Runs in which the threads take steps in any order. -/
abbrev Run (offers : Interface ω κ ρ σ β) :
    List (Label θ ω κ ρ β) → Guarded θ ω κ ρ σ β → Prop :=
  History.Run (· = { object := offers.initial }) fun _ => Step offers

end Steps

/-- The exchange that a step makes. -/
def Label.exchanged : Label θ ω κ ρ β → Option (κ × ρ)
  | exchange _ request reply => some (request, reply)
  | invoke _ _ | acquire _ | complete _ _ _ | giveUp _ _ _ => none

/-- The answer that a step gives: the thread, the operation and its result. -/
def Label.answered : Label θ ω κ ρ β → Option (θ × ω × β)
  | complete thread op answer | giveUp thread op answer => some (thread, op, answer)
  | invoke _ _ | acquire _ | exchange _ _ _ => none

/-- All exchanges with the environment, in order. -/
def exchanges (labels : List (Label θ ω κ ρ β)) : List (κ × ρ) :=
  labels.filterMap Label.exchanged

/-- All answers, in order. -/
def answers (labels : List (Label θ ω κ ρ β)) : List (θ × ω × β) :=
  labels.filterMap Label.answered

/-- A call as it happened: who made it, whether it got the lock, the state it found, its
exchanges, its answer and the state it left. -/
structure Call (θ ω κ ρ σ β : Type) where
  thread : θ
  op : ω
  locked : Bool
  before : σ
  exchanges : List (κ × ρ)
  answer : β
  after : σ

/-- What the caller sees of a call. -/
def Call.answered (call : Call θ ω κ ρ σ β) : θ × ω × β := (call.thread, call.op, call.answer)

/-- One call with nothing in between. -/
structure Performs (offers : Interface ω κ ρ σ β) (state : σ) (call : Call θ ω κ ρ σ β)
    (state' : σ) : Prop where
  found : state = call.before
  executes :
    if call.locked then
      Interaction.Exec (offers.body call.before call.op) call.exchanges (call.answer, call.after)
    else
      call.exchanges = [] ∧ call.answer = offers.refusal call.op ∧ call.after = call.before
  left : state' = call.after

/-- Runs of one call after the other. -/
abbrev CallRun (offers : Interface ω κ ρ σ β) : List (Call θ ω κ ρ σ β) → σ → Prop :=
  History.Run (· = offers.initial) fun _ => Performs offers

/-! ## Linearization -/

/-- The answers of an interleaving are those of these calls made one after the other, and
its exchanges are theirs, up to the pending ones of the call that holds the lock. -/
structure Linearizes (offers : Interface ω κ ρ σ β) (labels : List (Label θ ω κ ρ β))
    (state : Guarded θ ω κ ρ σ β) (calls : List (Call θ ω κ ρ σ β)) (pending : List (κ × ρ)) :
    Prop where
  run : CallRun offers calls state.object
  answered : calls.map Call.answered = answers labels
  exchanged : exchanges labels = calls.flatMap Call.exchanges ++ pending
  holds : ∀ thread, state.holder = some thread ↔ ∃ op rest, state.phase thread = .running op rest
  free : state.holder = none → pending = []
  running : ∀ thread op rest, state.phase thread = .running op rest →
    ∀ more result, Interaction.Exec rest more result →
      Interaction.Exec (offers.body state.object op) (pending ++ more) result

section Linearization

variable [DecidableEq θ] {offers : Interface ω κ ρ σ β} {labels : List (Label θ ω κ ρ β)}
variable {label : Label θ ω κ ρ β} {self next : Guarded θ ω κ ρ σ β}
variable {calls : List (Call θ ω κ ρ σ β)} {pending : List (κ × ρ)} {thread : θ}

theorem setPhase_phase (other : θ) (phase : Phase ω κ ρ σ β) :
    (self.setPhase thread phase).phase other =
      if other = thread then phase else self.phase other := by
  simp [setPhase, Function.update_apply]

omit [DecidableEq θ] in
/-- The call that runs is that of the holder. -/
theorem Linearizes.holder_eq (lin : Linearizes offers labels self calls pending) {op : ω}
    {rest : Interaction κ ρ (β × σ)} (runs : self.phase thread = .running op rest) :
    self.holder = some thread :=
  (lin.holds thread).mpr ⟨op, rest, runs⟩

omit [DecidableEq θ] in
/-- No two threads run a call at once. -/
theorem Linearizes.exclusive (lin : Linearizes offers labels self calls pending) {other : θ}
    {op op' : ω} {rest rest' : Interaction κ ρ (β × σ)}
    (runs : self.phase thread = .running op rest)
    (runs' : self.phase other = .running op' rest') : thread = other := by
  have first := lin.holder_eq runs
  have second := lin.holder_eq runs'
  rw [first] at second
  exact Option.some.inj second

/-- A thread that neither ran nor runs does not change who does. -/
theorem running_setPhase {phase : Phase ω κ ρ σ β}
    (before : ∀ op rest, self.phase thread ≠ .running op rest)
    (after : ∀ op rest, phase ≠ .running op rest) (other : θ) (op : ω)
    (rest : Interaction κ ρ (β × σ)) :
    (self.setPhase thread phase).phase other = .running op rest ↔
      self.phase other = .running op rest := by
  rw [setPhase_phase]
  split
  · rename_i same
    rw [same]
    exact ⟨fun runs => (after op rest runs).elim, fun runs => (before op rest runs).elim⟩
  · exact Iff.rfl

/-- A step of a thread that waits or starts to wait; a refused call may be added. -/
theorem Linearizes.of_not_running (lin : Linearizes offers labels self calls pending)
    {phase : Phase ω κ ρ σ β} {more : List (Call θ ω κ ρ σ β)}
    (before : ∀ op rest, self.phase thread ≠ .running op rest)
    (after : ∀ op rest, phase ≠ .running op rest)
    (run : CallRun offers (calls ++ more) self.object)
    (silent : label.exchanged = none) (nothing : more.flatMap Call.exchanges = [])
    (answered : more.map Call.answered = label.answered.toList) :
    Linearizes offers (labels ++ [label]) (self.setPhase thread phase) (calls ++ more)
      pending := by
  have same (other : θ) (op : ω) (rest : Interaction κ ρ (β × σ)) :
      (self.setPhase thread phase).phase other = .running op rest ↔
        self.phase other = .running op rest := running_setPhase before after other op rest
  refine ⟨run, ?_, ?_, ?_, lin.free, ?_⟩
  · rw [List.map_append, lin.answered, answered]
    cases given : label.answered <;> simp [answers, given]
  · rw [List.flatMap_append, nothing, List.append_nil, ← lin.exchanged]
    simp [exchanges, silent]
  · intro other
    simp only [same]
    exact lin.holds other
  · intro other op rest runs
    rw [same] at runs
    exact lin.running other op rest runs

/-- The holder of the lock has made nothing so far. -/
theorem Linearizes.acquire (lin : Linearizes offers labels self calls pending) {op : ω}
    (free : self.holder = none) :
    Linearizes offers (labels ++ [.acquire thread])
      { self.setPhase thread (.running op (offers.body self.object op)) with
        holder := some thread } calls [] := by
  have nobody (other : θ) (op' : ω) (rest : Interaction κ ρ (β × σ)) :
      self.phase other ≠ .running op' rest := by
    intro runs
    have held := lin.holder_eq runs
    rw [free] at held
    cases held
  refine ⟨lin.run, ?_, ?_, ?_, fun _ => rfl, ?_⟩
  · rw [lin.answered]
    simp [answers, Label.answered]
  · have whole := lin.exchanged
    rw [lin.free free] at whole
    rw [← whole]
    simp [exchanges, Label.exchanged]
  · intro other
    simp only [setPhase_phase, Option.some.injEq]
    split
    · rename_i same
      exact ⟨fun _ => ⟨_, _, rfl⟩, fun _ => same.symm⟩
    · rename_i different
      refine ⟨fun same => (different same.symm).elim, ?_⟩
      intro runs
      rcases runs with ⟨op', rest, runs⟩
      exact (nobody other op' rest runs).elim
  · intro other op' rest runs more result execution
    simp only [setPhase_phase] at runs
    split at runs
    · cases runs
      exact execution
    · exact (nobody other op' rest runs).elim

/-- The exchange of the holder is a pending one. -/
theorem Linearizes.exchange (lin : Linearizes offers labels self calls pending) {op : ω}
    {request : κ} {reply : ρ} {resume : ρ → Interaction κ ρ (β × σ)}
    (runs : self.phase thread = .running op (.call request resume)) :
    Linearizes offers (labels ++ [.exchange thread request reply])
      (self.setPhase thread (.running op (resume reply))) calls (pending ++ [(request, reply)]) := by
  refine ⟨lin.run, ?_, ?_, ?_, ?_, ?_⟩
  · rw [lin.answered]
    simp [answers, Label.answered]
  · rw [← List.append_assoc, ← lin.exchanged]
    simp [exchanges, Label.exchanged]
  · intro other
    change self.holder = some other ↔ _
    rw [lin.holds other]
    simp only [setPhase_phase]
    split
    · rename_i same
      rw [same]
      exact ⟨fun _ => ⟨_, _, rfl⟩, fun _ => ⟨_, _, runs⟩⟩
    · exact Iff.rfl
  · intro free
    have held := lin.holder_eq runs
    change self.holder = none at free
    rw [free] at held
    cases held
  · intro other op' rest runs' more result execution
    rw [setPhase_phase] at runs'
    split at runs'
    · cases runs'
      rw [List.append_assoc]
      exact lin.running thread op _ runs _ result (.call execution)
    · rename_i different
      exact (different (lin.exclusive runs' runs)).elim

/-- The call that ends is the next of the sequential run. -/
theorem Linearizes.complete (lin : Linearizes offers labels self calls pending) {op : ω}
    {answer : β} {object : σ} (runs : self.phase thread = .running op (.done (answer, object))) :
    Linearizes offers (labels ++ [.complete thread op answer])
      { self.setPhase thread .idle with object := object, holder := none }
      (calls ++ [⟨thread, op, true, self.object, pending, answer, object⟩]) [] := by
  have execution := lin.running thread op _ runs [] (answer, object) .done
  rw [List.append_nil] at execution
  have performs : Performs offers self.object
      ⟨thread, op, true, self.object, pending, answer, object⟩ object :=
    ⟨rfl, execution, rfl⟩
  have nobody (other : θ) (op' : ω) (rest : Interaction κ ρ (β × σ)) :
      (self.setPhase thread .idle).phase other ≠ .running op' rest := by
    intro runs'
    rw [setPhase_phase] at runs'
    split at runs'
    · cases runs'
    · rename_i different
      exact different (lin.exclusive runs' runs)
  refine ⟨.snoc lin.run performs, ?_, ?_, ?_, fun _ => rfl, ?_⟩
  · rw [List.map_append, lin.answered]
    simp [answers, Label.answered, Call.answered]
  · rw [List.flatMap_append, List.append_nil, List.flatMap_singleton, ← lin.exchanged]
    simp [exchanges, Label.exchanged]
  · intro other
    constructor
    · intro held
      cases held
    · intro runs'
      rcases runs' with ⟨op', rest, runs'⟩
      exact (nobody other op' rest runs').elim
  · intro other op' rest runs'
    exact (nobody other op' rest runs').elim

/-- One more step. -/
theorem Linearizes.step (lin : Linearizes offers labels self calls pending)
    (step : Step offers self label next) :
    ∃ calls' pending', Linearizes offers (labels ++ [label]) next calls' pending' := by
  cases step with
  | invoke idle =>
      refine ⟨calls ++ [], pending, lin.of_not_running ?_ ?_ ?_ rfl rfl rfl⟩
      · intro op rest runs
        rw [idle] at runs
        cases runs
      · exact fun op rest runs => nomatch runs
      · rw [List.append_nil]
        exact lin.run
  | giveUp waits =>
      rename_i thread op
      refine ⟨calls ++ [⟨thread, op, false, self.object, [], offers.refusal op, self.object⟩],
        pending, lin.of_not_running ?_ ?_ ?_ rfl rfl rfl⟩
      · intro op rest runs
        rw [waits] at runs
        cases runs
      · exact fun op rest runs => nomatch runs
      · exact .snoc lin.run ⟨rfl, ⟨rfl, rfl, rfl⟩, rfl⟩
  | acquire _ free => exact ⟨calls, [], lin.acquire free⟩
  | exchange runs => exact ⟨calls, _, lin.exchange runs⟩
  | complete runs => exact ⟨_, [], lin.complete runs⟩

/-- Every interleaving is a sequential run of the same calls in the order of their answers,
up to the exchanges of the call that holds the lock. -/
theorem Run.linearizes (run : Run offers labels self) :
    ∃ calls pending, Linearizes offers labels self calls pending := by
  induction run with
  | start begins =>
      rw [begins]
      refine ⟨[], [], .start rfl, rfl, rfl, ?_, fun _ => rfl, ?_⟩
      · intro thread
        constructor
        · intro held
          cases held
        · intro runs
          rcases runs with ⟨op, rest, runs⟩
          cases runs
      · intro thread op rest runs
        cases runs
  | snoc _ step ih =>
      rcases ih with ⟨calls, pending, lin⟩
      exact lin.step step

omit [DecidableEq θ] in
/-- The call that holds the lock can be run to its end, whatever the replies. -/
theorem Linearizes.completed (lin : Linearizes offers labels self calls pending) {op : ω}
    {rest : Interaction κ ρ (β × σ)} (runs : self.phase thread = .running op rest)
    {more : List (κ × ρ)} {answer : β} {object : σ}
    (execution : Interaction.Exec rest more (answer, object)) :
    CallRun offers (calls ++ [⟨thread, op, true, self.object, pending ++ more, answer, object⟩])
      object := by
  have performs : Performs offers self.object
      ⟨thread, op, true, self.object, pending ++ more, answer, object⟩ object :=
    ⟨rfl, lin.running thread op rest runs more _ execution, rfl⟩
  exact .snoc lin.run performs

/-- Only its own exchange moves a thread that waits for a reply. -/
theorem Step.running_of_silent (step : Step offers self label next)
    (silent : label.exchanged = none) {op : ω} {request : κ} {resume : ρ → Interaction κ ρ (β × σ)}
    (runs : self.phase thread = .running op (.call request resume)) :
    next.phase thread = .running op (.call request resume) := by
  have other {moved : θ} {phase : Phase ω κ ρ σ β} (different : thread ≠ moved) :
      (self.setPhase moved phase).phase thread = .running op (.call request resume) := by
    rw [setPhase_phase, if_neg different, runs]
  cases step with
  | invoke phase | acquire phase | complete phase | giveUp phase =>
      refine other ?_
      intro same
      rw [same, phase] at runs
      cases runs
  | exchange => cases silent

/-! ## Answers and invocations -/

/-- The step answers a call of the thread. -/
def Label.Answers (thread : θ) (label : Label θ ω κ ρ β) : Prop :=
  ∃ op answer, label.answered = some (thread, op, answer)

/-- The thread has made a call of the operation that has not been answered. -/
def Unanswered (labels : List (Label θ ω κ ρ β)) (thread : θ) (op : ω) : Prop :=
  History.Since (· = .invoke thread op) (Label.Answers thread) labels

/-- The thread is in a call of the operation. -/
def Phase.Calls (op : ω) (phase : Phase ω κ ρ σ β) : Prop :=
  phase = .waiting op ∨ ∃ rest, phase = .running op rest

/-- A step moves the thread into a call by invoking it, and out of it by an answer. -/
theorem Step.inCall (step : Step offers self label next) {op : ω}
    (inCall : (next.phase thread).Calls op) :
    label = .invoke thread op ∨ ((self.phase thread).Calls op ∧ ¬label.Answers thread) := by
  have other {moved : θ} {phase : Phase ω κ ρ σ β} (different : thread ≠ moved)
      (after : ((self.setPhase moved phase).phase thread).Calls op) :
      (self.phase thread).Calls op := by
    rwa [setPhase_phase, if_neg different] at after
  have ended {moved : θ} {op' : ω} {answer : β}
      (given : label.answered = some (moved, op', answer))
      (left : ∀ other, next.phase other = if other = moved then .idle else self.phase other) :
      label = .invoke thread op ∨ ((self.phase thread).Calls op ∧ ¬label.Answers thread) := by
    rw [left] at inCall
    split at inCall
    · rcases inCall with waits | ⟨rest, runs⟩
      · cases waits
      · cases runs
    · rename_i different
      refine Or.inr ⟨inCall, ?_⟩
      intro answers
      rcases answers with ⟨op'', answer', again⟩
      rw [given] at again
      cases again
      exact different rfl
  cases step with
  | invoke idle =>
      rename_i moved op'
      by_cases same : thread = moved
      · rw [same, setPhase_phase, if_pos rfl] at inCall
        rcases inCall with waits | ⟨rest, runs⟩
        · cases waits
          exact Or.inl (by rw [same])
        · cases runs
      · exact Or.inr ⟨other same inCall, by simp [Label.Answers, Label.answered]⟩
  | acquire waits free =>
      rename_i moved op'
      by_cases same : thread = moved
      · change ((self.setPhase moved _).phase thread).Calls op at inCall
        rw [same, setPhase_phase, if_pos rfl] at inCall
        rcases inCall with again | ⟨rest, runs⟩
        · cases again
        · cases runs
          rw [same]
          exact Or.inr ⟨Or.inl waits, by simp [Label.Answers, Label.answered]⟩
      · exact Or.inr ⟨other same inCall, by simp [Label.Answers, Label.answered]⟩
  | exchange runs =>
      rename_i moved op' request reply resume
      by_cases same : thread = moved
      · rw [same, setPhase_phase, if_pos rfl] at inCall
        rcases inCall with waits | ⟨rest, again⟩
        · cases waits
        · cases again
          rw [same]
          exact Or.inr ⟨Or.inr ⟨_, runs⟩, by simp [Label.Answers, Label.answered]⟩
      · exact Or.inr ⟨other same inCall, by simp [Label.Answers, Label.answered]⟩
  | complete runs => exact ended rfl fun other => setPhase_phase other .idle
  | giveUp waits => exact ended rfl fun other => setPhase_phase other .idle

/-- A call in progress has been made and not been answered. -/
theorem Run.unanswered (run : Run offers labels self) :
    ∀ thread op, (self.phase thread).Calls op → Unanswered labels thread op := by
  induction run with
  | start begins =>
      intro thread op inCall
      rw [begins] at inCall
      rcases inCall with waits | ⟨rest, runs⟩
      · cases waits
      · cases runs
  | snoc _ step ih =>
      intro thread op inCall
      rw [Unanswered, History.since_snoc]
      rcases step.inCall inCall with invoked | ⟨before, silent⟩
      · exact Or.inl invoked
      · exact Or.inr ⟨ih thread op before, silent⟩

/-- The call that a step answers was in progress. -/
theorem Step.inCall_of_answered (step : Step offers self label next) {op : ω} {answer : β}
    (answered : label.answered = some (thread, op, answer)) :
    (self.phase thread).Calls op := by
  cases step with
  | complete runs =>
      cases answered
      exact Or.inr ⟨_, runs⟩
  | giveUp waits =>
      cases answered
      exact Or.inl waits
  | invoke | acquire | exchange => cases answered

/-- Every answer is given to a call that its thread has made and that has had none yet. -/
theorem Run.each_answer_unanswered (run : Run offers labels self) :
    History.Each (fun before label => ∀ thread op answer,
      label.answered = some (thread, op, answer) → Unanswered before thread op) labels := by
  induction run with
  | start => exact History.each_nil
  | snoc earlier step ih =>
      rw [History.each_snoc]
      refine ⟨ih, ?_⟩
      intro thread op answer answered
      exact Run.unanswered earlier thread op (step.inCall_of_answered answered)

end Linearization

/-- What a schedule decides: which thread moves, and what it is asked for or told. -/
inductive Choice (θ ω ρ : Type) where
  | invoke (thread : θ) (op : ω)
  | acquire (thread : θ)
  | reply (thread : θ) (reply : ρ)
  | complete (thread : θ)
  | giveUp (thread : θ)

section Play

variable [DecidableEq θ] (offers : Interface ω κ ρ σ β) (self : Guarded θ ω κ ρ σ β)

/-- The step that a choice leads to, if it is possible. -/
def advance : Choice θ ω ρ → Option (Label θ ω κ ρ β × Guarded θ ω κ ρ σ β)
  | .invoke thread op =>
      match self.phase thread with
      | .idle => some (.invoke thread op, self.setPhase thread (.waiting op))
      | _ => none
  | .acquire thread =>
      match self.holder, self.phase thread with
      | none, .waiting op =>
          some (.acquire thread,
            { self.setPhase thread (.running op (offers.body self.object op)) with
              holder := some thread })
      | _, _ => none
  | .reply thread reply =>
      match self.phase thread with
      | .running op (.call request resume) =>
          some (.exchange thread request reply,
            self.setPhase thread (.running op (resume reply)))
      | _ => none
  | .complete thread =>
      match self.phase thread with
      | .running op (.done (answer, object)) =>
          some (.complete thread op answer,
            { self.setPhase thread .idle with object := object, holder := none })
      | _ => none
  | .giveUp thread =>
      match self.phase thread with
      | .waiting op =>
          some (.giveUp thread op (offers.refusal op), self.setPhase thread .idle)
      | _ => none

variable {offers self} {label : Label θ ω κ ρ β} {next : Guarded θ ω κ ρ σ β}

theorem step_of_advance {choice : Choice θ ω ρ}
    (advanced : advance offers self choice = some (label, next)) :
    Step offers self label next := by
  cases choice with
  | invoke thread op =>
      simp only [advance] at advanced
      split at advanced
      · rename_i idle
        cases advanced
        exact .invoke idle
      · cases advanced
  | acquire thread =>
      simp only [advance] at advanced
      split at advanced
      · rename_i free waits
        cases advanced
        exact .acquire waits free
      · cases advanced
  | reply thread reply =>
      simp only [advance] at advanced
      split at advanced
      · rename_i runs
        cases advanced
        exact .exchange runs
      · cases advanced
  | complete thread =>
      simp only [advance] at advanced
      split at advanced
      · rename_i runs
        cases advanced
        exact .complete runs
      · cases advanced
  | giveUp thread =>
      simp only [advance] at advanced
      split at advanced
      · rename_i waits
        cases advanced
        exact .giveUp waits
      · cases advanced

variable (offers) in
/-- The steps of a whole schedule; `none` when one of its choices is not possible. -/
def play : Guarded θ ω κ ρ σ β → List (Choice θ ω ρ) →
    Option (List (Label θ ω κ ρ β) × Guarded θ ω κ ρ σ β)
  | self, [] => some ([], self)
  | self, choice :: choices =>
      (advance offers self choice).bind fun stepped =>
        (play stepped.2 choices).map fun rest => (stepped.1 :: rest.1, rest.2)

theorem path_of_play {choices : List (Choice θ ω ρ)} {labels : List (Label θ ω κ ρ β)}
    (played : play offers self choices = some (labels, next)) :
    History.Path (Step offers) self labels next := by
  induction choices generalizing self labels with
  | nil =>
      cases played
      exact .nil
  | cons choice choices ih =>
      simp only [play, Option.bind_eq_some_iff, Option.map_eq_some_iff, Prod.mk.injEq] at played
      rcases played with ⟨⟨label, middle⟩, advanced, ⟨later, final⟩, rest, rfl, rfl⟩
      exact .cons (step_of_advance advanced) (ih rest)

variable (offers) in
/-- The steps of a schedule that starts with a new object. -/
def playedLabels (choices : List (Choice θ ω ρ)) : List (Label θ ω κ ρ β) :=
  ((play offers { object := offers.initial } choices).map Prod.fst).getD []

theorem run_of_play {choices : List (Choice θ ω ρ)}
    (plays : (play offers { object := offers.initial } choices).isSome = true) :
    ∃ final, Run offers (playedLabels offers choices) final := by
  rcases Option.isSome_iff_exists.mp plays with ⟨⟨labels, final⟩, played⟩
  have start : Run offers ([] : List (Label θ ω κ ρ β)) { object := offers.initial } := .start rfl
  refine ⟨final, ?_⟩
  rw [playedLabels, played]
  exact start.append_path (path_of_play played)

end Play

end Guarded
