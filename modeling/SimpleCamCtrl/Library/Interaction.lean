import SimpleCamCtrl.Library.History

/-!
# Interactive programs

A sequential program that calls an environment it knows nothing about.  `Exec`
relates a program to the calls it makes, each with the reply it got, and to its
result; the replies are unconstrained, so a theorem about every execution holds
against every environment.  `replay` computes the execution for given replies.
-/

/-- A program over calls `κ` answered by replies `ρ`, with a result in `α`. -/
inductive Interaction (κ ρ : Type) (α : Type) where
  | done (result : α) : Interaction κ ρ α
  | call (request : κ) (resume : ρ → Interaction κ ρ α) : Interaction κ ρ α

namespace Interaction

variable {κ ρ α β : Type}

/-- Sequential composition. -/
def bind : Interaction κ ρ α → (α → Interaction κ ρ β) → Interaction κ ρ β
  | .done result, next => next result
  | .call request resume, next => .call request fun reply => (resume reply).bind next

instance : Monad (Interaction κ ρ) where
  pure := .done
  bind := bind

/-- The program that makes one call and returns the reply. -/
def perform (request : κ) : Interaction κ ρ ρ :=
  .call request .done

/-- Executions: the calls made, with their replies in order, and the result. -/
inductive Exec : Interaction κ ρ α → List (κ × ρ) → α → Prop where
  | done {result : α} : Exec (.done result) [] result
  | call {request : κ} {resume : ρ → Interaction κ ρ α} {reply : ρ}
      {calls : List (κ × ρ)} {result : α} :
      Exec (resume reply) calls result →
      Exec (.call request resume) ((request, reply) :: calls) result

variable {calls : List (κ × ρ)}

@[simp] theorem exec_pure {value result : α} :
    Exec (pure value : Interaction κ ρ α) calls result ↔ calls = [] ∧ value = result := by
  constructor
  · intro execution
    cases execution
    exact ⟨rfl, rfl⟩
  · intro equal
    rcases equal with ⟨rfl, rfl⟩
    exact .done

/-- Executing a composition is executing its parts one after the other. -/
theorem exec_bind {first : Interaction κ ρ α} {next : α → Interaction κ ρ β}
    {result : β} :
    Exec (first >>= next) calls result ↔
      ∃ left middle right, calls = left ++ right ∧ Exec first left middle ∧
        Exec (next middle) right result := by
  change Exec (first.bind next) calls result ↔ _
  constructor
  · intro execution
    induction first generalizing calls with
    | done value => exact ⟨[], value, calls, rfl, .done, execution⟩
    | call request resume ih =>
        cases execution with
        | call tail =>
            rcases ih _ tail with ⟨left, middle, right, rfl, onFirst, onNext⟩
            exact ⟨_ :: left, middle, right, rfl, .call onFirst, onNext⟩
  · intro parts
    rcases parts with ⟨left, middle, right, rfl, onFirst, onNext⟩
    induction onFirst with
    | done => exact onNext
    | call _ ih => exact .call (ih onNext)

/-- What follows a program only computes its result. -/
theorem exec_bind_pure {first : Interaction κ ρ α} {finish : α → β} {result : β} :
    Exec (first >>= fun value => pure (finish value)) calls result ↔
      ∃ value, Exec first calls value ∧ finish value = result := by
  rw [exec_bind]
  constructor
  · intro parts
    rcases parts with ⟨left, value, right, rfl, onFirst, onFinish⟩
    rcases exec_pure.mp onFinish with ⟨rfl, finished⟩
    exact ⟨value, by rwa [List.append_nil], finished⟩
  · intro parts
    rcases parts with ⟨value, onFirst, finished⟩
    exact ⟨calls, value, [], by simp, onFirst, exec_pure.mpr ⟨rfl, finished⟩⟩

@[simp] theorem exec_perform {request : κ} {reply : ρ} :
    Exec (perform request) calls reply ↔ calls = [(request, reply)] := by
  constructor
  · intro execution
    cases execution with
    | call tail => cases tail; rfl
  · intro equal
    subst equal
    exact .call .done

/-- One call followed by the rest of the program. -/
@[simp] theorem exec_perform_bind {request : κ} {next : ρ → Interaction κ ρ β}
    {result : β} :
    Exec (perform request >>= next) calls result ↔
      ∃ reply rest, calls = (request, reply) :: rest ∧ Exec (next reply) rest result := by
  rw [exec_bind]
  constructor
  · intro parts
    rcases parts with ⟨left, reply, right, rfl, performed, onNext⟩
    cases exec_perform.mp performed
    exact ⟨reply, right, rfl, onNext⟩
  · intro parts
    rcases parts with ⟨reply, rest, rfl, onNext⟩
    exact ⟨[(request, reply)], reply, rest, rfl, exec_perform.mpr rfl, onNext⟩

/-- A guarded early return makes no calls; otherwise the rest of the program runs. -/
theorem Exec.guard {stop : Prop} [Decidable stop] {early result : α}
    {rest : Interaction κ ρ α}
    (execution : Exec (if stop then pure early else rest) calls result) :
    calls = [] ∨ Exec rest calls result := by
  split at execution
  · exact Or.inl (exec_pure.mp execution).1
  · exact Or.inr execution

/-- Every program has an execution. -/
theorem exists_exec [Inhabited ρ] (program : Interaction κ ρ α) :
    ∃ calls result, Exec program calls result := by
  induction program with
  | done result => exact ⟨[], result, .done⟩
  | call request resume ih =>
      rcases ih default with ⟨calls, result, execution⟩
      exact ⟨_, result, .call execution⟩

/-- Every program has an execution against an environment that answers each call by what
was called before. -/
theorem exists_exec_of_oracle (program : Interaction κ ρ α)
    (oracle : List (κ × ρ) → κ → ρ) :
    ∃ calls result, Exec program calls result ∧
      History.Each (fun before call => call.2 = oracle before call.1) calls := by
  induction program generalizing oracle with
  | done result => exact ⟨[], result, .done, History.each_nil⟩
  | call request resume ih =>
      rcases ih (oracle [] request) fun before => oracle ((request, oracle [] request) :: before)
        with ⟨calls, result, execution, answered⟩
      exact ⟨_, result, .call execution, (History.each_cons _ _).mpr ⟨rfl, answered⟩⟩

/-- Run a program against a finite list of replies; `none` when they run out. -/
def replay : Interaction κ ρ α → List ρ → Option (List (κ × ρ) × α)
  | .done result, _ => some ([], result)
  | .call _ _, [] => none
  | .call request resume, reply :: replies =>
      (replay (resume reply) replies).map fun outcome =>
        ((request, reply) :: outcome.1, outcome.2)

theorem exec_of_replay {program : Interaction κ ρ α} {replies : List ρ} {result : α}
    (replayed : program.replay replies = some (calls, result)) :
    Exec program calls result := by
  induction program generalizing calls replies with
  | done value =>
      simp only [replay, Option.some.injEq, Prod.mk.injEq] at replayed
      rcases replayed with ⟨rfl, rfl⟩
      exact .done
  | call request resume ih =>
      cases replies with
      | nil => simp [replay] at replayed
      | cons reply replies =>
          simp only [replay, Option.map_eq_some_iff, Prod.mk.injEq] at replayed
          rcases replayed with ⟨outcome, tail, rfl, rfl⟩
          exact .call (ih reply tail)

end Interaction
