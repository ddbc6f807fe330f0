import Mathlib.Data.List.Basic

/-!
# Monitors

A protocol as a partial state machine that watches a history: each event is classified
as an action, and an action that the protocol forbids in the current state is refused.
-/

namespace Monitor

variable {σ α ε : Type*}

/-- The state after a whole history, for events classified by `action`; `none` when the
protocol forbids one of them. -/
def run (step : σ → α → Option σ) (action : ε → α) : σ → List ε → Option σ
  | current, [] => some current
  | current, event :: events =>
      (step current (action event)).bind fun next => run step action next events

variable {step : σ → α → Option σ} {action : ε → α} {current final : σ}

@[simp] theorem run_nil : run step action current [] = some current := rfl

@[simp] theorem run_cons {event : ε} {events : List ε} :
    run step action current (event :: events) =
      (step current (action event)).bind fun next => run step action next events := rfl

theorem run_append (left right : List ε) :
    run step action current (left ++ right) =
      (run step action current left).bind fun next => run step action next right := by
  induction left generalizing current with
  | nil => rfl
  | cons event events ih =>
      simp only [List.cons_append, run_cons]
      cases step current (action event) with
      | none => rfl
      | some next => exact ih

/-- An accepted history continues with any event that its state allows. -/
theorem run_snoc {events : List ε} {event : ε} {next : σ}
    (accepted : run step action current events = some final)
    (stepped : step final (action event) = some next) :
    run step action current (events ++ [event]) = some next := by
  rw [run_append, accepted]
  simp [stepped]

/-- Events that leave the state as it is. -/
theorem run_of_stays {events : List ε}
    (stays : ∀ event ∈ events, step current (action event) = some current) :
    run step action current events = some current := by
  induction events with
  | nil => rfl
  | cons event events ih =>
      rw [run_cons, stays event (by simp)]
      exact ih fun later membership => stays later (by simp [membership])

/-- Before every event, an accepted history leads to a state that allows it. -/
theorem step_of_split {events before after : List ε} {event : ε}
    (accepted : run step action current events = some final)
    (split : events = before ++ event :: after) :
    ∃ middle next, run step action current before = some middle ∧
      step middle (action event) = some next := by
  rw [split, run_append, Option.bind_eq_some_iff] at accepted
  rcases accepted with ⟨middle, first, rest⟩
  rw [run_cons, Option.bind_eq_some_iff] at rest
  rcases rest with ⟨next, stepped, _⟩
  exact ⟨middle, next, first, stepped⟩

end Monitor
