import SimpleCamCtrl.Library.History
import SimpleCamCtrl.Library.Monitor

/-!
# Exclusive sessions

A party that opens and closes sessions on endpoints, with at most one session open at
a time.  `Session.step` is the protocol as a partial state machine over the endpoint
whose session is open; a history that it accepts uses only open sessions, never opens
one twice, and leaves open exactly the session of its final state.
-/

/-- What an event of a history means for the session of an endpoint. -/
inductive Session.Action (τ : Type*) where
  | opened (endpoint : τ)
  | closed (endpoint : τ)
  | used (endpoint : τ)
  | neutral
  deriving DecidableEq

namespace Session

open History

variable {τ ε : Type*} [DecidableEq τ]

/-- One event, from the endpoint whose session is open to the endpoint whose session
is open afterwards; `none` when the protocol forbids the event. -/
def step : Option τ → Action τ → Option (Option τ)
  | none, .opened endpoint => some (some endpoint)
  | some _, .opened _ => none
  | current, .used endpoint => if current = some endpoint then some current else none
  | none, .closed _ => some none
  | some current, .closed endpoint => if current = endpoint then some none else none
  | current, .neutral => some current

/-- The session that a whole history leaves open, for events classified by `action`. -/
abbrev run (action : ε → Action τ) : Option τ → List ε → Option (Option τ) :=
  Monitor.run step action

variable {action : ε → Action τ} {current final : Option τ} {endpoint : τ}

theorem run_append (left right : List ε) :
    run action current (left ++ right) =
      (run action current left).bind fun next => run action next right :=
  Monitor.run_append left right

/-- Using the open session leaves it open. -/
theorem run_of_used {events : List ε}
    (used : ∀ event ∈ events, action event = .used endpoint) :
    run action (some endpoint) events = some (some endpoint) := by
  apply Monitor.run_of_stays
  intro event membership
  rw [used event membership]
  simp [step]

/-- A session is open after a step exactly when the step opened it, or it was open and
the step did not close it. -/
theorem step_eq_some_iff {event : Action τ} {next : Option τ}
    (accepted : step current event = some next) :
    next = some endpoint ↔
      event = .opened endpoint ∨ (current = some endpoint ∧ event ≠ .closed endpoint) := by
  cases event <;> cases current <;> grind [step]

/-- The session that an accepted history leaves open is the one that it opened, or found
open, and did not close afterwards. -/
theorem run_eq_some_iff {events : List ε} (accepted : run action current events = some final) :
    final = some endpoint ↔
      Since (action · = .opened endpoint) (action · = .closed endpoint) events ∨
        (current = some endpoint ∧ ∀ event ∈ events, action event ≠ .closed endpoint) := by
  induction events generalizing current with
  | nil =>
      simp only [Monitor.run_nil, Option.some.injEq] at accepted
      simp [accepted]
  | cons event events ih =>
      simp only [Monitor.run_cons, Option.bind_eq_some_iff] at accepted
      rcases accepted with ⟨next, stepped, rest⟩
      rw [ih rest, since_cons, step_eq_some_iff stepped]
      simp only [List.forall_mem_cons]
      tauto

section FromClosed

variable {events : List ε}

/-- Started with no session open. -/
theorem open_iff_since (accepted : run action none events = some final) :
    final = some endpoint ↔
      Since (action · = .opened endpoint) (action · = .closed endpoint) events := by
  rw [run_eq_some_iff accepted]
  simp

/-- A session is used only while it is open. -/
theorem each_used_open (accepted : run action none events = some final) :
    Each (fun before event => ∀ endpoint, action event = .used endpoint →
      Since (action · = .opened endpoint) (action · = .closed endpoint) before) events := by
  intro before event after split endpoint used
  rcases Monitor.step_of_split accepted split with ⟨middle, next, reached, stepped⟩
  rw [← open_iff_since reached]
  rw [used, step] at stepped
  split at stepped
  · assumption
  · cases stepped

/-- No session is opened while one is open. -/
theorem each_opened_closed (accepted : run action none events = some final) :
    Each (fun before event => ∀ endpoint other, action event = .opened endpoint →
      ¬Since (action · = .opened other) (action · = .closed other) before) events := by
  intro before event after split endpoint other opened pending
  rcases Monitor.step_of_split accepted split with ⟨middle, next, reached, stepped⟩
  rw [← open_iff_since reached] at pending
  rw [opened, pending] at stepped
  cases stepped

end FromClosed

end Session
