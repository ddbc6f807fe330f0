import SimpleCamCtrl.Library.History
import SimpleCamCtrl.Library.Monitor
import Mathlib.Data.List.Induction
import Mathlib.Data.List.Nodup

/-!
# A queue with a single server

Customers arrive at the end of a queue and are served one at a time from its front.
The discipline is a monitor over the waiting customers and the one being served; what
an accepted history says about arrivals and services follows from two equations, one
for each end of the server.
-/

/-- What an event of a history means for the queue. -/
inductive SingleServer.Action (ι : Type*) where
  | arrived (customer : ι)
  | taken (customer : ι)
  | finished (customer : ι)
  | neutral
  deriving DecidableEq

/-- The waiting customers, in order, and the one being served. -/
structure SingleServer (ι : Type*) where
  waiting : List ι := []
  serving : Option ι := none
  deriving DecidableEq

namespace SingleServer

open History

variable {ι ε : Type*}

/-- One event; `none` when it breaks the queue discipline. -/
def step [DecidableEq ι] (server : SingleServer ι) : Action ι → Option (SingleServer ι)
  | .arrived customer => some { server with waiting := server.waiting ++ [customer] }
  | .taken customer =>
      if server.serving = none ∧ server.waiting.head? = some customer then
        some ⟨server.waiting.tail, some customer⟩
      else
        none
  | .finished customer =>
      if server.serving = some customer then some { server with serving := none } else none
  | .neutral => some server

variable (action : ε → Action ι)

/-- The customers that have arrived, in order. -/
def arrivals (events : List ε) : List ι :=
  events.filterMap fun event =>
    match action event with
    | .arrived customer => some customer
    | _ => none

/-- The customers whose service has begun, in order. -/
def takes (events : List ε) : List ι :=
  events.filterMap fun event =>
    match action event with
    | .taken customer => some customer
    | _ => none

/-- The customers whose service has ended, in order. -/
def finishes (events : List ε) : List ι :=
  events.filterMap fun event =>
    match action event with
    | .finished customer => some customer
    | _ => none

variable {action}
variable {events : List ε} {server : SingleServer ι}

theorem arrivals_append (left right : List ε) :
    arrivals action (left ++ right) = arrivals action left ++ arrivals action right :=
  List.filterMap_append

theorem takes_append (left right : List ε) :
    takes action (left ++ right) = takes action left ++ takes action right :=
  List.filterMap_append

theorem finishes_append (left right : List ε) :
    finishes action (left ++ right) = finishes action left ++ finishes action right :=
  List.filterMap_append

theorem mem_arrivals {customer : ι} :
    customer ∈ arrivals action events ↔ ∃ event ∈ events, action event = .arrived customer := by
  rw [arrivals, List.mem_filterMap]
  refine exists_congr fun event => and_congr_right fun _ => ?_
  cases action event <;> simp

theorem mem_finishes {customer : ι} :
    customer ∈ finishes action events ↔ ∃ event ∈ events, action event = .finished customer := by
  rw [finishes, List.mem_filterMap]
  refine exists_congr fun event => and_congr_right fun _ => ?_
  cases action event <;> simp

variable [DecidableEq ι]

/-- Run of the discipline from an empty queue. -/
abbrev Accepted (action : ε → Action ι) (events : List ε) (server : SingleServer ι) : Prop :=
  Monitor.run step action {} events = some server

/-- What enters and what leaves the server in one step. -/
theorem step_accounts {next : SingleServer ι} {event : ε}
    (stepped : step server (action event) = some next) :
    server.waiting ++ arrivals action [event] = takes action [event] ++ next.waiting ∧
      server.serving.toList ++ takes action [event] =
        finishes action [event] ++ next.serving.toList := by
  cases kind : action event with
  | arrived customer =>
      rw [kind, step, Option.some.injEq] at stepped
      simp [← stepped, arrivals, takes, finishes, kind]
  | taken customer =>
      rw [kind, step] at stepped
      split at stepped
      · rename_i allowed
        cases stepped
        have front : server.waiting = customer :: server.waiting.tail :=
          List.eq_cons_of_mem_head? allowed.2
        rw [front]
        simp [arrivals, takes, finishes, kind, allowed.1]
      · cases stepped
  | finished customer =>
      rw [kind, step] at stepped
      split at stepped
      · rename_i serving
        cases stepped
        simp [arrivals, takes, finishes, kind, serving]
      · cases stepped
  | neutral =>
      rw [kind, step, Option.some.injEq] at stepped
      simp [← stepped, arrivals, takes, finishes, kind]

/-- Who has arrived has been taken or waits, in order of arrival; who has been taken has
been finished or is being served. -/
theorem accounts (accepted : Accepted action events server) :
    arrivals action events = takes action events ++ server.waiting ∧
      takes action events = finishes action events ++ server.serving.toList := by
  induction events using List.reverseRecOn generalizing server with
  | nil =>
      cases accepted
      exact ⟨rfl, rfl⟩
  | append_singleton events event ih =>
      rw [Accepted, Monitor.run_append, Option.bind_eq_some_iff] at accepted
      rcases accepted with ⟨middle, earlier, last⟩
      have stepped : step middle (action event) = some server := by simpa using last
      have before := ih earlier
      have change := step_accounts stepped
      rw [arrivals_append, takes_append, finishes_append]
      constructor
      · rw [before.1, List.append_assoc, change.1, List.append_assoc]
      · rw [List.append_assoc, ← change.2, ← List.append_assoc, ← before.2]

theorem takes_prefix_arrivals (accepted : Accepted action events server) :
    takes action events <+: arrivals action events :=
  ⟨server.waiting, (accounts accepted).1.symm⟩

theorem finishes_prefix_takes (accepted : Accepted action events server) :
    finishes action events <+: takes action events :=
  ⟨server.serving.toList, (accounts accepted).2.symm⟩

/-- Whenever a customer is taken, all customers taken before have been finished. -/
theorem each_taken_finished (accepted : Accepted action events server) :
    Each (fun before event => ∀ customer, action event = .taken customer →
      finishes action before = takes action before) events := by
  intro before event after split customer taken
  rcases Monitor.step_of_split accepted split with ⟨middle, next, reached, stepped⟩
  have idle : middle.serving = none := by
    rw [taken, step] at stepped
    split at stepped
    · rename_i allowed
      exact allowed.1
    · cases stepped
  have balance := (accounts reached).2
  rw [idle] at balance
  simpa using balance.symm

/-- When nobody waits and nobody is served, everybody who arrived has been finished. -/
theorem finishes_of_empty (accepted : Accepted action events server)
    (nobodyWaits : server.waiting = []) (nobodyServed : server.serving = none) :
    finishes action events = arrivals action events := by
  have balance := accounts accepted
  rw [nobodyWaits, List.append_nil] at balance
  rw [balance.1, balance.2, nobodyServed]
  simp

section Distinct

variable (accepted : Accepted action events server) (distinct : (arrivals action events).Nodup)

include accepted distinct

/-- If nobody arrives twice, nobody is taken twice. -/
theorem nodup_takes : (takes action events).Nodup :=
  (takes_prefix_arrivals accepted).sublist.nodup distinct

theorem nodup_finishes : (finishes action events).Nodup :=
  (finishes_prefix_takes accepted).sublist.nodup (nodup_takes accepted distinct)

/-- A customer who waits has not been taken. -/
theorem not_mem_takes_of_waiting {customer : ι} (waits : customer ∈ server.waiting) :
    customer ∉ takes action events := by
  rw [(accounts accepted).1] at distinct
  exact fun taken => List.disjoint_of_nodup_append distinct taken waits

/-- A customer who is being served has not been finished. -/
theorem not_mem_finishes_of_serving {customer : ι} (served : server.serving = some customer) :
    customer ∉ finishes action events := by
  have once := nodup_takes accepted distinct
  rw [(accounts accepted).2, served] at once
  exact fun finished => List.disjoint_of_nodup_append once finished (by simp)

end Distinct

end SingleServer
