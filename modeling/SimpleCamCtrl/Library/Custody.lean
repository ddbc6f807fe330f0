import SimpleCamCtrl.Library.Contract
import SimpleCamCtrl.Library.Ledger

/-!
# Custody of resources

A ledger that also watches what is done with the resources: an event may use some, all of
which must be held at that moment.  A history that it accepts never uses what it has not
acquired or has released already.
-/

/-- What an event does to the resources: which it uses, and which it acquires or releases. -/
structure Custody.Deed (ρ : Type*) where
  uses : List ρ := []
  action : Ledger.Action ρ := .neutral

namespace Custody

variable {ρ ε : Type*} [DecidableEq ρ]

/-- One event; `none` when it uses or releases what is not held. -/
def step (held : Multiset ρ) (deed : Deed ρ) : Option (Multiset ρ) :=
  if ∀ resource ∈ deed.uses, resource ∈ held then Ledger.step held deed.action else none

variable {deed : ε → Deed ρ} {held final : Multiset ρ} {events : List ε}

theorem step_of_held {act : Deed ρ} (isHeld : ∀ resource ∈ act.uses, resource ∈ held) :
    step held act = Ledger.step held act.action :=
  if_pos isHeld

theorem step_eq_some_iff {act : Deed ρ} {next : Multiset ρ} :
    step held act = some next ↔
      (∀ resource ∈ act.uses, resource ∈ held) ∧ Ledger.step held act.action = some next := by
  rw [step]
  split
  · rename_i isHeld
    exact ⟨fun stepped => ⟨isHeld, stepped⟩, fun both => both.2⟩
  · rename_i missing
    exact ⟨nofun, fun both => (missing both.1).elim⟩

/-- What is accepted is also accepted by the ledger. -/
theorem ledger_of_run (accepted : Monitor.run step deed held events = some final) :
    Monitor.run Ledger.step (fun event => (deed event).action) held events = some final := by
  induction events generalizing held with
  | nil => exact accepted
  | cons event events ih =>
      rw [Monitor.run_cons, Option.bind_eq_some_iff] at accepted ⊢
      rcases accepted with ⟨next, stepped, rest⟩
      exact ⟨next, (step_eq_some_iff.mp stepped).2, ih rest⟩

/-- Whatever an event uses has been acquired before it more often than it has been released. -/
theorem used_held (accepted : Monitor.run step deed 0 events = some final)
    {before after : List ε} {event : ε} (split : events = before ++ event :: after)
    {resource : ρ} (used : resource ∈ (deed event).uses) :
    Ledger.releases (fun event => (deed event).action) resource before <
      Ledger.acquisitions (fun event => (deed event).action) resource before := by
  rcases Monitor.step_of_split accepted split with ⟨middle, next, earlier, stepped⟩
  have isHeld := (step_eq_some_iff.mp stepped).1 resource used
  have balance := Ledger.count_run (ledger_of_run earlier) resource
  have positive := Multiset.count_pos.mpr isHeld
  rw [Multiset.count_zero, Nat.zero_add] at balance
  omega

/-- Acquiring adds, and releasing takes away. -/
theorem ledger_acquired (resource : ρ) :
    Ledger.step held (.acquired resource) = some ({resource} + held) := by
  rw [Ledger.step_acquired, Multiset.singleton_add]

theorem ledger_released {resource : ρ} {rest : Multiset ρ} (parts : held = {resource} + rest) :
    Ledger.step held (.released resource) = some rest := by
  rw [parts, Multiset.singleton_add, Ledger.step_released_cons]

section Yields

variable {α : Type*} (kind : α → ρ) (yielded : Option α)

/-- What a call acquires that may yield something. -/
def yields : Option α → Ledger.Action ρ
  | none => .neutral
  | some resource => .acquired (kind resource)

/-- What is held on account of a pointer that may be null. -/
def holding : Multiset ρ := yielded.elim 0 fun resource => {kind resource}

omit [DecidableEq ρ] in
@[simp] theorem holding_none : holding kind none = 0 := rfl

theorem step_yields : Ledger.step held (yields kind yielded) = some (holding kind yielded + held) := by
  cases yielded with
  | none => simp [yields, holding]
  | some resource => exact ledger_acquired _

end Yields

section Keeps

open Interaction

variable {κ ρ' α β : Type} {deed : κ × ρ' → Deed ρ} {after : β → Multiset ρ}

/-- Every execution of the program uses and releases only what is held, and what is held after
it depends on its result. -/
def Keeps (deed : κ × ρ' → Deed ρ) (program : Interaction κ ρ' β) (held : Multiset ρ)
    (after : β → Multiset ρ) : Prop :=
  Ensures program fun calls value => Monitor.run step deed held calls = some (after value)

theorem keeps_pure {value : β} (same : after value = held) :
    Keeps deed (pure value) held after := by
  rw [Keeps, ensures_pure, same]
  rfl

theorem keeps_perform_bind {request : κ} {next : ρ' → Interaction κ ρ' β}
    {between : ρ' → Multiset ρ}
    (uses : ∀ reply, ∀ resource ∈ (deed (request, reply)).uses, resource ∈ held)
    (moves : ∀ reply, Ledger.step held (deed (request, reply)).action = some (between reply))
    (onNext : ∀ reply, Keeps deed (next reply) (between reply) after) :
    Keeps deed (perform request >>= next) held after := by
  rw [Keeps, ensures_perform_bind]
  intro reply calls value execution
  rw [Monitor.run_cons, step_of_held (uses reply), moves]
  exact onNext reply calls value execution

theorem Keeps.bind {first : Interaction κ ρ' α} {next : α → Interaction κ ρ' β}
    {between : α → Multiset ρ} (onFirst : Keeps deed first held between)
    (onNext : ∀ value, Keeps deed (next value) (between value) after) :
    Keeps deed (first >>= next) held after := by
  refine Ensures.bind onFirst ?_
  intro left value earlier right result execution
  rw [Monitor.run_append, earlier]
  exact onNext value right result execution

/-- Calls that neither use nor move anything leave what is held. -/
theorem keeps_of_only {allowed : κ → Prop} {program : Interaction κ ρ' β}
    (only : Only allowed program)
    (ignored : ∀ request reply, allowed request → deed (request, reply) = {}) :
    Keeps deed program held fun _ => held := by
  intro calls value execution
  refine Monitor.run_of_stays ?_
  intro call membership
  rw [← Prod.eta call, ignored call.1 call.2 (only calls value execution call membership)]
  simp [step]

end Keeps

end Custody
