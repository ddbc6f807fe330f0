import SimpleCamCtrl.Library.Monitor
import Mathlib.Data.Multiset.Replicate

/-!
# A ledger of resources

References that are acquired and released: a monitor whose state is the multiset of
references held and which refuses the release of one that is not held.  A history that it
accepts from every state and that ends where it began releases everything that it acquires
exactly once.
-/

/-- What an event of a history means for the references held. -/
inductive Ledger.Action (ρ : Type*) where
  | acquired (resource : ρ)
  | released (resource : ρ)
  | neutral
  deriving DecidableEq

namespace Ledger

variable {ρ ε : Type*} [DecidableEq ρ]

/-- One event; `none` when it releases what is not held. -/
def step (held : Multiset ρ) : Action ρ → Option (Multiset ρ)
  | .acquired resource => some (resource ::ₘ held)
  | .released resource => if resource ∈ held then some (held.erase resource) else none
  | .neutral => some held

@[simp] theorem step_acquired (held : Multiset ρ) (resource : ρ) :
    step held (.acquired resource) = some (resource ::ₘ held) := rfl

@[simp] theorem step_neutral (held : Multiset ρ) :
    step held (.neutral : Action ρ) = some held := rfl

/-- What was acquired last can be released. -/
@[simp] theorem step_released_cons (held : Multiset ρ) (resource : ρ) :
    step (resource ::ₘ held) (.released resource) = some held := by
  simp [step]

/-- The history moves any holdings by adding to them what it leaves behind. -/
def Leaves (action : ε → Action ρ) (events : List ε) (extra : Multiset ρ) : Prop :=
  ∀ held, Monitor.run step action held events = some (extra + held)

variable {action : ε → Action ρ} {events left right : List ε} {extra more : Multiset ρ}

theorem leaves_nil : Leaves action [] 0 := by
  intro held
  rw [Monitor.run_nil, Multiset.zero_add]

theorem Leaves.append (onLeft : Leaves action left extra) (onRight : Leaves action right more) :
    Leaves action (left ++ right) (more + extra) := by
  intro held
  rw [Monitor.run_append, onLeft held, Option.bind_some, onRight, Multiset.add_assoc]

/-- What a history leaves behind is determined. -/
theorem Leaves.unique (leaves : Leaves action events extra) (leaves' : Leaves action events more) :
    extra = more := by
  have same := (leaves 0).symm.trans (leaves' 0)
  simpa using same

/-- What else is held does not matter. -/
theorem step_frame {held next : Multiset ρ} {act : Action ρ} (stepped : step held act = some next)
    (others : Multiset ρ) : step (others + held) act = some (others + next) := by
  cases act with
  | acquired resource =>
      rw [step_acquired, Option.some.injEq] at stepped ⊢
      rw [← stepped, Multiset.add_cons]
  | released resource =>
      rw [step] at stepped ⊢
      split at stepped
      · rename_i holds
        cases stepped
        rw [if_pos (Multiset.mem_add.mpr (Or.inr holds)), Multiset.erase_add_right_pos _ holds]
      · cases stepped
  | neutral =>
      rw [step_neutral, Option.some.injEq] at stepped ⊢
      rw [stepped]

/-- A reading of the events that overlooks some acquisitions of a resource. -/
structure Overlooks (overlooked : ε → Prop) (resource : ρ) (actual read : ε → Action ρ) :
    Prop where
  acquired : ∀ event, overlooked event → actual event = .acquired resource
  neutral : ∀ event, overlooked event → read event = .neutral
  same : ∀ event, ¬overlooked event → actual event = read event

variable {overlooked : ε → Prop} [DecidablePred overlooked] {resource : ρ}
variable {actual read : ε → Action ρ}

theorem Overlooks.run (overlooks : Overlooks overlooked resource actual read)
    {held final : Multiset ρ} (accepted : Monitor.run step read held events = some final)
    (others : Multiset ρ) :
    Monitor.run step actual (others + held) events =
      some (Multiset.replicate (events.countP overlooked) resource + others + final) := by
  induction events generalizing held others with
  | nil =>
      cases accepted
      simp
  | cons event events ih =>
      rw [Monitor.run_cons, Option.bind_eq_some_iff] at accepted
      rcases accepted with ⟨next, stepped, rest⟩
      rw [Monitor.run_cons]
      by_cases missed : overlooked event
      · rw [overlooks.neutral event missed, step_neutral, Option.some.injEq] at stepped
        subst stepped
        rw [overlooks.acquired event missed, step_acquired, Option.bind_some,
          ← Multiset.cons_add, ih rest, List.countP_cons_of_pos (by simpa using missed),
          Multiset.replicate_succ, Multiset.cons_add, Multiset.add_cons]
      · rw [overlooks.same event missed, step_frame stepped, Option.bind_some, ih rest,
          List.countP_cons_of_neg (by simpa using missed)]

/-- What is overlooked is left behind. -/
theorem Overlooks.leaves (overlooks : Overlooks overlooked resource actual read)
    (leaves : Leaves read events extra) :
    Leaves actual events (Multiset.replicate (events.countP overlooked) resource + extra) := by
  intro held
  have accepted := overlooks.run (leaves held) 0
  rw [Multiset.zero_add, Multiset.add_zero] at accepted
  rw [accepted, Multiset.add_assoc]

/-- How often a resource is acquired. -/
def acquisitions (action : ε → Action ρ) (resource : ρ) (events : List ε) : Nat :=
  events.countP fun event => decide (action event = .acquired resource)

/-- How often a resource is released. -/
def releases (action : ε → Action ρ) (resource : ρ) (events : List ε) : Nat :=
  events.countP fun event => decide (action event = .released resource)

/-- One event changes what is held of a resource by what it acquires or releases. -/
theorem count_step {held next : Multiset ρ} {event : ε}
    (stepped : step held (action event) = some next) (resource : ρ) :
    held.count resource + acquisitions action resource [event] =
      next.count resource + releases action resource [event] := by
  cases kind : action event with
  | acquired other =>
      rw [kind, step_acquired, Option.some.injEq] at stepped
      rw [← stepped, Multiset.count_cons]
      by_cases same : other = resource
      · simp [acquisitions, releases, kind, same]
      · simp [acquisitions, releases, kind, same, Ne.symm same]
  | released other =>
      rw [kind, step] at stepped
      split at stepped
      · rename_i holds
        cases stepped
        by_cases same : other = resource
        · subst same
          have positive := Multiset.count_pos.mpr holds
          simp only [acquisitions, releases, List.countP_singleton, kind, reduceCtorEq,
            decide_false, decide_true, if_true, if_false, Multiset.count_erase_self]
          omega
        · simp [acquisitions, releases, kind, same, Multiset.count_erase_of_ne (Ne.symm same)]
      · cases stepped
  | neutral =>
      rw [kind, step_neutral, Option.some.injEq] at stepped
      simp [← stepped, acquisitions, releases, kind]

/-- What was held and acquired is held or has been released. -/
theorem count_run {held final : Multiset ρ}
    (accepted : Monitor.run step action held events = some final) (resource : ρ) :
    held.count resource + acquisitions action resource events =
      final.count resource + releases action resource events := by
  induction events generalizing held with
  | nil =>
      cases accepted
      rfl
  | cons event events ih =>
      rw [Monitor.run_cons, Option.bind_eq_some_iff] at accepted
      rcases accepted with ⟨next, stepped, rest⟩
      have now := count_step stepped resource
      have later := ih rest
      simp only [acquisitions, releases, List.countP_cons, List.countP_nil] at now later ⊢
      omega

/-- What a history acquires it releases, but for what it leaves behind. -/
theorem acquisitions_eq (leaves : Leaves action events extra) (resource : ρ) :
    acquisitions action resource events =
      extra.count resource + releases action resource events := by
  have balance := count_run (leaves 0) resource
  simpa using balance

end Ledger
