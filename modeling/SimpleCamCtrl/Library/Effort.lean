import SimpleCamCtrl.Library.Guarded
import Mathlib.Data.Finsupp.Weight

/-!
# Amortised effort

Any number of agents, each with a share of steps that are enough for what it still has to do.
A step of one agent is paid out of its share, and new work comes with the share that it needs,
so the sum of the shares bounds the steps of all agents together, in whatever order they move.

The threads that call an object guarded by a lock are such agents.  While one of them is in a
call, one of them can move.
-/

/-- The agents have shares with the sum `total`, each enough for the state of its agent. -/
def Funded {θ σ : Type*} (enough : σ → ℕ → Prop) (states : θ → σ) (total : ℕ) : Prop :=
  ∃ shares : θ →₀ ℕ, shares.degree = total ∧ ∀ agent, enough (states agent) (shares agent)

namespace Funded

variable {θ σ : Type*} {enough : σ → ℕ → Prop} {states : θ → σ} {total : ℕ}

/-- Who has nothing to do needs nothing. -/
theorem of_idle (idle : ∀ agent, enough (states agent) 0) : Funded enough states 0 :=
  ⟨0, map_zero _, idle⟩

/-- A share is a part of the whole. -/
theorem exists_share (funded : Funded enough states total) (agent : θ) :
    ∃ share ≤ total, enough (states agent) share := by
  rcases funded with ⟨shares, rfl, each⟩
  exact ⟨shares agent, Finsupp.le_degree agent shares, each agent⟩

/-- What one agent pays and is given is paid and given by all. -/
theorem update [DecidableEq θ] (funded : Funded enough states total) {agent : θ} {state : σ}
    {paid given : ℕ}
    (pays : ∀ share, enough (states agent) share →
      ∃ left, enough state left ∧ left + paid ≤ share + given) :
    ∃ left, Funded enough (Function.update states agent state) left ∧
      left + paid ≤ total + given := by
  rcases funded with ⟨shares, rfl, each⟩
  rcases pays _ (each agent) with ⟨left, isEnough, balance⟩
  have whole : shares.degree = (shares.erase agent).degree + shares agent := by
    conv_lhs => rw [← Finsupp.erase_add_single agent shares]
    rw [map_add, Finsupp.degree_single]
  refine ⟨_, ⟨shares.erase agent + Finsupp.single agent left, rfl, ?_⟩, ?_⟩
  · intro other
    by_cases same : other = agent
    · subst same
      simpa using isEnough
    · simpa [same] using each other
  · rw [map_add, Finsupp.degree_single, whole]
    omega

end Funded

namespace Guarded

open Interaction

variable {θ ω κ ρ σ β : Type}

/-- Steps that are enough for the rest of a call that makes at most `bound` exchanges, when an
exchange counts `price` steps. -/
inductive Phase.Enough (bound price : ℕ) : Phase ω κ ρ σ β → ℕ → Prop where
  | idle : Enough bound price .idle 0
  | waiting {op : ω} : Enough bound price (.waiting op) (bound * price + 2)
  | running {op : ω} {rest : Interaction κ ρ (β × σ)} {fuel : ℕ} :
      Within fuel rest → Enough bound price (.running op rest) (fuel * price + 1)

/-- The steps that a step counts for. -/
def Label.price (price : ℕ) : Label θ ω κ ρ β → ℕ
  | exchange _ _ _ => price
  | invoke _ _ | acquire _ | complete _ _ _ | giveUp _ _ _ => 1

/-- A new call. -/
def Label.invokes : Label θ ω κ ρ β → Bool
  | invoke _ _ => true
  | acquire _ | exchange _ _ _ | complete _ _ _ | giveUp _ _ _ => false

variable [DecidableEq θ] [Inhabited ρ] {offers : Interface ω κ ρ σ β}
variable {label : Label θ ω κ ρ β} {self next : Guarded θ ω κ ρ σ β}
variable {bound price total : ℕ}

/-- Every step is paid for by the call that it is a step of. -/
theorem Step.funded (step : Step offers self label next)
    (bounded : ∀ state op, Within bound (offers.body state op))
    (funded : Funded (Phase.Enough bound price) self.phase total) :
    ∃ left, Funded (Phase.Enough bound price) next.phase left ∧
      left + label.price price ≤ total + label.invokes.toNat * (bound * price + 3) := by
  cases step with
  | invoke idle =>
      refine funded.update ?_
      intro share enough
      rw [idle] at enough
      cases enough
      exact ⟨_, .waiting, by simp [Label.price, Label.invokes]⟩
  | acquire waits =>
      refine funded.update ?_
      intro share enough
      rw [waits] at enough
      cases enough
      exact ⟨_, .running (bounded _ _), by simp [Label.price, Label.invokes]⟩
  | exchange runs =>
      refine funded.update ?_
      intro share enough
      rw [runs] at enough
      cases enough with
      | running within =>
          rcases within.resume _ with ⟨fuel, rfl, onRest⟩
          refine ⟨_, .running onRest, ?_⟩
          rw [Label.price, Nat.succ_mul]
          omega
  | complete phase | giveUp phase =>
      refine funded.update ?_
      intro share enough
      rw [phase] at enough
      cases enough
      exact ⟨_, .idle, by simp [Label.price, Label.invokes]⟩

omit [DecidableEq θ] in
/-- A call that waits for a reply has a share for it. -/
theorem Phase.Enough.of_call {op : ω} {request : κ} {resume : ρ → Interaction κ ρ (β × σ)}
    {share : ℕ}
    (enough : Phase.Enough bound price (.running op (.call request resume) : Phase ω κ ρ σ β)
      share) : price < share := by
  cases enough with
  | running within =>
      rcases within.resume default with ⟨fuel, rfl, _⟩
      rw [Nat.succ_mul]
      omega

omit [DecidableEq θ] [Inhabited ρ] in
/-- While somebody is in a call, somebody holds the lock or it can be taken. -/
theorem Linearizes.moves {labels : List (Label θ ω κ ρ β)} {calls : List (Call θ ω κ ρ σ β)}
    {pending : List (κ × ρ)} (lin : Linearizes offers labels self calls pending) {thread : θ}
    (busy : self.phase thread ≠ .idle) :
    (∃ holder op rest, self.phase holder = .running op rest) ∨
      (self.holder = none ∧ ∃ op, self.phase thread = .waiting op) := by
  cases held : self.holder with
  | some holder =>
      rcases (lin.holds holder).mp held with ⟨op, rest, runs⟩
      exact Or.inl ⟨holder, op, rest, runs⟩
  | none =>
      cases phase : self.phase thread with
      | idle => exact (busy phase).elim
      | waiting op => exact Or.inr ⟨rfl, op, rfl⟩
      | running op rest => exact Or.inl ⟨thread, op, rest, phase⟩

end Guarded
