import SimpleCamCtrl.Library.History
import Mathlib.Data.Nat.Basic

/-!
# Ranked progress

Some steps of a transition system count, and a bound says of each state how many of them
are enough.  When no step raises the bound and each that counts lowers it, the goal is
reached as soon as so many have been taken, whatever else happens in between.
-/

namespace History

variable {σ ε : Type*}

/-- No step raises the bound before the goal is reached, the steps that count lower it, and
the goal stays reached. -/
structure Ranking (step : σ → ε → σ → Prop) (counts : ε → Bool) (bound : ℕ → σ → Prop)
    (goal : σ → Prop) : Prop where
  kept : ∀ {state label state'}, goal state → step state label state' → goal state'
  lowers : ∀ {fuel state label state'}, bound fuel state → step state label state' →
    goal state' ∨ ∃ left, bound left state' ∧ left + [label].countP counts ≤ fuel

namespace Ranking

variable {step : σ → ε → σ → Prop} {counts : ε → Bool} {bound : ℕ → σ → Prop}
variable {goal : σ → Prop} {state state' : σ} {labels : List ε} {fuel : ℕ}

theorem goal_of_path (ranking : Ranking step counts bound goal) (reached : goal state)
    (path : Path step state labels state') : goal state' := by
  induction path with
  | nil => exact reached
  | cons stepped _ ih => exact ih (ranking.kept reached stepped)

/-- Along a path the bound pays for the steps that count. -/
theorem along (ranking : Ranking step counts bound goal) (bounded : bound fuel state)
    (path : Path step state labels state') :
    goal state' ∨ ∃ left, bound left state' ∧ left + labels.countP counts ≤ fuel := by
  induction path generalizing fuel with
  | nil => exact Or.inr ⟨fuel, bounded, by simp⟩
  | cons stepped rest ih =>
      rename_i label labels
      rcases ranking.lowers bounded stepped with reached | ⟨left, lower, paid⟩
      · exact Or.inl (ranking.goal_of_path reached rest)
      · rcases ih lower with reached | ⟨final, last, paidRest⟩
        · exact Or.inl reached
        · refine Or.inr ⟨final, last, ?_⟩
          calc final + (label :: labels).countP counts
              = final + labels.countP counts + [label].countP counts := by
                rw [List.countP_cons, List.countP_singleton, Nat.add_assoc]
            _ ≤ left + [label].countP counts := Nat.add_le_add_right paidRest _
            _ ≤ fuel := paid

/-- A bound that is never zero before the goal: enough steps that count reach it. -/
theorem reaches (ranking : Ranking step counts bound goal)
    (positive : ∀ {fuel state}, bound fuel state → 0 < fuel) (bounded : bound fuel state)
    (path : Path step state labels state') (enough : fuel ≤ labels.countP counts) :
    goal state' := by
  rcases ranking.along bounded path with reached | ⟨left, lower, paid⟩
  · exact reached
  · have more := positive lower
    exact absurd (Nat.le_trans (Nat.add_le_add_right more _) paid) (by omega)

/-- When a step that counts can be taken wherever the end has not been reached, taking them
one after the other reaches it. -/
theorem exists_path (ranking : Ranking step counts bound fun _ => False) {ended : σ → Prop}
    (enabled : ∀ {fuel state}, bound fuel state →
      ended state ∨ ∃ label state', counts label = true ∧ step state label state')
    (bounded : bound fuel state) :
    ∃ labels state', Path step state labels state' ∧ (∀ label ∈ labels, counts label = true) ∧
      ended state' := by
  induction fuel using Nat.strong_induction_on generalizing state with
  | h fuel ih =>
      rcases enabled bounded with done | ⟨label, next, isCounted, stepped⟩
      · exact ⟨[], state, .nil, by simp, done⟩
      · rcases ranking.lowers bounded stepped with never | ⟨left, lower, paid⟩
        · exact never.elim
        · rw [List.countP_singleton, if_pos isCounted] at paid
          rcases ih left paid lower with ⟨labels, final, path, counted, done⟩
          exact ⟨label :: labels, final, .cons stepped path,
            List.forall_mem_cons.mpr ⟨isCounted, counted⟩, done⟩

end Ranking

end History
