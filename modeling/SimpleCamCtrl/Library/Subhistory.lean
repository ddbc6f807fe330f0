import SimpleCamCtrl.Library.History
import Mathlib.Data.List.Nodup

/-!
# Partial histories

A history that keeps some of the events of another in their order, where the events are known
by distinct keys: what has started and not stopped in the whole is so in the part, if the part
leaves out no start.
-/

namespace History

variable {ε ε' κ : Type*}

/-- A sublist keeps to either side of an entry of both lists. -/
theorem sublist_of_split {left right before after : List κ} {entry : κ}
    (sub : (left ++ entry :: right).Sublist (before ++ entry :: after))
    (once : (before ++ entry :: after).Nodup) : left.Sublist before ∧ right.Sublist after := by
  rw [List.nodup_middle, List.nodup_cons, List.mem_append, not_or] at once
  rcases once with ⟨⟨notBefore, notAfter⟩, _⟩
  rcases List.sublist_append_iff.mp sub with ⟨first, second, split, onBefore, onRest⟩
  rcases List.append_eq_append_iff.mp split with ⟨middle, rfl, rest⟩ | ⟨middle, rfl, rest⟩
  · cases middle with
    | nil =>
        rw [List.nil_append] at rest
        rw [← rest] at onRest
        rw [List.append_nil] at onBefore
        exact ⟨onBefore, List.cons_sublist_cons.mp onRest⟩
    | cons head middle =>
        rw [List.cons_append, List.cons.injEq] at rest
        rw [rest.1] at notBefore
        exact (notBefore (onBefore.subset (by simp))).elim
  · cases middle with
    | nil =>
        rw [List.nil_append] at rest
        rw [rest] at onRest
        rw [List.append_nil]
        exact ⟨onBefore, List.cons_sublist_cons.mp onRest⟩
    | cons head middle =>
        rw [rest] at onRest
        refine (notAfter ?_).elim
        rcases List.sublist_cons_iff.mp onRest with short | ⟨tail, same, short⟩
        · exact short.subset (by simp)
        · cases same
          exact short.subset (by simp)

/-- A history that leaves out some events, but no start, keeps the interval. -/
theorem Since.of_sublist {start stop : ε → Prop} {start' stop' : ε' → Prop} {key : ε → κ}
    {key' : ε' → κ} {events : List ε} {events' : List ε'} (since : Since start stop events)
    (sub : (events'.map key').Sublist (events.map key)) (once : (events.map key).Nodup)
    (starts : ∀ event ∈ events, start event → ∃ event' ∈ events', key' event' = key event ∧
      start' event')
    (stops : ∀ event ∈ events, ∀ event' ∈ events', key' event' = key event → stop' event' →
      stop event) :
    Since start' stop' events' := by
  rcases since with ⟨before, event, after, rfl, starting, quiet⟩
  rcases starts event (by simp) starting with ⟨event', membership, same, starting'⟩
  rcases List.append_of_mem membership with ⟨before', after', rfl⟩
  rw [List.map_append, List.map_append, List.map_cons, List.map_cons, same] at sub
  rw [List.map_append, List.map_cons] at once
  have onAfter := (sublist_of_split sub once).2
  refine ⟨before', event', after', rfl, starting', ?_⟩
  intro later' inAfter' stopping
  have kept : key' later' ∈ after.map key := onAfter.subset (List.mem_map_of_mem inAfter')
  rcases List.mem_map.mp kept with ⟨later, inAfter, sameKey⟩
  exact quiet later inAfter (stops later (by simp [inAfter]) later' (by simp [inAfter'])
    sameKey.symm stopping)

/-- An interval in the image of a history. -/
theorem since_map {start stop : ε' → Prop} {image : ε → ε'} {events : List ε} :
    Since start stop (events.map image) ↔
      Since (fun event => start (image event)) (fun event => stop (image event)) events := by
  induction events with
  | nil => simp
  | cons event events ih => rw [List.map_cons, since_cons, since_cons, ih, List.forall_mem_map]

end History
