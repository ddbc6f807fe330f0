import SimpleCamCtrl.Library.History
import Mathlib.Logic.Function.Basic

/-!
# Registers

Registers that the events of a history write, each event at most one of them.  What a register
holds changes only when an event writes it.
-/

namespace Registers

variable {ε κ β : Type*} [DecidableEq κ]

/-- The registers after one event. -/
def write (writes : ε → Option (κ × β)) (current : κ → β) (event : ε) : κ → β :=
  match writes event with
  | some (key, value) => Function.update current key value
  | none => current

/-- The registers after a history. -/
def contents (writes : ε → Option (κ × β)) (initial : κ → β) (history : List ε) : κ → β :=
  history.foldl (write writes) initial

/-- The event writes the register. -/
def Writes (writes : ε → Option (κ × β)) (key : κ) (event : ε) : Prop :=
  ∃ value, writes event = some (key, value)

variable {writes : ε → Option (κ × β)} {initial : κ → β} {history : List ε} {key : κ}

@[simp] theorem contents_nil : contents writes initial [] = initial := rfl

theorem contents_append (left right : List ε) :
    contents writes initial (left ++ right) = contents writes (contents writes initial left) right :=
  List.foldl_append

theorem contents_snoc (history : List ε) (event : ε) :
    contents writes initial (history ++ [event]) =
      write writes (contents writes initial history) event := by
  rw [contents_append]
  rfl

/-- What an event does not write it leaves. -/
theorem write_of_not_writes {current : κ → β} {event : ε} (spared : ¬Writes writes key event) :
    write writes current event key = current key := by
  rw [write]
  cases written : writes event with
  | none => rfl
  | some entry =>
      rcases entry with ⟨other, value⟩
      have different : key ≠ other := by
        rintro rfl
        exact spared ⟨value, written⟩
      exact Function.update_of_ne different value current

/-- A block of events that do not write a register leaves it. -/
theorem contents_append_of_not_writes (left : List ε) {right : List ε}
    (spared : ∀ event ∈ right, ¬Writes writes key event) :
    contents writes initial (left ++ right) key = contents writes initial left key := by
  induction right using List.reverseRecOn with
  | nil => rw [List.append_nil]
  | append_singleton right event ih =>
      rw [← List.append_assoc, contents_snoc, write_of_not_writes (spared event (by simp))]
      exact ih fun earlier membership => spared earlier (by simp [membership])

end Registers
