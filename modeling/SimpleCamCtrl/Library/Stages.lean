import SimpleCamCtrl.Library.Interaction
import Mathlib.Algebra.BigOperators.Group.List.Basic
import Mathlib.Algebra.GroupWithZero.Nat

/-!
# Programs in stages

A stage is a language of call histories, each with the verdict whether the stage passed.
Stages in a sequence run one after the other until one of them fails.  An interactive
program implements a stage when its executions are exactly the histories of the stage,
and it hands on the last reply that it got.
-/

namespace Stages

/-- The events of a stage, and whether the stage passed. -/
abbrev Stage (ε : Type) := List ε → Bool → Prop

/-- Stages one after the other; the first that fails is the last. -/
inductive Sequence {ε : Type} : List (Stage ε) → List ε → Bool → Prop where
  | nil : Sequence [] [] true
  | failed {stage : Stage ε} {stages : List (Stage ε)} {events : List ε} :
      stage events false → Sequence (stage :: stages) events false
  | passed {stage : Stage ε} {stages : List (Stage ε)} {left right : List ε} {ok : Bool} :
      stage left true → Sequence stages right ok →
      Sequence (stage :: stages) (left ++ right) ok

section Sequence

variable {ε : Type} {stage : Stage ε} {stages : List (Stage ε)} {events : List ε} {ok : Bool}

theorem sequence_nil : Sequence ([] : List (Stage ε)) events ok ↔ events = [] ∧ ok = true := by
  constructor
  · intro sequence
    cases sequence
    exact ⟨rfl, rfl⟩
  · intro equal
    rcases equal with ⟨rfl, rfl⟩
    exact .nil

theorem sequence_cons :
    Sequence (stage :: stages) events ok ↔
      (ok = false ∧ stage events false) ∨
        ∃ left right, events = left ++ right ∧ stage left true ∧ Sequence stages right ok := by
  constructor
  · intro sequence
    cases sequence with
    | failed fails => exact Or.inl ⟨rfl, fails⟩
    | passed passes rest => exact Or.inr ⟨_, _, rfl, passes, rest⟩
  · intro cases
    rcases cases with ⟨rfl, fails⟩ | ⟨left, right, rfl, passes, rest⟩
    · exact .failed fails
    · exact .passed passes rest

/-- A sequence of bounded stages is bounded by the sum of the bounds. -/
theorem Sequence.length_le {bounds : List ℕ} (sequence : Sequence stages events ok)
    (bounded : List.Forall₂ (fun stage bound => ∀ events ok, stage events ok →
      events.length ≤ bound) stages bounds) : events.length ≤ bounds.sum := by
  induction sequence generalizing bounds with
  | nil => simp
  | failed fails =>
      cases bounded with
      | cons first _ =>
          rw [List.sum_cons]
          exact Nat.le_add_right_of_le (first _ _ fails)
  | passed passes _ ih =>
      cases bounded with
      | cons first rest =>
          rw [List.sum_cons, List.length_append]
          exact Nat.add_le_add (first _ _ passes) (ih rest)

end Sequence

open Interaction

variable {κ ρ : Type} {stage : Stage (κ × ρ)} {stages : List (Stage (κ × ρ))}

/-- The reply to the last call, or the initial one if there was no call. -/
def lastReply (initial : ρ) (calls : List (κ × ρ)) : ρ :=
  calls.foldl (fun _ call => call.2) initial

@[simp] theorem lastReply_nil (initial : ρ) : lastReply initial ([] : List (κ × ρ)) = initial :=
  rfl

@[simp] theorem lastReply_append (initial : ρ) (left right : List (κ × ρ)) :
    lastReply initial (left ++ right) = lastReply (lastReply initial left) right :=
  List.foldl_append

@[simp] theorem lastReply_cons (initial : ρ) (call : κ × ρ) (calls : List (κ × ρ)) :
    lastReply initial (call :: calls) = lastReply call.2 calls := rfl

theorem lastReply_of_getLast? {calls : List (κ × ρ)} {call : κ × ρ}
    (last : calls.getLast? = some call) (initial : ρ) : lastReply initial calls = call.2 := by
  rcases List.getLast?_eq_some_iff.mp last with ⟨before, rfl⟩
  simp

/-- The executions of the program are the histories of the stage; the result is the
verdict and the last reply. -/
def Implements (program : ρ → Interaction κ ρ (Bool × ρ)) (stage : Stage (κ × ρ)) : Prop :=
  ∀ initial calls ok last,
    Exec (program initial) calls (ok, last) ↔ stage calls ok ∧ lastReply initial calls = last

/-- A program that gives up when its first stage fails implements the sequence. -/
theorem Implements.andThen {program : ρ → Interaction κ ρ (Bool × ρ)}
    {next : Bool × ρ → Interaction κ ρ (Bool × ρ)} (first : Implements program stage)
    (giveUp : ∀ last, next (false, last) = pure (false, last))
    (rest : Implements (fun last => next (true, last)) (Sequence stages)) :
    Implements (fun initial => program initial >>= next) (Sequence (stage :: stages)) := by
  intro initial calls ok last
  rw [exec_bind, sequence_cons]
  constructor
  · intro execution
    rcases execution with ⟨left, ⟨passed, reply⟩, right, rfl, onFirst, onNext⟩
    rcases (first _ _ _ _).mp onFirst with ⟨history, rfl⟩
    cases passed with
    | false =>
        rw [giveUp, exec_pure] at onNext
        rcases onNext with ⟨rfl, same⟩
        cases same
        exact ⟨Or.inl ⟨rfl, by rwa [List.append_nil]⟩, by rw [List.append_nil]⟩
    | true =>
        rcases (rest _ _ _ _).mp onNext with ⟨later, rfl⟩
        exact ⟨Or.inr ⟨left, right, rfl, history, later⟩, lastReply_append _ _ _⟩
  · intro history
    rcases history with ⟨⟨rfl, fails⟩ | ⟨left, right, rfl, passes, later⟩, rfl⟩
    · refine ⟨calls, _, [], (List.append_nil _).symm, (first _ _ _ _).mpr ⟨fails, rfl⟩, ?_⟩
      rw [giveUp]
      exact exec_pure.mpr ⟨rfl, rfl⟩
    · refine ⟨left, _, right, rfl, (first _ _ _ _).mpr ⟨passes, rfl⟩, ?_⟩
      exact (rest _ _ _ _).mpr ⟨later, (lastReply_append _ _ _).symm⟩

/-- The last stage of a program needs no continuation. -/
theorem Implements.last {program : ρ → Interaction κ ρ (Bool × ρ)}
    (only : Implements program stage) : Implements program (Sequence [stage]) := by
  intro initial calls ok last
  rw [only, sequence_cons]
  refine and_congr_left fun _ => ?_
  constructor
  · intro history
    cases ok with
    | false => exact Or.inl ⟨rfl, history⟩
    | true => exact Or.inr ⟨calls, [], (List.append_nil _).symm, history, .nil⟩
  · intro cases
    rcases cases with ⟨rfl, history⟩ | ⟨left, right, rfl, history, done⟩
    · exact history
    · rcases sequence_nil.mp done with ⟨rfl, rfl⟩
      rwa [List.append_nil]

end Stages
