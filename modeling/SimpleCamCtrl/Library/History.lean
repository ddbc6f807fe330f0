import Mathlib.Data.List.Basic
import Mathlib.Data.List.Induction

/-!
# Histories of labelled runs

Properties of finite event histories, read in chronological order, and runs of a
transition system that produce them.  `Since` is the past-time operator "`start`
happened and `stop` has not happened after it"; `Each` constrains every event by
the history before it; `Run` couples a history with the state it leads to.
-/

namespace History

variable {ε : Type*}

/-- `start` occurred at some event of the history, and `stop` at none after it. -/
def Since (start stop : ε → Prop) (history : List ε) : Prop :=
  ∃ before event after, history = before ++ event :: after ∧ start event ∧
    ∀ later ∈ after, ¬stop later

/-- Every event satisfies `property` relative to the history that precedes it. -/
def Each (property : List ε → ε → Prop) (history : List ε) : Prop :=
  ∀ before event after, history = before ++ event :: after → property before event

section Since

variable {start stop : ε → Prop}

@[simp] theorem since_nil : ¬Since start stop [] := by
  intro since
  rcases since with ⟨before, event, after, split, _⟩
  simp at split

/-- Extending the history by a whole block: either the latest start lies in the
block, or it lies before and the block contains no stop. -/
theorem since_append (left right : List ε) :
    Since start stop (left ++ right) ↔
      Since start stop right ∨
        (Since start stop left ∧ ∀ event ∈ right, ¬stop event) := by
  constructor
  · intro since
    rcases since with ⟨before, event, after, split, starts, quiet⟩
    rcases List.append_eq_append_iff.mp split with
      ⟨middle, rfl, rightEq⟩ | ⟨middle, rfl, restEq⟩
    · exact Or.inl ⟨middle, event, after, rightEq, starts, quiet⟩
    · cases middle with
      | nil => exact Or.inl ⟨[], event, after, by simpa using restEq.symm, starts, quiet⟩
      | cons first middle =>
          simp only [List.cons_append, List.cons.injEq] at restEq
          rcases restEq with ⟨rfl, rfl⟩
          refine Or.inr ⟨⟨before, event, middle, rfl, starts, ?_⟩, ?_⟩
          · exact fun later membership => quiet later (by simp [membership])
          · exact fun later membership => quiet later (by simp [membership])
  · intro cases
    rcases cases with inRight | ⟨inLeft, silent⟩
    · rcases inRight with ⟨before, event, after, rfl, starts, quiet⟩
      exact ⟨left ++ before, event, after, by simp, starts, quiet⟩
    · rcases inLeft with ⟨before, event, after, rfl, starts, quiet⟩
      refine ⟨before, event, after ++ right, by simp, starts, ?_⟩
      intro later membership
      rcases List.mem_append.mp membership with old | new
      · exact quiet later old
      · exact silent later new

@[simp] theorem since_singleton (event : ε) :
    Since start stop [event] ↔ start event := by
  constructor
  · intro since
    rcases since with ⟨before, first, after, split, starts, _⟩
    cases before with
    | nil =>
        simp only [List.nil_append, List.cons.injEq] at split
        exact split.1 ▸ starts
    | cons head before => simp at split
  · exact fun starts => ⟨[], event, [], rfl, starts, by simp⟩

/-- One more event either restarts the interval or must not stop it. -/
theorem since_snoc (history : List ε) (event : ε) :
    Since start stop (history ++ [event]) ↔
      start event ∨ (Since start stop history ∧ ¬stop event) := by
  simp [since_append]

theorem since_cons (event : ε) (history : List ε) :
    Since start stop (event :: history) ↔
      Since start stop history ∨ (start event ∧ ∀ later ∈ history, ¬stop later) := by
  have split : Since start stop ([event] ++ history) ↔ _ :=
    since_append [event] history
  simpa using split

instance decidableSince [DecidablePred start] [DecidablePred stop] :
    (history : List ε) → Decidable (Since start stop history)
  | [] => isFalse since_nil
  | event :: history =>
      have := decidableSince history
      decidable_of_iff _ (since_cons event history).symm

/-- Without a starting event nothing is pending. -/
theorem not_since_of_forall_not {history : List ε}
    (absent : ∀ event ∈ history, ¬start event) : ¬Since start stop history := by
  intro since
  rcases since with ⟨before, event, after, rfl, starts, _⟩
  exact absent event (by simp) starts

/-- A block that neither starts nor stops leaves the interval as it was. -/
theorem since_append_of_neutral (left : List ε) {right : List ε}
    (noStart : ∀ event ∈ right, ¬start event)
    (noStop : ∀ event ∈ right, ¬stop event) :
    Since start stop (left ++ right) ↔ Since start stop left := by
  rw [since_append]
  constructor
  · intro cases
    rcases cases with inRight | ⟨inLeft, _⟩
    · exact (not_since_of_forall_not noStart inRight).elim
    · exact inLeft
  · exact fun inLeft => Or.inr ⟨inLeft, noStop⟩

/-- Fewer events that stop the interval keep it. -/
theorem Since.mono_stop {stop' : ε → Prop} {history : List ε} (since : Since start stop history)
    (fewer : ∀ event, stop' event → stop event) : Since start stop' history := by
  rcases since with ⟨before, event, after, split, starts, quiet⟩
  refine ⟨before, event, after, split, starts, ?_⟩
  intro later membership stops
  exact quiet later membership (fewer later stops)

/-- Some start is the latest one. -/
theorem since_iff_latest {history : List ε} :
    Since start stop history ↔
      Since start (fun event => start event ∨ stop event) history := by
  constructor
  · intro since
    induction history with
    | nil => exact (since_nil since).elim
    | cons event history ih =>
        rw [since_cons] at since ⊢
        rcases since with later | ⟨starts, quiet⟩
        · exact Or.inl (ih later)
        · by_cases restarted : ∃ other ∈ history, start other
          · rcases restarted with ⟨other, membership, restarts⟩
            rcases List.append_of_mem membership with ⟨before, after, split⟩
            refine Or.inl (ih ⟨before, other, after, split, restarts, ?_⟩)
            intro later inAfter
            exact quiet later (by simp [split, inAfter])
          · refine Or.inr ⟨starts, ?_⟩
            intro later membership either
            rcases either with restarts | stops
            · exact restarted ⟨later, membership, restarts⟩
            · exact quiet later membership stops
  · intro since
    rcases since with ⟨before, event, after, split, starts, quiet⟩
    exact ⟨before, event, after, split, starts,
      fun later membership stops => quiet later membership (Or.inr stops)⟩

end Since

/-- The latest event of a kind lies in the part of the history that has one. -/
theorem exists_split_of_latest {property : ε → Prop} {left right before after : List ε} {event : ε}
    (split : left ++ right = before ++ event :: after) (latest : ∀ later ∈ after, ¬property later)
    (occurs : ∃ later ∈ right, property later) :
    ∃ middle, before = left ++ middle ∧ right = middle ++ event :: after := by
  rcases List.append_eq_append_iff.mp split with ⟨middle, same, rest⟩ | ⟨middle, same, rest⟩
  · exact ⟨middle, same, rest⟩
  · cases middle with
    | nil => exact ⟨[], by simpa using same.symm, rest.symm⟩
    | cons first middle =>
        rcases List.cons.inj rest with ⟨_, inAfter⟩
        rcases occurs with ⟨later, membership, holds⟩
        exact (latest later (inAfter ▸ List.mem_append_right _ membership) holds).elim

section Each

variable {property : List ε → ε → Prop}

@[simp] theorem each_nil : Each property [] := by
  intro before event after split
  simp at split

/-- A block is checked relative to everything that precedes it. -/
theorem each_append (left right : List ε) :
    Each property (left ++ right) ↔
      Each property left ∧
        Each (fun before event => property (left ++ before) event) right := by
  constructor
  · intro every
    constructor
    · intro before event after split
      exact every before event (after ++ right) (by simp [split])
    · intro before event after split
      exact every (left ++ before) event after (by simp [split])
  · intro both before event after split
    have onLeft := both.1
    have onRight := both.2
    rcases List.append_eq_append_iff.mp split with
      ⟨middle, rfl, rightEq⟩ | ⟨middle, rfl, restEq⟩
    · exact onRight middle event after rightEq
    · cases middle with
      | nil => simpa using onRight [] event after (by simpa using restEq.symm)
      | cons first middle =>
          simp only [List.cons_append, List.cons.injEq] at restEq
          rcases restEq with ⟨rfl, rfl⟩
          exact onLeft before event middle rfl

@[simp] theorem each_singleton (event : ε) :
    Each property [event] ↔ property [] event := by
  constructor
  · exact fun every => every [] event [] rfl
  · intro holds before first after split
    cases before with
    | nil =>
        simp only [List.nil_append, List.cons.injEq] at split
        exact split.1 ▸ holds
    | cons head before => simp at split

theorem each_snoc (history : List ε) (event : ε) :
    Each property (history ++ [event]) ↔
      Each property history ∧ property history event := by
  simp [each_append]

theorem each_cons (event : ε) (history : List ε) :
    Each property (event :: history) ↔
      property [] event ∧ Each (fun before => property (event :: before)) history := by
  have split : Each property ([event] ++ history) ↔ _ := each_append [event] history
  simpa using split

instance decidableEach : (property : List ε → ε → Prop) →
    [∀ before event, Decidable (property before event)] →
    (history : List ε) → Decidable (Each property history)
  | _, _, [] => isTrue each_nil
  | property, _, event :: history =>
      have := decidableEach (fun before => property (event :: before)) history
      decidable_of_iff _ (each_cons event history).symm

/-- A property that does not look at the past is checked event by event. -/
theorem each_of_forall {history : List ε}
    (holds : ∀ before, ∀ event ∈ history, property before event) :
    Each property history := by
  intro before event after split
  exact holds before event (by simp [split])

end Each

variable {σ : Type*}

/-- Runs of a transition system, with the labels of the steps taken so far.  A
step may be constrained by the labels that precede it. -/
inductive Run (init : σ → Prop) (step : List ε → σ → ε → σ → Prop) :
    List ε → σ → Prop where
  | start {state : σ} : init state → Run init step [] state
  | snoc {labels : List ε} {state state' : σ} {label : ε} :
      Run init step labels state → step labels state label state' →
      Run init step (labels ++ [label]) state'

/-- The steps from one state to another, from first to last. -/
inductive Path (step : σ → ε → σ → Prop) : σ → List ε → σ → Prop where
  | nil {state : σ} : Path step state [] state
  | cons {state state' state'' : σ} {label : ε} {labels : List ε} :
      step state label state' → Path step state' labels state'' →
      Path step state (label :: labels) state''

/-- Paths are joined where one ends and the other begins. -/
theorem Path.append {step : σ → ε → σ → Prop} {state state' state'' : σ} {left right : List ε}
    (first : Path step state left state') (second : Path step state' right state'') :
    Path step state (left ++ right) state'' := by
  induction first with
  | nil => exact second
  | cons stepped _ ih => exact .cons stepped (ih second)

/-- Every label of a path is that of a step. -/
theorem Path.exists_step {step : σ → ε → σ → Prop} {state state' : σ} {labels : List ε}
    (path : Path step state labels state') :
    ∀ label ∈ labels, ∃ before after, step before label after := by
  induction path with
  | nil => simp
  | cons stepped _ ih => exact List.forall_mem_cons.mpr ⟨⟨_, _, stepped⟩, ih⟩

namespace Run

variable {init : σ → Prop} {step : List ε → σ → ε → σ → Prop}
variable {labels : List ε} {state : σ}

/-- What holds initially and is preserved by every step holds along every run. -/
theorem invariant {inv : List ε → σ → Prop} (run : Run init step labels state)
    (initially : ∀ state, init state → inv [] state)
    (preserved : ∀ labels state label state', Run init step labels state →
      inv labels state → step labels state label state' →
      inv (labels ++ [label]) state') :
    inv labels state := by
  induction run with
  | start begins => exact initially _ begins
  | snoc run stepped ih => exact preserved _ _ _ _ run ih stepped

/-- What holds of the label of every step holds of all labels. -/
theorem forall_labels {property : ε → Prop} (run : Run init step labels state)
    (each : ∀ labels state label state', step labels state label state' → property label) :
    ∀ label ∈ labels, property label := by
  induction run with
  | start => simp
  | snoc _ stepped ih =>
      intro label membership
      rcases List.mem_append.mp membership with earlier | last
      · exact ih label earlier
      · rw [List.mem_singleton.mp last]
        exact each _ _ _ _ stepped

/-- The last step of a run. -/
theorem snoc_iff {label : ε} :
    Run init step (labels ++ [label]) state ↔
      ∃ earlier, Run init step labels earlier ∧ step labels earlier label state := by
  constructor
  · intro run
    generalize whole : labels ++ [label] = all at run
    cases run with
    | start => simp at whole
    | snoc earlier stepped =>
        rcases List.append_inj' whole rfl with ⟨rfl, last⟩
        cases last
        exact ⟨_, earlier, stepped⟩
  · intro parts
    rcases parts with ⟨earlier, run, stepped⟩
    exact .snoc run stepped

/-- The beginning of a run is a run. -/
theorem exists_of_append {more : List ε} (run : Run init step (labels ++ more) state) :
    ∃ earlier, Run init step labels earlier := by
  induction more using List.reverseRecOn generalizing state with
  | nil => exact ⟨state, by simpa using run⟩
  | append_singleton more label ih =>
      rw [← List.append_assoc, snoc_iff] at run
      rcases run with ⟨earlier, run, _⟩
      exact ih run

/-- Dropping a constraint on the steps keeps a run a run. -/
theorem mono {step' : List ε → σ → ε → σ → Prop} (run : Run init step labels state)
    (implies : ∀ labels state label state', step labels state label state' →
      step' labels state label state') :
    Run init step' labels state := by
  induction run with
  | start begins => exact .start begins
  | snoc _ stepped ih => exact .snoc ih (implies _ _ _ _ stepped)

/-- A run continues along a path. -/
theorem append_path {step : σ → ε → σ → Prop} {state' : σ} {more : List ε}
    (run : Run init (fun _ => step) labels state) (path : Path step state more state') :
    Run init (fun _ => step) (labels ++ more) state' := by
  induction path generalizing labels with
  | nil => simpa using run
  | cons stepped _ ih =>
      rw [List.append_cons]
      exact ih (.snoc run stepped)

end Run

end History
