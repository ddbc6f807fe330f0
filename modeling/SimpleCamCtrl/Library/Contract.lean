import SimpleCamCtrl.Library.Interaction
import SimpleCamCtrl.Library.Monitor

/-!
# Contracts of interactive programs

Properties of all executions of a program, composed along its structure: what holds of
its calls and its result, which calls it can make, and how it moves a monitor that watches
the calls.
-/

namespace Interaction

variable {κ ρ α β : Type}

/-- The postcondition holds of the calls and the result of every execution. -/
def Ensures (program : Interaction κ ρ α) (post : List (κ × ρ) → α → Prop) : Prop :=
  ∀ calls result, Exec program calls result → post calls result

section Ensures

variable {first : Interaction κ ρ α} {next : α → Interaction κ ρ β}

@[simp] theorem ensures_pure {value : α} {post : List (κ × ρ) → α → Prop} :
    Ensures (pure value) post ↔ post [] value := by
  constructor
  · exact fun ensures => ensures [] value .done
  · intro holds calls result execution
    rcases exec_pure.mp execution with ⟨rfl, rfl⟩
    exact holds

theorem ensures_perform_bind {request : κ} {next : ρ → Interaction κ ρ β}
    {post : List (κ × ρ) → β → Prop} :
    Ensures (perform request >>= next) post ↔
      ∀ reply, Ensures (next reply) fun calls result =>
        post ((request, reply) :: calls) result := by
  constructor
  · intro ensures reply calls result execution
    exact ensures _ result (exec_perform_bind.mpr ⟨reply, calls, rfl, execution⟩)
  · intro each calls result execution
    rcases exec_perform_bind.mp execution with ⟨reply, rest, rfl, onNext⟩
    exact each reply rest result onNext

/-- A composition is verified part by part. -/
theorem Ensures.bind {middle : List (κ × ρ) → α → Prop} {post : List (κ × ρ) → β → Prop}
    (onFirst : Ensures first middle)
    (onNext : ∀ left value, middle left value →
      Ensures (next value) fun right result => post (left ++ right) result) :
    Ensures (first >>= next) post := by
  intro calls result execution
  rcases exec_bind.mp execution with ⟨left, value, right, rfl, executesFirst, executesNext⟩
  exact onNext left value (onFirst left value executesFirst) right result executesNext

theorem Ensures.mono {post weaker : List (κ × ρ) → α → Prop} (ensures : Ensures first post)
    (implies : ∀ calls result, post calls result → weaker calls result) : Ensures first weaker :=
  fun calls result execution => implies calls result (ensures calls result execution)

end Ensures

/-- The program makes only calls that are allowed. -/
def Only (allowed : κ → Prop) (program : Interaction κ ρ α) : Prop :=
  Ensures program fun calls _ => ∀ call ∈ calls, allowed call.1

section Only

variable {allowed : κ → Prop} {first : Interaction κ ρ α} {next : α → Interaction κ ρ β}

theorem only_pure (value : α) : Only allowed (pure value : Interaction κ ρ α) := by
  simp [Only]

theorem only_perform {request : κ} (isAllowed : allowed request) :
    Only allowed (perform request : Interaction κ ρ ρ) := by
  intro calls reply execution call membership
  rw [exec_perform.mp execution] at membership
  rwa [List.mem_singleton.mp membership]

theorem Only.bind (onFirst : Only allowed first) (onNext : ∀ value, Only allowed (next value)) :
    Only allowed (first >>= next) := by
  refine Ensures.bind onFirst ?_
  intro left value earlier right result execution call membership
  rcases List.mem_append.mp membership with inLeft | inRight
  · exact earlier call inLeft
  · exact onNext value right result execution call inRight

theorem Only.mono {weaker : κ → Prop} (only : Only allowed first)
    (implies : ∀ request, allowed request → weaker request) : Only weaker first :=
  Ensures.mono only fun _ _ inside call membership => implies call.1 (inside call membership)

theorem only_ite {condition : Prop} [Decidable condition] {other : Interaction κ ρ α}
    (onTrue : condition → Only allowed first) (onFalse : ¬condition → Only allowed other) :
    Only allowed (if condition then first else other) := by
  split
  · rename_i holds
    exact onTrue holds
  · rename_i fails
    exact onFalse fails

end Only

/-- The program makes at most so many calls. -/
def Within (fuel : Nat) (program : Interaction κ ρ α) : Prop :=
  Ensures program fun calls _ => calls.length ≤ fuel

section Within

variable {fuel more : Nat} {first : Interaction κ ρ α} {next : α → Interaction κ ρ β}

theorem within_pure (value : α) : Within 0 (pure value : Interaction κ ρ α) := by
  simp [Within]

theorem within_perform_bind {request : κ} {next : ρ → Interaction κ ρ β}
    (onNext : ∀ reply, Within fuel (next reply)) :
    Within (fuel + 1) (perform request >>= next) := by
  rw [Within, ensures_perform_bind]
  intro reply calls result execution
  rw [List.length_cons]
  exact Nat.succ_le_succ (onNext reply calls result execution)

theorem Within.bind (onFirst : Within fuel first) (onNext : ∀ value, Within more (next value)) :
    Within (fuel + more) (first >>= next) := by
  refine Ensures.bind onFirst ?_
  intro left value few right result execution
  rw [List.length_append]
  exact Nat.add_le_add few (onNext value right result execution)

theorem within_guard {stop : Prop} [Decidable stop] {early : α} {rest : Interaction κ ρ α}
    (onRest : Within fuel rest) : Within fuel (if stop then pure early else rest) := by
  split
  · simp [Within]
  · exact onRest

/-- What is left after a call makes one call less. -/
theorem Within.resume [Inhabited ρ] {request : κ} {resume : ρ → Interaction κ ρ α}
    (within : Within fuel (.call request resume)) (reply : ρ) :
    ∃ left, fuel = left + 1 ∧ Within left (resume reply) := by
  rcases exists_exec (resume reply) with ⟨calls, result, execution⟩
  have positive : calls.length + 1 ≤ fuel := within _ result (.call execution)
  refine ⟨fuel - 1, by omega, ?_⟩
  intro calls result execution
  have few : calls.length + 1 ≤ fuel := within _ result (.call execution)
  omega

end Within

variable {σ ε : Type*}

/-- Every execution with a wanted result is accepted by the monitor and moves it from one
state to the other. -/
def SettlesOn (wanted : α → Prop) (step : σ → ε → Option σ) (action : κ × ρ → ε)
    (program : Interaction κ ρ α) (before after : σ) : Prop :=
  Ensures program fun calls result =>
    wanted result → Monitor.run step action before calls = some after

/-- Every execution of the program moves the monitor from one state to the other. -/
abbrev Settles (step : σ → ε → Option σ) (action : κ × ρ → ε) (program : Interaction κ ρ α)
    (before after : σ) : Prop :=
  SettlesOn (fun _ => True) step action program before after

section Settles

variable {step : σ → ε → Option σ} {action : κ × ρ → ε} {before between after : σ}
variable {first : Interaction κ ρ α} {next : α → Interaction κ ρ β} {wanted : β → Prop}

theorem settles_pure (value : β) :
    SettlesOn wanted step action (pure value : Interaction κ ρ β) before before := by
  simp [SettlesOn]

/-- What gives up owes nothing. -/
theorem settles_pure_of_not {value : β} (unwanted : ¬wanted value) :
    SettlesOn wanted step action (pure value : Interaction κ ρ β) before after := by
  simp [SettlesOn, unwanted]

theorem settles_perform_bind {request : κ} {next : ρ → Interaction κ ρ β}
    (stepped : ∀ reply, ∃ between, step before (action (request, reply)) = some between ∧
      SettlesOn wanted step action (next reply) between after) :
    SettlesOn wanted step action (perform request >>= next) before after := by
  rw [SettlesOn, ensures_perform_bind]
  intro reply calls result execution isWanted
  rcases stepped reply with ⟨between, moved, settles⟩
  rw [Monitor.run_cons, moved]
  exact settles calls result execution isWanted

theorem SettlesOn.bind (onFirst : Settles step action first before between)
    (onNext : ∀ value, SettlesOn wanted step action (next value) between after) :
    SettlesOn wanted step action (first >>= next) before after := by
  refine Ensures.bind onFirst ?_
  intro left value earlier right result execution isWanted
  rw [Monitor.run_append, earlier trivial]
  exact onNext value right result execution isWanted

/-- Calls that the monitor ignores leave it where it is. -/
theorem Only.settles {allowed : κ → Prop} (only : Only allowed first)
    (ignored : ∀ request reply, allowed request →
      step before (action (request, reply)) = some before) :
    Settles step action first before before := by
  intro calls result execution _
  apply Monitor.run_of_stays
  intro call membership
  exact ignored call.1 call.2 (only calls result execution call membership)

end Settles

variable {κ' ρ' : Type}

/-- A program as a part of one with more calls, whose replies contain those it reads. -/
def embed (request : κ → κ') (reply : ρ' → ρ) : Interaction κ ρ α → Interaction κ' ρ' α
  | .done result => .done result
  | .call asked resume => .call (request asked) fun answer =>
      embed request reply (resume (reply answer))

/-- The executions of an embedded program are those of the program. -/
theorem exec_of_embed {request : κ → κ'} {reply : ρ' → ρ} {program : Interaction κ ρ α}
    {calls : List (κ' × ρ')} {result : α}
    (execution : Exec (program.embed request reply) calls result) :
    ∃ inner, Exec program inner result ∧
      List.Forall₂ (fun call outer => outer.1 = request call.1 ∧ call.2 = reply outer.2)
        inner calls := by
  induction program generalizing calls with
  | done value =>
      cases execution
      exact ⟨[], .done, .nil⟩
  | call asked resume ih =>
      cases execution with
      | call rest =>
          rename_i answer later
          rcases ih (reply answer) rest with ⟨inner, executes, related⟩
          exact ⟨(asked, reply answer) :: inner, .call executes, .cons ⟨rfl, rfl⟩ related⟩

/-- The calls of the outer program that the embedded one makes are its own, for a projection
that recognises them. -/
theorem filterMap_of_embed {request : κ → κ'} {reply : ρ' → ρ} {part : κ' × ρ' → Option (κ × ρ)}
    (recognised : ∀ asked answer, part (request asked, answer) = some (asked, reply answer))
    {program : Interaction κ ρ α} {calls : List (κ' × ρ')} {result : α}
    (execution : Exec (program.embed request reply) calls result) :
    Exec program (calls.filterMap part) result := by
  rcases exec_of_embed execution with ⟨inner, executes, related⟩
  have same : calls.filterMap part = inner := by
    clear execution executes
    induction related with
    | nil => rfl
    | @cons call outer inner calls same _ ih =>
        have here : part outer = some call := by
          rw [← Prod.eta outer, same.1, recognised, ← same.2]
        rw [List.filterMap_cons_some here, ih]
  rwa [same]

/-- A program that makes no call of the part. -/
theorem filterMap_of_only {part : κ' × ρ' → Option (κ × ρ)} {program : Interaction κ' ρ' α}
    {calls : List (κ' × ρ')} {result : α}
    (only : Only (fun request => ∀ answer, part (request, answer) = none) program)
    (execution : Exec program calls result) : calls.filterMap part = [] := by
  rw [List.filterMap_eq_nil_iff]
  intro call membership
  exact only calls result execution call membership call.2

theorem Only.embed {request : κ → κ'} {reply : ρ' → ρ} {program : Interaction κ ρ α}
    {allowed : κ → Prop} {allowed' : κ' → Prop} (only : Only allowed program)
    (implies : ∀ asked, allowed asked → allowed' (request asked)) :
    Only allowed' (program.embed request reply) := by
  intro calls result execution
  rcases exec_of_embed execution with ⟨inner, executes, related⟩
  have inside := only inner result executes
  clear execution executes only
  induction related with
  | nil => simp
  | cons same _ ih =>
      rw [List.forall_mem_cons] at inside ⊢
      rw [same.1]
      exact ⟨implies _ inside.1, ih inside.2⟩

/-- A part whose calls the monitor ignores. -/
theorem settles_embed {σ ε : Type*} {step : σ → ε → Option σ} {action : κ' × ρ' → ε}
    {before : σ} {request : κ → κ'} {reply : ρ' → ρ} (program : Interaction κ ρ α)
    (ignored : ∀ asked answer, step before (action (request asked, answer)) = some before) :
    Settles step action (program.embed request reply) before before := by
  have anything : Only (fun _ => True) program := fun _ _ _ _ _ => trivial
  have only : Only (fun sent => ∃ asked, request asked = sent) (program.embed request reply) :=
    anything.embed fun asked _ => ⟨asked, rfl⟩
  refine only.settles ?_
  intro sent answer isRequest
  rcases isRequest with ⟨asked, rfl⟩
  exact ignored asked answer

end Interaction
