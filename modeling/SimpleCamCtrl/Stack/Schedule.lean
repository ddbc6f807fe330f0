import SimpleCamCtrl.Stack.Composition
import SimpleCamCtrl.Wia.Schedule

/-!
# Playing the schedule of the stack

The steps of the whole stack as a function of what a schedule decides.
-/

namespace SimpleCamCtrl.Stack

open Impl (PublicCall sonyInterface)
open Wia (WiaTransport)

/-- What a schedule decides: which part moves, and what it is asked for or told. -/
inductive Choice (θ τ : Type) (sizeT : SizeT) where
  | api (choice : Guarded.Choice θ (PublicCall τ) (EscapeResult sizeT))
  | issue (thread : θ)
  /-- A step of the `Escape` call that a thread is in, on its transport. -/
  | caller (thread : θ) (move : Ticket τ sizeT → Wia.Choice (Ticket τ sizeT))
  /-- A step of an owner thread. -/
  | owner (transport : τ) (choice : Wia.Choice (Ticket τ sizeT))
  | answer (thread : θ)

instance {ι : Type} {sizeT : SizeT} : (label : Wia.Label ι sizeT) → Decidable (Internal label)
  | .call _ | .reject _ | .spawnFails _ => isFalse id
  | .spawn _ | .alreadyStarted _ | .enqueue _ | .timeout _ | .collect _ _ | .coInitialize _
  | .dequeue _ | .system _ _ _ | .fulfil _ _ | .stop | .exit => isTrue trivial

section Advance

variable {θ τ : Type} {sizeT : SizeT} [Commons] [DecidableEq θ] [DecidableEq τ]
variable (deviceId : τ → String) (self : Assembly θ τ sizeT)

/-- A step of a transport. -/
def advanceTransport (transport : τ) (choice : Wia.Choice (Ticket τ sizeT)) :
    Option (Label θ τ sizeT × Assembly θ τ sizeT) :=
  match Wia.advance (deviceId transport) Ticket.arguments (self.transports transport) choice with
  | some (label, next) =>
      if Internal label then
        some (.transport transport label, self.setTransport transport next)
      else
        none
  | none => none

/-- The step that a choice leads to, if it is possible. -/
def advance : Choice θ τ sizeT → Option (Label θ τ sizeT × Assembly θ τ sizeT)
  | .api choice =>
      match Guarded.advance sonyInterface self.api choice with
      | some (label, api) =>
          if label.exchanged.isNone then some (.api label, { self with api := api }) else none
      | none => none
  | .issue thread =>
      match self.pending thread, self.api.phase thread with
      | none, .running _ (.call request _) =>
          if fits : request.writeData.length < sizeT.modulus then
            match Wia.advance (deviceId request.transport) Ticket.arguments
                (self.transports request.transport) (.call ⟨self.issued, request, fits⟩) with
            | some (_, next) =>
                some (.issue thread ⟨self.issued, request, fits⟩,
                  { self.setTransport request.transport next with
                    issued := self.issued + 1
                    pending :=
                      Function.update self.pending thread (some ⟨self.issued, request, fits⟩) })
            | none => none
          else
            none
      | _, _ => none
  | .caller thread move =>
      match self.pending thread with
      | some ticket => advanceTransport deviceId self ticket.request.transport (move ticket)
      | none => none
  | .owner transport choice => advanceTransport deviceId self transport choice
  | .answer thread =>
      match self.pending thread, self.api.phase thread with
      | some ticket, .running op (.call request resume) =>
          match (self.transports ticket.request.transport).caller ticket with
          | .returned reply =>
              if request = ticket.request then
                some (.answer thread ticket reply,
                  { self with
                    api := self.api.setPhase thread (.running op (resume reply))
                    pending := Function.update self.pending thread none })
              else
                none
          | _ => none
      | _, _ => none

variable {deviceId self} {label : Label θ τ sizeT} {next : Assembly θ τ sizeT}

theorem step_of_advanceTransport {transport : τ} {choice : Wia.Choice (Ticket τ sizeT)}
    (advanced : advanceTransport deviceId self transport choice = some (label, next)) :
    Step deviceId self label next := by
  rw [advanceTransport] at advanced
  split at advanced
  · rename_i moved
    split at advanced
    · rename_i internal
      cases advanced
      exact .transport (Wia.step_of_advance moved) internal
    · cases advanced
  · cases advanced

/-- An `Escape` call begins as its ticket says. -/
theorem entry_of_advance {deviceId : String} {transport : WiaTransport (Ticket τ sizeT) sizeT}
    {ticket : Ticket τ sizeT} {label : Wia.Label (Ticket τ sizeT) sizeT}
    {state : WiaTransport (Ticket τ sizeT) sizeT}
    (advanced : Wia.advance deviceId Ticket.arguments transport (.call ticket) =
      some (label, state)) : label = ticket.entry := by
  simp only [Wia.advance] at advanced
  split at advanced
  · split at advanced
    · rename_i few
      cases advanced
      exact (if_pos few).symm
    · rename_i many
      cases advanced
      exact (if_neg many).symm
  · cases advanced

theorem step_of_advance {choice : Choice θ τ sizeT}
    (advanced : advance deviceId self choice = some (label, next)) :
    Step deviceId self label next := by
  cases choice with
  | api choice =>
      simp only [advance] at advanced
      split at advanced
      · rename_i moved
        split at advanced
        · rename_i silent
          cases advanced
          exact .api (Guarded.step_of_advance moved) (Option.isNone_iff_eq_none.mp silent)
        · cases advanced
      · cases advanced
  | issue thread =>
      simp only [advance] at advanced
      split at advanced
      · rename_i nothing runs
        split at advanced
        · split at advanced
          · rename_i entered
            cases advanced
            have begun := Wia.step_of_advance entered
            rw [entry_of_advance entered] at begun
            exact .issue nothing runs rfl begun
          · cases advanced
        · cases advanced
      · cases advanced
  | caller thread move =>
      simp only [advance] at advanced
      split at advanced
      · exact step_of_advanceTransport advanced
      · cases advanced
  | owner transport choice => exact step_of_advanceTransport advanced
  | answer thread =>
      simp only [advance] at advanced
      split at advanced
      · rename_i waits runs
        split at advanced
        · rename_i returned
          split at advanced
          · rename_i same
            cases advanced
            subst same
            exact .answer waits returned (.exchange runs)
          · cases advanced
        · cases advanced
      · cases advanced

variable (deviceId) in
/-- The steps of a whole schedule; `none` when one of its choices is not possible. -/
def play : Assembly θ τ sizeT → List (Choice θ τ sizeT) →
    Option (List (Label θ τ sizeT) × Assembly θ τ sizeT)
  | self, [] => some ([], self)
  | self, choice :: choices =>
      (advance deviceId self choice).bind fun stepped =>
        (play stepped.2 choices).map fun rest => (stepped.1 :: rest.1, rest.2)

theorem path_of_play {choices : List (Choice θ τ sizeT)} {labels : List (Label θ τ sizeT)}
    (played : play deviceId self choices = some (labels, next)) :
    History.Path (Step deviceId) self labels next := by
  induction choices generalizing self labels with
  | nil =>
      cases played
      exact .nil
  | cons choice choices ih =>
      simp only [play, Option.bind_eq_some_iff, Option.map_eq_some_iff, Prod.mk.injEq] at played
      rcases played with ⟨⟨label, middle⟩, advanced, ⟨later, final⟩, rest, rfl, rfl⟩
      exact .cons (step_of_advance advanced) (ih rest)

variable (deviceId) in
/-- The steps of a schedule that starts with new objects. -/
def playedLabels (choices : List (Choice θ τ sizeT)) : List (Label θ τ sizeT) :=
  ((play deviceId { api := { object := Impl.construct } } choices).map Prod.fst).getD []

theorem run_of_play {choices : List (Choice θ τ sizeT)}
    (plays : (play deviceId { api := { object := Impl.construct } } choices).isSome = true) :
    ∃ final, StackRun deviceId (playedLabels deviceId choices) final := by
  rcases Option.isSome_iff_exists.mp plays with ⟨⟨labels, final⟩, played⟩
  have start : StackRun deviceId ([] : List (Label θ τ sizeT))
      { api := { object := Impl.construct } } := .start rfl
  refine ⟨final, ?_⟩
  rw [playedLabels, played]
  exact start.append_path (path_of_play played)

end Advance

end SimpleCamCtrl.Stack
