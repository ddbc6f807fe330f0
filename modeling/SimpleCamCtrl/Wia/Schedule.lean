import SimpleCamCtrl.Wia.Transport

/-!
# Playing the schedule of a transport

The steps of a transport as a function of what a schedule decides, so that runs can be
computed.
-/

namespace SimpleCamCtrl.Wia

open Interaction

variable {ι : Type} {sizeT : SizeT}

/-- What a schedule decides for a transport: whose turn it is, and what the system returns. -/
inductive Choice (ι : Type) where
  | call (caller : ι)
  | spawn (caller : ι)
  | alreadyStarted (caller : ι)
  | enqueue (caller : ι)
  | timeout (caller : ι)
  | collect (caller : ι)
  | coInitialize (hrCom : Int32)
  | dequeue
  | system (reply : SystemReply)
  | fulfil
  | stop
  | exit

section Advance

variable [DecidableEq ι] [Commons]
variable (deviceId : String) (arguments : ι → EscapeArguments sizeT) (self : WiaTransport ι sizeT)

/-- The step that a choice leads to, if it is possible. -/
def advance : Choice ι → Option (Label ι sizeT × WiaTransport ι sizeT)
  | .call caller =>
      match self.caller caller with
      | .outside =>
          if (arguments caller).params.length ≤ Commons.ptpMaxParams then
            some (.call caller, self.setCaller caller .entered)
          else
            some (.reject caller, self.setCaller caller (.returned buildTooManyParamsError))
      | _ => none
  | .spawn caller =>
      match self.caller caller, self.started with
      | .entered, false =>
          some (.spawn caller,
            { self.setCaller caller .ready with started := true, ownerThread := .started })
      | _, _ => none
  | .alreadyStarted caller =>
      match self.caller caller, self.started with
      | .entered, true => some (.alreadyStarted caller, self.setCaller caller .ready)
      | _, _ => none
  | .enqueue caller =>
      match self.caller caller with
      | .ready =>
          some (.enqueue caller,
            { self.setCaller caller .waiting with tasks := self.tasks ++ [caller] })
      | _ => none
  | .timeout caller =>
      match self.caller caller with
      | .waiting => some (.timeout caller, self.setCaller caller (.returned timeoutResult))
      | _ => none
  | .collect caller =>
      match self.caller caller, self.promise caller with
      | .waiting, some result =>
          some (.collect caller result, self.setCaller caller (.returned result))
      | _, _ => none
  | .coInitialize hrCom =>
      match self.ownerThread with
      | .started => some (.coInitialize hrCom, { self with ownerThread := .looping hrCom })
      | _ => none
  | .dequeue =>
      match self.ownerThread, self.tasks with
      | .looping hrCom, caller :: rest =>
          some (.dequeue caller,
            { self with
              tasks := rest
              ownerThread :=
                .executing hrCom caller (executeTask deviceId hrCom (arguments caller)) })
      | _, _ => none
  | .system reply =>
      match self.ownerThread with
      | .executing hrCom caller (.call request resume) =>
          some (.system caller request reply,
            { self with ownerThread := .executing hrCom caller (resume reply) })
      | _ => none
  | .fulfil =>
      match self.ownerThread with
      | .executing hrCom caller (.done result) =>
          some (.fulfil caller result,
            { self with
              promise := Function.update self.promise caller (some result)
              ownerThread := .looping hrCom })
      | _ => none
  | .stop => some (.stop, { self with stop := true })
  | .exit =>
      match self.ownerThread, self.stop, self.tasks with
      | .looping _, true, [] => some (.exit, { self with ownerThread := .exited })
      | _, _, _ => none

variable {deviceId arguments self} {label : Label ι sizeT} {next : WiaTransport ι sizeT}

theorem step_of_advance {choice : Choice ι}
    (advanced : advance deviceId arguments self choice = some (label, next)) :
    Step deviceId arguments self label next := by
  cases choice with
  | call caller =>
      simp only [advance] at advanced
      split at advanced
      · rename_i outside
        split at advanced
        · rename_i few
          cases advanced
          exact .call outside few
        · rename_i many
          cases advanced
          exact .reject outside (Nat.lt_of_not_le many)
      · cases advanced
  | spawn caller =>
      simp only [advance] at advanced
      split at advanced
      · rename_i entered notStarted
        cases advanced
        exact .spawn entered notStarted
      · cases advanced
  | alreadyStarted caller =>
      simp only [advance] at advanced
      split at advanced
      · rename_i entered started
        cases advanced
        exact .alreadyStarted entered started
      · cases advanced
  | enqueue caller =>
      simp only [advance] at advanced
      split at advanced
      · rename_i ready
        cases advanced
        exact .enqueue ready
      · cases advanced
  | timeout caller =>
      simp only [advance] at advanced
      split at advanced
      · rename_i waiting
        cases advanced
        exact .timeout waiting
      · cases advanced
  | collect caller =>
      simp only [advance] at advanced
      split at advanced
      · rename_i waiting promised
        cases advanced
        exact .collect waiting promised
      · cases advanced
  | coInitialize hrCom =>
      simp only [advance] at advanced
      split at advanced
      · rename_i started
        cases advanced
        exact .coInitialize started
      · cases advanced
  | dequeue =>
      simp only [advance] at advanced
      split at advanced
      · rename_i looping front
        cases advanced
        exact .dequeue looping front
      · cases advanced
  | system reply =>
      simp only [advance] at advanced
      split at advanced
      · rename_i executing
        cases advanced
        exact .system executing
      · cases advanced
  | fulfil =>
      simp only [advance] at advanced
      split at advanced
      · rename_i executing
        cases advanced
        exact .fulfil executing
      · cases advanced
  | stop =>
      cases advanced
      exact .stop
  | exit =>
      simp only [advance] at advanced
      split at advanced
      · rename_i looping stopped empty
        cases advanced
        exact .exit looping stopped empty
      · cases advanced

end Advance

end SimpleCamCtrl.Wia
