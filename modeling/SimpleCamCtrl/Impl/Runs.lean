import SimpleCamCtrl.Impl.Calls

/-!
# Runs of public calls

A run is any sequence of public calls on one object, from its construction on, each
with the lock or without, against transports that answer every command arbitrarily.
The trace of a run is the sequence of all exchanges with all transports.
-/

namespace SimpleCamCtrl.Impl

open Interaction

variable {τ : Type} [DecidableEq τ] {sizeT : SizeT} [Commons]

/-- A public call as it happened: the operation, whether it got the lock, the state it
found, its exchanges with the transports, its result and the state it left. -/
structure Call (τ : Type) (sizeT : SizeT) where
  op : Op τ
  locked : Bool
  before : SonyPTP3Impl τ
  exchanges : List (Exchange τ sizeT)
  result : Bool
  after : SonyPTP3Impl τ
  deriving DecidableEq

/-- One call on an object; a destroyed object is `none` and takes no further calls. -/
structure Performs (state : Option (SonyPTP3Impl τ)) (call : Call τ sizeT)
    (state' : Option (SonyPTP3Impl τ)) : Prop where
  alive : state = some call.before
  executes :
    if call.locked then
      Exec (perform call.before call.op) call.exchanges (call.result, call.after)
    else
      call.exchanges = [] ∧ call.result = false ∧ call.after = call.before
  next : state' = if call.op = .destroy then none else some call.after

/-- Runs of public calls from the construction of the object on. -/
abbrev CallRun : List (Call τ sizeT) → Option (SonyPTP3Impl τ) → Prop :=
  History.Run (· = some construct) fun _ => Performs

/-- All exchanges of a sequence of calls. -/
def trace (calls : List (Call τ sizeT)) : List (Exchange τ sizeT) :=
  calls.flatMap Call.exchanges

omit [DecidableEq τ] [Commons] in
@[simp] theorem trace_nil : trace ([] : List (Call τ sizeT)) = [] := rfl

omit [DecidableEq τ] [Commons] in
theorem trace_cons (call : Call τ sizeT) (calls : List (Call τ sizeT)) :
    trace (call :: calls) = call.exchanges ++ trace calls := rfl

omit [DecidableEq τ] [Commons] in
@[simp] theorem trace_append (left right : List (Call τ sizeT)) :
    trace (left ++ right) = trace left ++ trace right :=
  List.flatMap_append

omit [DecidableEq τ] [Commons] in
@[simp] theorem trace_singleton (call : Call τ sizeT) : trace [call] = call.exchanges := by
  simp [trace]

variable {state state' : Option (SonyPTP3Impl τ)} {call : Call τ sizeT}

/-- A call either did nothing or has one of the outcomes. -/
theorem Performs.cases (performs : Performs state call state') :
    (call.locked = false ∧ call.exchanges = [] ∧ call.result = false ∧
        call.after = call.before) ∨
      (call.locked = true ∧
        Outcome call.before call.op call.exchanges call.result call.after) := by
  have executes := performs.executes
  cases locked : call.locked with
  | false => exact Or.inl ⟨rfl, by simpa [locked] using executes⟩
  | true =>
      simp only [locked, if_true] at executes
      exact Or.inr ⟨rfl, perform_outcome executes⟩

/-- An object that outlives a call is in the state that the call left. -/
theorem Performs.after_of_alive {self : SonyPTP3Impl τ} (performs : Performs state call state')
    (alive : state' = some self) : self = call.after := by
  rw [performs.next] at alive
  split at alive
  · cases alive
  · cases alive
    rfl

/-- Every call of a run has been performed. -/
theorem CallRun.exists_performs {calls : List (Call τ sizeT)} (run : CallRun calls state) :
    ∀ call ∈ calls, ∃ state state', Performs state call state' :=
  run.forall_labels fun _ state _ state' performs => ⟨state, state', performs⟩

/-- What holds of a new object and is preserved by every call holds as long as the object
lives. -/
theorem CallRun.invariant_of_alive {inv : List (Call τ sizeT) → SonyPTP3Impl τ → Prop}
    {calls : List (Call τ sizeT)} (run : CallRun calls state) (constructed : inv [] construct)
    (preserved : ∀ calls state call state', Performs state call state' →
      inv calls call.before → inv (calls ++ [call]) call.after) :
    ∀ object, state = some object → inv calls object := by
  induction run with
  | start begins =>
      intro object alive
      rw [begins] at alive
      cases alive
      exact constructed
  | snoc _ performs ih =>
      intro object alive
      rw [performs.after_of_alive alive]
      exact preserved _ _ _ _ performs (ih _ performs.alive)

/-- One call with the answers it gets; without answers it does not get the lock. -/
def replayCall (self : SonyPTP3Impl τ) (op : Op τ) :
    Option (List (EscapeResult sizeT)) → Option (Call τ sizeT)
  | none => some ⟨op, false, self, [], false, self⟩
  | some replies =>
      (replay (perform self op) replies).map fun outcome =>
        ⟨op, true, self, outcome.1, outcome.2.1, outcome.2.2⟩

theorem performs_of_replayCall {self : SonyPTP3Impl τ} {op : Op τ}
    {answers : Option (List (EscapeResult sizeT))}
    (replayed : replayCall self op answers = some call) :
    Performs (some self) call (if op = .destroy then none else some call.after) := by
  cases answers with
  | none =>
      simp only [replayCall, Option.some.injEq] at replayed
      subst replayed
      exact ⟨rfl, ⟨rfl, rfl, rfl⟩, rfl⟩
  | some replies =>
      simp only [replayCall, Option.map_eq_some_iff] at replayed
      rcases replayed with ⟨⟨exchanges, result, after⟩, played, rfl⟩
      exact ⟨rfl, exec_of_replay played, rfl⟩

/-- The calls of a script, one after the other. -/
def replayCalls : Option (SonyPTP3Impl τ) →
    List (Op τ × Option (List (EscapeResult sizeT))) →
      Option (List (Call τ sizeT) × Option (SonyPTP3Impl τ))
  | state, [] => some ([], state)
  | none, _ :: _ => none
  | some self, (op, answers) :: script =>
      (replayCall self op answers).bind fun call =>
        (replayCalls (if op = .destroy then none else some call.after) script).map
          fun rest => (call :: rest.1, rest.2)

/-- A replayed script continues a run. -/
theorem callRun_of_replayCalls {script : List (Op τ × Option (List (EscapeResult sizeT)))}
    {before calls : List (Call τ sizeT)} (run : CallRun before state)
    (replayed : replayCalls state script = some (calls, state')) :
    CallRun (before ++ calls) state' := by
  induction script generalizing before calls state with
  | nil =>
      simp only [replayCalls, Option.some.injEq, Prod.mk.injEq] at replayed
      rcases replayed with ⟨rfl, rfl⟩
      simpa using run
  | cons entry script ih =>
      cases state with
      | none => cases replayed
      | some self =>
          simp only [replayCalls, Option.bind_eq_some_iff, Option.map_eq_some_iff,
            Prod.mk.injEq] at replayed
          rcases replayed with ⟨call, performed, ⟨later, final⟩, rest, rfl, rfl⟩
          have longer := ih (.snoc run (performs_of_replayCall performed)) rest
          rwa [List.append_assoc, List.singleton_append] at longer

/-- The calls of a script that starts with the construction of the object. -/
def scriptCalls (script : List (Op τ × Option (List (EscapeResult sizeT)))) :
    List (Call τ sizeT) :=
  ((replayCalls (some construct) script).map Prod.fst).getD []

/-- The state that a script ends in. -/
def scriptState (script : List (Op τ × Option (List (EscapeResult sizeT)))) :
    Option (SonyPTP3Impl τ) :=
  (replayCalls (some construct) script).bind Prod.snd

theorem callRun_script {script : List (Op τ × Option (List (EscapeResult sizeT)))}
    (plays : (replayCalls (some construct) script).isSome = true) :
    CallRun (scriptCalls script) (scriptState script) := by
  rcases Option.isSome_iff_exists.mp plays with ⟨⟨calls, state⟩, replayed⟩
  rw [scriptCalls, scriptState, replayed]
  exact callRun_of_replayCalls (.start rfl) replayed

/-- An answer OK without data. -/
def okReply : EscapeResult .bits64 := ⟨0, ptpRcOk, .empty⟩

/-- An answer OK with data, as the handshake needs one. -/
def infoReply : EscapeResult .bits64 := ⟨0, ptpRcOk, ⟨[1], by decide⟩⟩

end SimpleCamCtrl.Impl
