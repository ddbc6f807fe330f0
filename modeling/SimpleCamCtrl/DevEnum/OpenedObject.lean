import SimpleCamCtrl.DevEnum.Snapshot
import SimpleCamCtrl.Impl.SessionProtocol

/-!
# The object that OpenByIndex returns

What `OpenByIndex` does with the `SonyPTP3_Impl` that it constructs is a run of public calls.
So the object it returns is one that the runs of public calls speak of, whatever is called on
it afterwards, and what it does not return has no session open.
-/

namespace SimpleCamCtrl.DevEnum

open Interaction
open Impl (SonyPTP3Impl Call Performs CallRun trace ensureConnected sessionAction
  ObeysSessionProtocol EverySessionClosed)

section OpenedObject

variable {π : Type} {sizeT : SizeT}

/-- The command that a call sends to the camera, with its answer. -/
def sonyExchange (exchange : DevEnumCall π × DevEnumReply π sizeT) :
    Option (Impl.Exchange StdString sizeT) :=
  match exchange.1 with
  | .escape request => some (request, exchange.2.escaped)
  | _ => none

/-- The commands sent to the camera, with their answers. -/
def sonyExchanges (calls : List (DevEnumCall π × DevEnumReply π sizeT)) :
    List (Impl.Exchange StdString sizeT) :=
  calls.filterMap sonyExchange

/-- The call sends nothing to the camera. -/
def SparesCamera (request : DevEnumCall π) : Prop := ∀ command, request ≠ .escape command

@[simp] theorem sonyExchanges_nil :
    sonyExchanges ([] : List (DevEnumCall π × DevEnumReply π sizeT)) = [] := rfl

@[simp] theorem sonyExchanges_append (left right : List (DevEnumCall π × DevEnumReply π sizeT)) :
    sonyExchanges (left ++ right) = sonyExchanges left ++ sonyExchanges right :=
  List.filterMap_append

theorem sonyExchange_escape (command : Impl.Request StdString) (reply : DevEnumReply π sizeT) :
    sonyExchange (.escape command, reply) = some (command, reply.escaped) := rfl

variable {α : Type} {program : Enumerating π sizeT α}

/-- A part that does not touch the camera, in front of another. -/
theorem exec_after_spares {β : Type} {next : α → Enumerating π sizeT β}
    {calls : List (DevEnumCall π × DevEnumReply π sizeT)} {result : β}
    (spares : Only SparesCamera program) (execution : Exec (program >>= next) calls result) :
    ∃ value later, Exec (next value) later result ∧ sonyExchanges calls = sonyExchanges later := by
  rcases exec_bind.mp execution with ⟨left, value, right, rfl, onFirst, onNext⟩
  refine ⟨value, right, onNext, ?_⟩
  have nothing : sonyExchanges left = [] := by
    refine filterMap_of_only ?_ onFirst
    refine spares.mono ?_
    intro request spared reply
    cases request with
    | escape command => exact (spared command rfl).elim
    | _ => rfl
  rw [sonyExchanges_append, nothing, List.nil_append]

variable [Commons]
variable {spSony : SonyPTP3Impl StdString} {op : Impl.Op StdString}
variable {calls : List (DevEnumCall π × DevEnumReply π sizeT)}

/-- A public function called here is a public call, with the lock or without it. -/
theorem performs_of_callSony {outcome : Bool × SonyPTP3Impl StdString}
    (execution : Exec (callSony spSony op) calls outcome) :
    ∃ call : Call StdString sizeT,
      Performs (some spSony) call (if op = .destroy then none else some outcome.2) ∧
        call.op = op ∧ call.before = spSony ∧ call.result = outcome.1 ∧ call.after = outcome.2 ∧
        call.exchanges = sonyExchanges calls := by
  rcases exec_perform_bind.mp execution with ⟨lock, rest, rfl, locked⟩
  have spared : sonyExchanges ((.lockApi, lock) :: rest) = sonyExchanges rest := rfl
  rw [spared]
  split at locked
  · have performed : Exec (Impl.perform spSony op) (sonyExchanges rest) outcome :=
      filterMap_of_embed sonyExchange_escape locked
    exact ⟨⟨op, true, spSony, sonyExchanges rest, outcome.1, outcome.2⟩, ⟨rfl, performed, rfl⟩,
      rfl, rfl, rfl, rfl, rfl⟩
  · rcases exec_pure.mp locked with ⟨rfl, rfl⟩
    exact ⟨⟨op, false, spSony, [], false, spSony⟩, ⟨rfl, ⟨rfl, rfl, rfl⟩, rfl⟩, rfl, rfl, rfl,
      rfl, rfl⟩

variable {sonyCalls : List (Call StdString sizeT)}

/-- A public function called on the object of a run continues the run. -/
theorem callRun_of_callSony {outcome : Bool × SonyPTP3Impl StdString}
    (run : CallRun sonyCalls (some spSony)) (execution : Exec (callSony spSony op) calls outcome) :
    ∃ call : Call StdString sizeT,
      CallRun (sonyCalls ++ [call]) (if op = .destroy then none else some outcome.2) ∧
        trace (sonyCalls ++ [call]) = trace sonyCalls ++ sonyExchanges calls := by
  rcases performs_of_callSony execution with ⟨call, performs, _, _, _, _, exchanged⟩
  refine ⟨call, .snoc run performs, ?_⟩
  rw [Impl.trace_append, Impl.trace_singleton, exchanged]

/-- Only a Connect that succeeds opens a session. -/
theorem closed_of_callSony {after : SonyPTP3Impl StdString} {ok : Bool}
    (closed : ensureConnected spSony = none)
    (execution : Exec (callSony spSony op) calls (ok, after))
    (other : op = .connect → ok = false) : ensureConnected after = none := by
  rcases performs_of_callSony execution with ⟨call, performs, rfl, rfl, rfl, rfl, _⟩
  rcases performs.cases with ⟨_, _, _, same⟩ | ⟨_, outcome⟩
  · rw [same, closed]
  · cases opened : ensureConnected call.after with
    | none => rfl
    | some transport =>
        rcases outcome.connect_of_opens closed opened with ⟨isConnect, succeeded⟩
        rw [other isConnect] at succeeded
        cases succeeded

/-- What the calls on the object come to.  The object returned is that of a run of public
calls; when there is none, no session has been left open. -/
structure Opening (calls : List (DevEnumCall π × DevEnumReply π sizeT))
    (handle : Option (SonyPTP3Impl StdString)) (sonyCalls : List (Call StdString sizeT)) :
    Prop where
  run : CallRun sonyCalls handle
  exchanged : trace sonyCalls = sonyExchanges calls
  closed : handle = none → Session.run sessionAction none (trace sonyCalls) = some none

/-- The exits after a failure: the object is destroyed. -/
theorem opening_of_giveUp {bCOMInitHere : Bool} {handle : Option (SonyPTP3Impl StdString)}
    (run : CallRun sonyCalls (some spSony)) (closed : ensureConnected spSony = none)
    (execution : Exec (do
        uninitialiseCom bCOMInitHere
        let _ ← callSony spSony .destroy
        return none : Enumerating π sizeT (Option (SonyPTP3Impl StdString))) calls handle) :
    handle = none ∧ ∃ call, CallRun (sonyCalls ++ [call]) none ∧
      trace (sonyCalls ++ [call]) = trace sonyCalls ++ sonyExchanges calls ∧
      Session.run sessionAction none (trace (sonyCalls ++ [call])) = some none := by
  have quiet : Only SparesCamera (uninitialiseCom bCOMInitHere : Enumerating π sizeT Unit) :=
    only_uninitialiseCom (by simp [SparesCamera]) bCOMInitHere
  rcases exec_after_spares quiet execution with ⟨_, later, destroying, spared⟩
  rcases exec_bind_pure.mp destroying with ⟨⟨ok, after⟩, destroyed, rfl⟩
  rcases performs_of_callSony destroyed with ⟨call, performs, destroys, rfl, _, _, exchanged⟩
  have traced : trace (sonyCalls ++ [call]) = trace sonyCalls ++ sonyExchanges calls := by
    rw [Impl.trace_append, Impl.trace_singleton, exchanged, spared]
  have left : ensureConnected call.after = none := by
    rcases performs.cases with ⟨_, _, _, same⟩ | ⟨locked, _⟩
    · rw [same, closed]
    · exact performs.session_of_destroy destroys locked
  rcases run.sessionInvariant.accepted with ⟨final, accepted, alive, _⟩
  have ending := performs.session
  rw [closed, left] at ending
  refine ⟨rfl, call, .snoc run performs, traced, ?_⟩
  rw [Impl.trace_append, Impl.trace_singleton, Session.run_append, accepted, alive _ rfl, closed]
  exact ending

theorem callRun_of_autoUpdateStatus {stOpenParams : TSonyPTP3OpenParams}
    {updated : SonyPTP3Impl StdString} (run : CallRun sonyCalls (some spSony))
    (execution : Exec (autoUpdateStatus spSony stOpenParams) calls updated) :
    ∃ more : List (Call StdString sizeT), CallRun (sonyCalls ++ more) (some updated) ∧
      trace (sonyCalls ++ more) = trace sonyCalls ++ sonyExchanges calls := by
  rw [autoUpdateStatus] at execution
  split at execution
  · rcases exec_bind_pure.mp execution with ⟨outcome, updates, rfl⟩
    rcases callRun_of_callSony run updates with ⟨call, longer, traced⟩
    exact ⟨[call], longer, traced⟩
  · rcases exec_pure.mp execution with ⟨rfl, rfl⟩
    exact ⟨[], by rwa [List.append_nil], by simp⟩

theorem opening_of_connectSony {bCOMInitHere : Bool} {sWiaId : StdString}
    {stOpenParams : TSonyPTP3OpenParams} {handle : Option (SonyPTP3Impl StdString)}
    (execution : Exec (connectSony bCOMInitHere sWiaId stOpenParams) calls handle) :
    ∃ sonyCalls, Opening calls handle sonyCalls := by
  have constructed : CallRun ([] : List (Call StdString sizeT)) (some Impl.construct) := .start rfl
  rcases exec_bind.mp execution with ⟨setting, ⟨ok, ready⟩, rest, rfl, sets, execution⟩
  have readyClosed := closed_of_callSony rfl sets (by simp)
  rcases callRun_of_callSony constructed sets with ⟨first, isReady, traced⟩
  rw [if_neg (by simp), List.nil_append] at isReady
  rw [List.nil_append, Impl.trace_nil, List.nil_append] at traced
  cases ok with
  | false =>
      rcases opening_of_giveUp isReady readyClosed execution with
        ⟨rfl, last, run, tracedAll, closed⟩
      refine ⟨_, run, ?_, fun _ => closed⟩
      rw [tracedAll, traced, sonyExchanges_append]
  | true =>
      rcases exec_bind.mp execution with ⟨connecting, ⟨ok, connected⟩, rest, rfl, connects, execution⟩
      rcases callRun_of_callSony isReady connects with ⟨second, isConnected, traced'⟩
      rw [if_neg (by simp)] at isConnected
      cases ok with
      | false =>
          have stillClosed := closed_of_callSony readyClosed connects fun _ => rfl
          rcases opening_of_giveUp isConnected stillClosed execution with
            ⟨rfl, last, run, tracedAll, closed⟩
          refine ⟨_, run, ?_, fun _ => closed⟩
          rw [tracedAll, traced', traced, sonyExchanges_append, sonyExchanges_append,
            List.append_assoc]
      | true =>
          rcases exec_bind.mp execution with ⟨updating, updated, rest, rfl, updates, execution⟩
          rcases callRun_of_autoUpdateStatus isConnected updates with ⟨more, run, tracedAll⟩
          have quiet : Only SparesCamera (uninitialiseCom bCOMInitHere : Enumerating π sizeT Unit) :=
            only_uninitialiseCom (by simp [SparesCamera]) bCOMInitHere
          rcases exec_after_spares quiet execution with ⟨_, later, returns, spared⟩
          rcases exec_pure.mp returns with ⟨rfl, rfl⟩
          refine ⟨_, run, ?_, nofun⟩
          rw [tracedAll, traced', traced, sonyExchanges_append, sonyExchanges_append,
            sonyExchanges_append, spared, sonyExchanges_nil, List.append_nil, List.append_assoc]

/-- Either the camera is spared and there is no object, or an object has been constructed. -/
def Opens (calls : List (DevEnumCall π × DevEnumReply π sizeT))
    (handle : Option (SonyPTP3Impl StdString)) : Prop :=
  (handle = none ∧ sonyExchanges calls = []) ∨ ∃ sonyCalls, Opening calls handle sonyCalls

section Opens

variable {first : Enumerating π sizeT α}
variable {next : α → Enumerating π sizeT (Option (SonyPTP3Impl StdString))}

theorem ensures_none :
    Ensures (pure none : Enumerating π sizeT (Option (SonyPTP3Impl StdString))) Opens :=
  ensures_pure.mpr (Or.inl ⟨rfl, rfl⟩)

theorem ensures_after (spares : Only SparesCamera first)
    (onNext : ∀ value, Ensures (next value) Opens) : Ensures (first >>= next) Opens := by
  intro calls handle execution
  rcases exec_after_spares spares execution with ⟨value, later, rest, spared⟩
  rcases onNext value later handle rest with ⟨refused, quiet⟩ | ⟨sonyCalls, opening⟩
  · exact Or.inl ⟨refused, by rw [spared, quiet]⟩
  · exact Or.inr ⟨sonyCalls, opening.run, by rw [spared, opening.exchanged], opening.closed⟩

end Opens

variable [StringConversion]

omit [Commons] in
theorem spares_utf8ToBstr (sUtf8 : StdString) :
    Only SparesCamera (utf8ToBstr sUtf8 : Enumerating π sizeT _) := by
  rw [utf8ToBstr]
  split
  · exact only_pure _
  · exact (only_perform (by simp [SparesCamera])).bind fun _ => only_pure _

theorem opens_device (sWiaId : StdString) (stOpenParams : TSonyPTP3OpenParams) :
    Ensures (openDevice sWiaId stOpenParams : Enumerating π sizeT _) Opens := by
  have released (object : Option π) :
      Only SparesCamera (safeRelease object : Enumerating π sizeT Unit) :=
    only_safeRelease (by simp [SparesCamera]) object
  have uninitialised (bCOMInitHere : Bool) :
      Only SparesCamera (uninitialiseCom bCOMInitHere : Enumerating π sizeT Unit) :=
    only_uninitialiseCom (by simp [SparesCamera]) bCOMInitHere
  refine ensures_after (only_initialiseCom (by simp [SparesCamera])) fun initialised => ?_
  cases initialised with
  | none => exact ensures_none
  | some bCOMInitHere =>
      refine ensures_after (only_perform (by simp [SparesCamera])) fun created => ?_
      cases created.obtained with
      | none =>
          exact ensures_after (released _) fun _ =>
            ensures_after (uninitialised _) fun _ => ensures_none
      | some pWiaMgr =>
          refine ensures_after (spares_utf8ToBstr sWiaId) fun bstr => ?_
          cases bstr with
          | none =>
              exact ensures_after (released _) fun _ =>
                ensures_after (uninitialised _) fun _ => ensures_none
          | some bstrId =>
              refine ensures_after (only_perform (by simp [SparesCamera])) fun device => ?_
              cases device.obtained with
              | none =>
                  exact ensures_after (released _) fun _ => ensures_after (released _) fun _ =>
                    ensures_after (uninitialised _) fun _ => ensures_none
              | some pWiaItem =>
                  refine ensures_after (only_perform (by simp [SparesCamera])) fun _ => ?_
                  refine ensures_after (released _) fun _ => ensures_after (released _) fun _ => ?_
                  exact fun calls handle connects => Or.inr (opening_of_connectSony connects)

theorem opens_byIndex (self : SonyPTP3DevEnum) (nDeviceIndex : Int32)
    (stOpenParams : TSonyPTP3OpenParams) :
    Ensures (openByIndex self nDeviceIndex stOpenParams : Enumerating π sizeT _) Opens := by
  rw [openByIndex]
  split
  · exact ensures_none
  · simp only
    split
    · exact ensures_none
    · exact opens_device _ stOpenParams

/-- Whatever COM, WIA, the lock and the camera answer: when `OpenByIndex` returns null, the
commands sent and the answers received obey the session protocol, and by these answers no
session is left open; when it returns an object, every later run of public calls on it,
together with what was sent and answered before, obeys the protocol, and closes every session
as soon as the object has none open or its destructor has got the lock.  An answer here is what
`Escape` returns; what the device makes of a command after its timeout is not looked at. -/
theorem openByIndex_keeps_protocol {self : SonyPTP3DevEnum} {nDeviceIndex : Int32}
    {stOpenParams : TSonyPTP3OpenParams} {handle : Option (SonyPTP3Impl StdString)}
    (execution : Exec (openByIndex self nDeviceIndex stOpenParams) calls handle) :
    (handle = none →
        ObeysSessionProtocol (sonyExchanges calls) ∧ EverySessionClosed (sonyExchanges calls)) ∧
      ∀ spSony, handle = some spSony → ∀ later state,
        History.Path Performs (some spSony) later state →
        ObeysSessionProtocol (sonyExchanges calls ++ trace later) ∧
          (∀ object, state = some object → object.connectionState ≠ .sessionOpen →
            EverySessionClosed (sonyExchanges calls ++ trace later)) ∧
          ∀ call ∈ later, call.op = .destroy → call.locked = true →
            EverySessionClosed (sonyExchanges calls ++ trace later) := by
  have opens := opens_byIndex self nDeviceIndex stOpenParams calls handle execution
  constructor
  · intro refused
    have accepted : Session.run sessionAction none (sonyExchanges calls) = some none := by
      rcases opens with ⟨_, quiet⟩ | ⟨sonyCalls, opening⟩
      · rw [quiet]
        rfl
      · rw [← opening.exchanged]
        exact opening.closed refused
    exact ⟨Impl.obeysSessionProtocol_of_accepted accepted,
      Impl.everySessionClosed_of_accepted accepted⟩
  · intro spSony returned later state path
    rcases opens with ⟨refused, _⟩ | ⟨sonyCalls, opening⟩
    · rw [returned] at refused
      cases refused
    · have run := opening.run
      rw [returned] at run
      have longer := run.append_path path
      have traced : trace (sonyCalls ++ later) = sonyExchanges calls ++ trace later := by
        rw [Impl.trace_append, opening.exchanged]
      rcases (Impl.CallRun.sessionInvariant longer).accepted with ⟨final, accepted, alive, destroyed⟩
      rw [traced] at accepted
      refine ⟨Impl.obeysSessionProtocol_of_accepted accepted, ?_, ?_⟩
      · intro object lives notOpen
        rw [alive object lives, Impl.ensureConnected_of_not_open notOpen] at accepted
        exact Impl.everySessionClosed_of_accepted accepted
      · intro call membership destroys locked
        rw [destroyed call (List.mem_append_right _ membership) destroys locked] at accepted
        exact Impl.everySessionClosed_of_accepted accepted

end OpenedObject

/-- The camera answers OK, and with a byte of data where the handshake needs one. -/
def openedReplies : List (DevEnumReply Nat .bits64) :=
  [plainReply, { object := some 1 }, plainReply, { object := some 3 }] ++
    List.replicate 5 plainReply ++
    [{ escaped := Impl.okReply }, { escaped := Impl.okReply }, { escaped := Impl.infoReply },
      { escaped := Impl.okReply }, { escaped := Impl.okReply }, plainReply,
      { escaped := Impl.okReply }, plainReply]

def openedCalls : List (DevEnumCall Nat × DevEnumReply Nat .bits64) :=
  ((replay (openByIndex sampleSnapshot 1 {}) openedReplies).map (·.1)).getD []

/-- A new object with a session on the camera. -/
def openedSony : SonyPTP3Impl StdString :=
  { (Impl.construct : SonyPTP3Impl StdString) with
    transport := some (text "C"), connectionState := .sessionOpen }

/-- The object returned is destroyed. -/
def destroyedCall : Call StdString .bits64 where
  op := .destroy
  locked := true
  before := openedSony
  exchanges := ((replay (Impl.perform openedSony .destroy)
    [Impl.okReply, Impl.okReply, Impl.okReply]).map (·.1)).getD []
  result := true
  after := { openedSony with connectionState := .transportReady }

theorem openByIndex_keeps_protocol_destroyed :
    (sonyExchanges openedCalls ++ trace [destroyedCall]).length = 9 ∧
      EverySessionClosed (sonyExchanges openedCalls ++ trace [destroyedCall]) := by
  have opened : replay (openByIndex sampleSnapshot 1 {}) openedReplies =
      some (openedCalls, some openedSony) := by rfl
  have destroyed : Impl.replayCall openedSony .destroy
      (some [Impl.okReply, Impl.okReply, Impl.okReply]) = some destroyedCall := by rfl
  have kept := (openByIndex_keeps_protocol (exec_of_replay opened)).2 openedSony rfl _ _
    (.cons (Impl.performs_of_replayCall destroyed) .nil)
  exact ⟨by rfl, kept.2.2 _ (List.mem_singleton_self _) rfl rfl⟩

end SimpleCamCtrl.DevEnum
