import SimpleCamCtrl.Demo.ScaffoldPolling
import SimpleCamCtrl.Impl.SessionProtocol

/-!
# The polling demo as a client

What `main` does with its `SonyPTP3_Impl` is a run of public calls: it is set up and connected,
polled any number of times, disconnected and destroyed.  So what holds of every run of public
calls holds of the demo.
-/

namespace SimpleCamCtrl.Demo

open Interaction
open DevEnum (StdString StringConversion)
open Impl (SonyPTP3Impl Call Performs CallRun trace)

section Client

variable {τ : Type} [DecidableEq τ] {sizeT : SizeT} [Commons]

/-- A public call that gets the lock. -/
structure Calls (object : SonyPTP3Impl τ) (op : Impl.Op τ) (call : Call τ sizeT) : Prop where
  isOp : call.op = op
  isLocked : call.locked = true
  performs : Performs (some object) call (if op = .destroy then none else some call.after)

/-- Polling an object: each time its status is updated, and then the parameters that it reports
are written, or the last ones that it has reported, or the default ones. -/
inductive Polling : Option ExposureParams → SonyPTP3Impl τ → List (Call τ sizeT) →
    Option ExposureParams → SonyPTP3Impl τ → Prop where
  | nil {last : Option ExposureParams} {object : SonyPTP3Impl τ} : Polling last object [] last object
  | cons {last final : Option ExposureParams} {object object' : SonyPTP3Impl τ}
      {status write : Call τ sizeT} {calls : List (Call τ sizeT)} :
      Calls object .updateStatus status →
      Calls status.after (.setExposureParams (((Impl.getExposureParams status.after).or last).getD
        Commons.defaultExposureParams)) write →
      Polling ((Impl.getExposureParams status.after).or last) write.after calls final object' →
      Polling last object (status :: write :: calls) final object'

variable {last final : Option ExposureParams} {object object' : SonyPTP3Impl τ}
variable {calls : List (Call τ sizeT)}

/-- Polling continues a run of public calls. -/
theorem Polling.path (polling : Polling last object calls final object') :
    History.Path Performs (some object) calls (some object') := by
  induction polling with
  | nil => exact .nil
  | cons status write _ ih => exact .cons status.performs (.cons write.performs ih)

end Client

section PollingClient

variable {π : Type} {sizeT : SizeT}

/-- The command that a call sends to the camera, with its answer. -/
def camExchange (exchange : DemoCall π × DemoReply π sizeT) :
    Option (Impl.Exchange StdString sizeT) :=
  match exchange.1 with
  | .escape request => some (request, exchange.2.escaped)
  | _ => none

/-- The commands sent to the camera, with their answers. -/
def camExchanges (calls : List (DemoCall π × DemoReply π sizeT)) :
    List (Impl.Exchange StdString sizeT) :=
  calls.filterMap camExchange

theorem camExchange_escape (request : Impl.Request StdString) (reply : DemoReply π sizeT) :
    camExchange (.escape request, reply) = some (request, reply.escaped) := rfl

@[simp] theorem camExchanges_nil :
    camExchanges ([] : List (DemoCall π × DemoReply π sizeT)) = [] := rfl

@[simp] theorem camExchanges_append (left right : List (DemoCall π × DemoReply π sizeT)) :
    camExchanges (left ++ right) = camExchanges left ++ camExchanges right :=
  List.filterMap_append

theorem camExchanges_cons {request : DemoCall π} {reply : DemoReply π sizeT}
    (spares : camExchange (request, reply) = none)
    (calls : List (DemoCall π × DemoReply π sizeT)) :
    camExchanges ((request, reply) :: calls) = camExchanges calls :=
  List.filterMap_cons_none spares

/-- Measuring a call adds nothing to what it asks the camera. -/
theorem exec_measureBoolCall {α : Type} {fn : Demoing π sizeT (Bool × α)}
    {calls : List (DemoCall π × DemoReply π sizeT)} {outcome : (Bool × UInt64) × α}
    (execution : Exec (measureBoolCall fn) calls outcome) :
    ∃ inner, Exec fn inner (outcome.1.1, outcome.2) ∧ camExchanges calls = camExchanges inner := by
  rcases exec_perform_bind.mp execution with ⟨tpBegin, _, rfl, begun⟩
  rcases exec_bind.mp begun with ⟨inner, value, _, rfl, measured, ending⟩
  rcases exec_perform_bind.mp ending with ⟨tpEnd, _, rfl, returns⟩
  rcases exec_pure.mp returns with ⟨rfl, rfl⟩
  refine ⟨inner, measured, ?_⟩
  rw [camExchanges_cons rfl, camExchanges_append, camExchanges_cons rfl, camExchanges_nil,
    List.append_nil]

variable [Commons] {camCtrl after : SonyPTP3Impl StdString} {op : Impl.Op StdString} {ok : Bool}
variable {calls : List (DemoCall π × DemoReply π sizeT)}

/-- A public function called on the object is a public call that gets the lock. -/
theorem calls_of_callCamCtrl (execution : Exec (callCamCtrl camCtrl op) calls (ok, after)) :
    Calls camCtrl op ⟨op, true, camCtrl, camExchanges calls, ok, after⟩ :=
  ⟨rfl, rfl, ⟨rfl, filterMap_of_embed camExchange_escape execution, rfl⟩⟩

/-- `stLastParams`, if `bHaveLastParams`. -/
def PollLocals.last (locals : PollLocals) : Option ExposureParams :=
  if locals.bHaveLastParams then some locals.stLastParams else none

omit [Commons] in
/-- A call that is nothing to the camera, in front of the rest. -/
theorem camExchanges_perform {α : Type} {request : DemoCall π}
    {next : DemoReply π sizeT → Demoing π sizeT α} {result : α}
    (spares : ∀ reply : DemoReply π sizeT, camExchange (request, reply) = none)
    (execution : Exec (perform request >>= next) calls result) :
    ∃ reply rest, Exec (next reply) rest result ∧ camExchanges calls = camExchanges rest := by
  rcases exec_perform_bind.mp execution with ⟨reply, rest, rfl, continues⟩
  exact ⟨reply, rest, continues, camExchanges_cons (spares reply) rest⟩

/-- The parameters that the loop body writes, and the last ones that it keeps. -/
theorem last_of_currentParams (locals : PollLocals) (camCtrl : SonyPTP3Impl StdString) :
    let current := currentParams camCtrl
    let stLastParams := if current.1 then current.2 else locals.stLastParams
    let bHaveLastParams := current.1 || locals.bHaveLastParams
    (if bHaveLastParams then some stLastParams else none) =
        (Impl.getExposureParams camCtrl).or locals.last ∧
      (if bHaveLastParams then stLastParams else current.2) =
        ((Impl.getExposureParams camCtrl).or locals.last).getD Commons.defaultExposureParams := by
  rw [currentParams, PollLocals.last]
  cases Impl.getExposureParams camCtrl <;> cases locals.bHaveLastParams <;> simp

theorem polling_of_pollOnce {locals locals' : PollLocals}
    (execution : Exec (pollOnce locals) calls locals') :
    ∃ status write, camExchanges calls = status.exchanges ++ write.exchanges ∧
      Calls locals.camCtrl .updateStatus status ∧
      locals'.last = (Impl.getExposureParams status.after).or locals.last ∧
      Calls status.after (.setExposureParams (locals'.last.getD Commons.defaultExposureParams))
        write ∧
      locals'.camCtrl = write.after := by
  rcases exec_bind.mp execution with ⟨first, update, _, rfl, updates, continues⟩
  rcases exec_bind.mp continues with ⟨second, get, _, rfl, gets, modes⟩
  rcases camExchanges_perform (fun _ => rfl) modes with ⟨tpModeBegin, _, modeEnds, spared⟩
  rcases camExchanges_perform (fun _ => rfl) modeEnds with ⟨tpModeEnd, _, settings, spared'⟩
  rcases exec_bind.mp settings with ⟨third, set, _, rfl, sets, returns⟩
  rcases exec_pure.mp returns with ⟨rfl, rfl⟩
  rcases exec_measureBoolCall updates with ⟨status, updated, statusAsked⟩
  rcases exec_measureBoolCall gets with ⟨none, got, noneAsked⟩
  rcases exec_measureBoolCall sets with ⟨write, wrote, writeAsked⟩
  rcases exec_pure.mp got with ⟨rfl, current⟩
  have last := last_of_currentParams locals update.2
  rw [current] at last
  have writes := calls_of_callCamCtrl wrote
  rw [last.2, ← last.1] at writes
  refine ⟨_, _, ?_, calls_of_callCamCtrl updated, last.1, writes, rfl⟩
  rw [camExchanges_append, camExchanges_append, statusAsked, noneAsked, spared, spared',
    camExchanges_append, writeAsked]
  simp

/-- The loop polls the object, for as long as it runs. -/
theorem polling_of_pollingLoop {nMaxIterations : UInt64} {fuel : ℕ} {locals : PollLocals}
    {outcome : Bool × PollLocals}
    (execution : Exec (pollingLoop nMaxIterations fuel locals) calls outcome) :
    ∃ camCalls, trace camCalls = camExchanges calls ∧
      Polling locals.last locals.camCtrl camCalls outcome.2.last outcome.2.camCtrl := by
  induction fuel generalizing locals calls with
  | zero =>
      rcases exec_pure.mp execution with ⟨rfl, rfl⟩
      exact ⟨[], rfl, .nil⟩
  | succ fuel ih =>
      rcases camExchanges_perform (fun _ => rfl) execution with ⟨flag, rest, continues, spared⟩
      rw [spared]
      split at continues
      · rcases exec_pure.mp continues with ⟨rfl, rfl⟩
        exact ⟨[], rfl, .nil⟩
      split at continues
      · rcases exec_pure.mp continues with ⟨rfl, rfl⟩
        exact ⟨[], rfl, .nil⟩
      · rcases exec_bind.mp continues with ⟨once, polled, more, rfl, polls, loops⟩
        rcases polling_of_pollOnce polls with ⟨status, write, asked, updates, last, writes, same⟩
        rcases ih loops with ⟨camCalls, traced, polling⟩
        rw [same, last] at polling
        rw [last] at writes
        refine ⟨status :: write :: camCalls, ?_, .cons updates writes polling⟩
        rw [camExchanges_append, asked, ← traced]
        simp [trace]

/-! ## The program -/

/-- The calls on the object in a run of `main`: it is set up, polled, and in the end destroyed,
unless the loop has been cut short. -/
structure ClientRun (setup polls closing : List (Call StdString sizeT)) (ended : Bool) : Prop where
  calls : ∃ object last final state, CallRun setup (some object) ∧
    object.hasStatus = false ∧ object.cache = (Impl.construct : SonyPTP3Impl StdString).cache ∧
    Polling none object polls last final ∧ History.Path Performs (some final) closing state
  setsUp : ∀ call ∈ setup, call.op = .connect ∨ ∃ transport, call.op = .setPtpTransport transport
  closes : ∀ call ∈ closing, call.op = .disconnect ∨ call.op = .destroy
  destroyed : ended = true → ∃ call ∈ closing, call.op = .destroy ∧ call.locked = true

theorem Calls.outcome {τ : Type} [DecidableEq τ] {object : SonyPTP3Impl τ} {op : Impl.Op τ}
    {call : Call τ sizeT} (made : Calls object op call) :
    Impl.Outcome object op call.exchanges call.result call.after := by
  have alive := made.performs.alive
  cases alive
  rw [← made.isOp]
  rcases made.performs.cases with ⟨unlocked, _⟩ | ⟨_, outcome⟩
  · rw [made.isLocked] at unlocked
    cases unlocked
  · exact outcome

/-- Setting an object up does not touch its cache. -/
theorem Calls.cache_of_setup {τ : Type} [DecidableEq τ] {object : SonyPTP3Impl τ}
    {op : Impl.Op τ} {call : Call τ sizeT} (made : Calls object op call)
    (setup : op = .connect ∨ ∃ transport, op = .setPtpTransport transport)
    (fresh : object.hasStatus = false) :
    call.after.hasStatus = false ∧ call.after.cache = object.cache := by
  have outcome := made.outcome
  generalize call.exchanges = exchanges, call.result = result, call.after = after at outcome
  cases outcome with
  | noTransport | refused | keptReady | alreadyOpen | keptOpen => exact ⟨fresh, rfl⟩
  | connected | keptNone | newTransport => exact ⟨rfl, rfl⟩
  | disconnected ending => rcases setup with rfl | ⟨_, rfl⟩ <;> simp at ending
  | noSession _ command => rcases setup with rfl | ⟨_, rfl⟩ <;> cases command
  | controlled _ control => rcases setup with rfl | ⟨_, rfl⟩ <;> cases control
  | statusRefused | statusTaken | wrote => simp at setup

/-- The calls on the object in a run of `main`, if it comes to construct one. -/
def ServesClient (calls : List (DemoCall π × DemoReply π sizeT)) (exitCode : Option Int32) : Prop :=
  camExchanges calls = [] ∨ ∃ setup polls closing : List (Call StdString sizeT),
    ClientRun setup polls closing exitCode.isSome ∧
      camExchanges calls = trace (setup ++ polls ++ closing)

/-- The exits behind the construction of the object. -/
theorem calls_of_leaveMain {exitCode : Int32} {result : Option Int32}
    (execution : Exec (leaveMain camCtrl exitCode) calls result) :
    result = some exitCode ∧ ∃ destroy, Calls camCtrl .destroy destroy ∧
      camExchanges calls = destroy.exchanges := by
  rcases camExchanges_perform (fun _ => rfl) execution with ⟨_, rest, destroying, spared⟩
  rcases exec_bind_pure.mp destroying with ⟨⟨ok, after⟩, destroyed, rfl⟩
  exact ⟨rfl, _, calls_of_callCamCtrl destroyed, spared⟩

/-- The exits after a failure: the object is destroyed. -/
theorem clientRun_of_giveUp {setup : List (Call StdString sizeT)} {exitCode : Int32}
    {result : Option Int32} (ready : CallRun setup (some camCtrl))
    (fresh : camCtrl.hasStatus = false ∧
      camCtrl.cache = (Impl.construct : SonyPTP3Impl StdString).cache)
    (setsUp : ∀ call ∈ setup, call.op = .connect ∨
      ∃ transport, call.op = .setPtpTransport transport)
    (execution : Exec (leaveMain camCtrl exitCode) calls result) :
    ∃ destroy, ClientRun setup [] [destroy] result.isSome ∧
      camExchanges calls = destroy.exchanges := by
  rcases calls_of_leaveMain execution with ⟨rfl, destroy, destroyed, asked⟩
  refine ⟨destroy, ⟨?_, setsUp, ?_, ?_⟩, asked⟩
  · exact ⟨_, _, _, _, ready, fresh.1, fresh.2, .nil, .cons destroyed.performs .nil⟩
  · simp [destroyed.isOp]
  · simp [destroyed.isOp, destroyed.isLocked]

theorem servesClient_of_pollDevice {nMaxIterations : UInt64} {fuel : ℕ} {sWiaDeviceId : StdString}
    {exitCode : Option Int32}
    (execution : Exec (pollDevice nMaxIterations fuel sWiaDeviceId) calls exitCode) :
    ServesClient calls exitCode := by
  right
  rcases camExchanges_perform (fun _ => rfl) execution with ⟨_, _, made, spared⟩
  rcases exec_bind.mp made with ⟨setting, ⟨ok, ready⟩, rest, rfl, sets, continues⟩
  have set := calls_of_callCamCtrl sets
  have constructed : CallRun ([] : List (Call StdString sizeT)) (some Impl.construct) := .start rfl
  have isReady := constructed.snoc set.performs
  have fresh := set.cache_of_setup (Or.inr ⟨_, rfl⟩) rfl
  rw [spared, camExchanges_append]
  cases ok with
  | false =>
      rcases clientRun_of_giveUp isReady fresh (by simp) continues with ⟨destroy, client, asked⟩
      refine ⟨_, [], [destroy], client, ?_⟩
      simp [asked, trace]
  | true =>
      rcases exec_bind.mp continues with ⟨connecting, ⟨ok, connected⟩, rest, rfl, connects, goesOn⟩
      have connect := calls_of_callCamCtrl connects
      have isConnected := isReady.snoc connect.performs
      have stillFresh := connect.cache_of_setup (Or.inl rfl) fresh.1
      have cache := stillFresh.2.trans fresh.2
      rw [camExchanges_append]
      cases ok with
      | false =>
          rcases clientRun_of_giveUp isConnected ⟨stillFresh.1, cache⟩ (by simp) goesOn with
            ⟨destroy, client, asked⟩
          refine ⟨_, [], [destroy], client, ?_⟩
          simp [asked, trace]
      | true =>
          rcases exec_bind.mp goesOn with ⟨loop, ⟨ended, locals⟩, rest, rfl, loops, leaves⟩
          rcases polling_of_pollingLoop loops with ⟨polls, traced, polling⟩
          rw [camExchanges_append, ← traced]
          cases ended with
          | false =>
              rcases exec_pure.mp leaves with ⟨rfl, rfl⟩
              refine ⟨_, polls, [], ⟨⟨_, _, _, _, isConnected, stillFresh.1, cache, polling, .nil⟩,
                ?_, ?_, ?_⟩, ?_⟩ <;> simp [trace]
          | true =>
              rcases exec_bind.mp leaves with ⟨off, ⟨_, final⟩, rest, rfl, ends, last⟩
              have disconnect := calls_of_callCamCtrl ends
              rcases calls_of_leaveMain last with ⟨rfl, destroy, destroyed, asked⟩
              refine ⟨_, polls, [_, destroy], ⟨⟨_, _, _, _, isConnected, stillFresh.1, cache, polling,
                .cons disconnect.performs (.cons destroyed.performs .nil)⟩, ?_, ?_, ?_⟩, ?_⟩
              · simp
              · simp [destroyed.isOp]
              · simp [destroyed.isOp, destroyed.isLocked]
              · simp [asked, trace]

/-- The programs that send nothing to the camera. -/
abbrev Spares {α : Type} (program : Demoing π sizeT α) : Prop :=
  Only (fun request => ∀ reply : DemoReply π sizeT, camExchange (request, reply) = none) program

omit [Commons] in
theorem spares_perform {request : DemoCall π}
    (spares : ∀ reply : DemoReply π sizeT, camExchange (request, reply) = none) :
    Spares (perform request : Demoing π sizeT _) :=
  only_perform spares

omit [Commons] in
theorem spares_releaseAll (pProp pEnum pWiaDevMgr : Option π) :
    Spares (releaseAll pProp pEnum pWiaDevMgr : Demoing π sizeT Unit) := by
  have released (object : Option π) : Spares (safeRelease object : Demoing π sizeT Unit) := by
    cases object with
    | none => exact only_pure _
    | some object => exact (spares_perform fun _ => rfl).bind fun _ => only_pure _
  exact (released _).bind fun _ => (released _).bind fun _ => released _

omit [Commons] in
theorem spares_initVariants (count : ℕ) : Spares (initVariants count : Demoing π sizeT Unit) := by
  induction count with
  | zero => exact only_pure _
  | succ count ih => exact ih.bind fun _ => (spares_perform fun _ => rfl).bind fun _ => only_pure _

omit [Commons] in
theorem spares_clearVariants (count : ℕ) : Spares (clearVariants count : Demoing π sizeT Unit) := by
  induction count with
  | zero => exact only_pure _
  | succ count ih => exact ih.bind fun _ => (spares_perform fun _ => rfl).bind fun _ => only_pure _

omit [Commons] in
theorem spares_copyDeviceId (propVal : DevEnum.PropVariant) :
    Spares (copyDeviceId propVal : Demoing π sizeT _) := by
  refine (spares_perform fun _ => rfl).bind fun _ => ?_
  cases propVal with
  | other => exact only_pure _
  | bstr bstrVal =>
      cases bstrVal with
      | none => exact only_pure _
      | some bstrVal => exact (spares_perform fun _ => rfl).bind fun _ => only_pure _

variable [StringConversion]

omit [Commons] in
theorem spares_bstrToUtf8 (place : BstrPlace π) (bstr : DevEnum.WideString) :
    Spares (bstrToUtf8 place bstr : Demoing π sizeT _) := by
  refine (spares_perform fun _ => rfl).bind fun _ => ?_
  cases StringConversion.wideCharToMultiByte (bstr.takeWhile (· ≠ 0)) with
  | none => exact only_pure _
  | some strUtf8 => exact (spares_perform fun _ => rfl).bind fun _ => only_pure _

omit [Commons] in
theorem spares_printDeviceName (propVal : DevEnum.PropVariant) :
    Spares (printDeviceName propVal : Demoing π sizeT _) := by
  refine (spares_perform fun _ => rfl).bind fun _ => ?_
  cases propVal with
  | other => exact only_pure _
  | bstr bstrVal =>
      cases bstrVal with
      | none => exact only_pure _
      | some bstrVal => exact (spares_bstrToUtf8 _ _).bind fun _ => only_pure _

omit [Commons] in
theorem spares_getFirstWiaDeviceId : Spares (getFirstWiaDeviceId : Demoing π sizeT _) := by
  refine (spares_perform fun _ => rfl).bind fun created => ?_
  cases created.obtained with
  | none =>
      exact (spares_releaseAll none none created.pointer).bind fun _ => only_pure _
  | some pWiaDevMgr =>
      refine (spares_perform fun _ => rfl).bind fun enumerated => ?_
      cases enumerated.obtained with
      | none => exact (spares_releaseAll _ _ _).bind fun _ => only_pure _
      | some pEnum =>
          refine (spares_perform fun _ => rfl).bind fun found => ?_
          cases (if found.fetched = 0 then none else found.obtained) with
          | none => exact (spares_releaseAll _ _ _).bind fun _ => only_pure _
          | some pProp =>
              refine (spares_initVariants 2).bind fun _ => ?_
              refine (spares_perform fun _ => rfl).bind fun read => ?_
              refine only_ite (fun _ => ?_) fun _ => ?_
              · exact (spares_clearVariants 2).bind fun _ =>
                  (spares_releaseAll _ _ _).bind fun _ => only_pure _
              · refine (spares_copyDeviceId read.deviceId).bind fun copied => ?_
                refine (spares_printDeviceName read.deviceName).bind fun _ => ?_
                refine (spares_clearVariants 2).bind fun _ => ?_
                cases copied with
                | none => exact (spares_releaseAll _ _ _).bind fun _ => only_pure _
                | some copy =>
                    exact (spares_bstrToUtf8 _ _).bind fun _ =>
                      (spares_perform fun _ => rfl).bind fun _ =>
                        (spares_releaseAll _ _ _).bind fun _ => only_pure _

/-- What the demo does with its object is a run of public calls. -/
theorem servesClient_of_main {nMaxIterations : UInt64} {fuel : ℕ} {exitCode : Option Int32}
    (execution : Exec (main nMaxIterations fuel) calls exitCode) : ServesClient calls exitCode := by
  rcases camExchanges_perform (fun _ => rfl) execution with ⟨initialised, rest, continues, spared⟩
  rw [ServesClient, spared]
  split at continues
  · rcases exec_pure.mp continues with ⟨rfl, rfl⟩
    exact Or.inl rfl
  · rcases exec_bind.mp continues with ⟨finding, found, more, rfl, finds, goesOn⟩
    have quiet : camExchanges finding = [] :=
      filterMap_of_only spares_getFirstWiaDeviceId finds
    rw [camExchanges_append, quiet, List.nil_append]
    cases found with
    | none =>
        rcases camExchanges_perform (fun _ => rfl) goesOn with ⟨_, last, returns, spared⟩
        rcases exec_pure.mp returns with ⟨rfl, rfl⟩
        exact Or.inl spared
    | some sWiaDeviceId => exact servesClient_of_pollDevice goesOn

omit [StringConversion] in
/-- The calls on the object are a run. -/
theorem ClientRun.callRun {setup polls closing : List (Call StdString sizeT)} {ended : Bool}
    (client : ClientRun setup polls closing ended) :
    ∃ state, CallRun (setup ++ polls ++ closing) state := by
  rcases client.calls with ⟨object, last, final, state, ready, _, _, polling, closes⟩
  exact ⟨state, (ready.append_path polling.path).append_path closes⟩

/-- Whatever COM, WIA and the camera answer, the demo keeps the session protocol; and when it has
returned, by whichever exit, it has closed every session that it has been told is open.  An
answer here is what `Escape` returns; what the device makes of a command after its timeout is
not looked at. -/
theorem main_keeps_protocol {nMaxIterations : UInt64} {fuel : ℕ} {exitCode : Option Int32}
    (execution : Exec (main nMaxIterations fuel) calls exitCode) :
    Impl.ObeysSessionProtocol (camExchanges calls) ∧
      (exitCode.isSome = true → Impl.EverySessionClosed (camExchanges calls)) := by
  rcases servesClient_of_main execution with silent | ⟨setup, polls, closing, client, asked⟩
  · have accepted : Session.run Impl.sessionAction none (camExchanges calls) = some none := by
      rw [silent]
      rfl
    exact ⟨Impl.obeysSessionProtocol_of_accepted accepted,
      fun _ => Impl.everySessionClosed_of_accepted accepted⟩
  · rcases client.callRun with ⟨state, run⟩
    rcases (CallRun.sessionInvariant run).accepted with ⟨final, accepted, _, destroyed⟩
    rw [asked]
    refine ⟨Impl.obeysSessionProtocol_of_accepted accepted, ?_⟩
    intro ended
    rcases client.destroyed ended with ⟨call, membership, destroys, locked⟩
    rw [destroyed call (List.mem_append_right _ membership) destroys locked] at accepted
    exact Impl.everySessionClosed_of_accepted accepted

end PollingClient

def foundReply (pointer : Nat) : DemoReply Nat .bits64 := { pointer := some pointer, fetched := 1 }

def answer (escaped : EscapeResult .bits64) : DemoReply Nat .bits64 := { escaped := escaped }

/-- Replies in which nothing matters but that the call succeeds. -/
def silent (count : Nat) : List (DemoReply Nat .bits64) := List.replicate count {}

/-- The camera accepts the session, refuses its status, and accepts what is written. -/
def polledReplies : List (DemoReply Nat .bits64) :=
  silent 1 ++ [foundReply 1, foundReply 2, foundReply 3] ++ silent 2 ++
    [{ deviceId := .bstr (some [67]), deviceName := .bstr (some [65]) }] ++ silent 1 ++
    [foundReply 4] ++ silent 12 ++
    [answer Impl.okReply, answer Impl.okReply, answer Impl.infoReply, answer Impl.okReply,
      answer Impl.okReply] ++
    silent 2 ++ [answer ⟨0, 0x2019, .empty⟩] ++ silent 6 ++
    List.replicate 4 (answer Impl.okReply) ++ silent 2 ++
    List.replicate 3 (answer Impl.okReply) ++ silent 1

def polledCalls : List (DemoCall Nat × DemoReply Nat .bits64) :=
  ((replay (main 1 2) polledReplies).map (·.1)).getD []

theorem polledCalls_exec :
    Exec (main 1 2 : Demoing Nat .bits64 (Option Int32)) polledCalls (some 0) := by
  have replayed : replay (main 1 2) polledReplies = some (polledCalls, some 0) := by rfl
  exact exec_of_replay replayed

theorem main_keeps_protocol_polled :
    (camExchanges polledCalls).length = 13 ∧ Impl.EverySessionClosed (camExchanges polledCalls) :=
  ⟨by rfl, (main_keeps_protocol polledCalls_exec).2 rfl⟩

end SimpleCamCtrl.Demo
