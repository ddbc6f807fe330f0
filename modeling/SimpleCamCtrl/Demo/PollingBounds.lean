import SimpleCamCtrl.Demo.PollingClient
import SimpleCamCtrl.Impl.HandshakeGrammar
import SimpleCamCtrl.Impl.TransportUse

/-!
# How long the demo polls

With a maximal number of iterations the demo comes to an end, whatever it is told, and the
number of commands that it sends to the camera is bounded.
-/

namespace SimpleCamCtrl.Demo

open Interaction
open DevEnum (StdString StringConversion)
open Impl (SonyPTP3Impl Call ensureConnected)

section Calls

variable {τ : Type} [DecidableEq τ] {sizeT : SizeT} [Commons]
variable {object : SonyPTP3Impl τ} {op : Impl.Op τ} {call : Call τ sizeT}

/-- Without a session only Connect sends anything. -/
theorem Calls.silent (made : Calls object op call) (closed : ensureConnected object = none)
    (notConnect : op ≠ .connect) : call.exchanges = [] := by
  rcases made.outcome.cases_of_closed closed with silent | ⟨isConnect, _⟩
  · exact silent
  · exact (notConnect isConnect).elim

/-- Without a session only a Connect that succeeds opens one. -/
theorem Calls.stays_closed (made : Calls object op call) (closed : ensureConnected object = none)
    (other : op = .connect → call.result = false) : ensureConnected call.after = none := by
  cases opened : ensureConnected call.after with
  | none => rfl
  | some transport =>
      rcases made.outcome.connect_of_opens closed opened with ⟨isConnect, succeeded⟩
      rw [other isConnect] at succeeded
      cases succeeded

theorem Calls.connect_length_le (made : Calls object .connect call)
    (closed : ensureConnected object = none) : call.exchanges.length ≤ 15 := by
  have executes := made.performs.executes
  have alive := made.performs.alive
  cases alive
  rw [made.isLocked, made.isOp, if_pos rfl] at executes
  cases held : call.before.transport with
  | none =>
      have silent : call.exchanges = [] := by
        have connects : Exec (Impl.connect call.before) call.exchanges (call.result, call.after) :=
          executes
        rw [Impl.connect, held] at connects
        exact (exec_pure.mp connects).1
      simp [silent]
  | some transport =>
      have notOpen : call.before.connectionState ≠ .sessionOpen := by
        intro isOpen
        rw [ensureConnected, if_pos isOpen, held] at closed
        cases closed
      exact ((Impl.exec_connect held notOpen).mp executes).1.length_le

theorem Calls.status_length_le (made : Calls object .updateStatus call) :
    call.exchanges.length ≤ 1 := by
  rcases made.outcome.of_updateStatus rfl with ⟨_, silent, _⟩ | ⟨_, _, _, asked, _⟩
  · simp [silent]
  · simp [asked]

theorem Calls.write_length_le {params : ExposureParams}
    (made : Calls object (.setExposureParams params) call) : call.exchanges.length ≤ 4 := by
  have outcome := made.outcome
  generalize call.exchanges = exchanges, call.result = result, call.after = after at outcome
  cases outcome with
  | noSession => simp
  | wrote _ requests =>
      have count := congrArg List.length requests
      rw [List.length_map] at count
      exact count.le
  | disconnected ending => simp at ending
  | controlled _ control => cases control

/-- A session is ended with three commands. -/
theorem Calls.disconnect_length_le (made : Calls object .disconnect call) :
    call.exchanges.length ≤ 3 ∧ ensureConnected call.after = none := by
  have outcome := made.outcome
  generalize call.exchanges = exchanges, call.result = result, call.after = after at outcome
  cases outcome with
  | disconnected _ ends =>
      constructor
      · rw [Impl.EndsSession] at ends
        split at ends
        · simp [ends]
        · rcases ends with ⟨_, _, _, rfl⟩
          rfl
      · cases held : object.transport <;> simp [ensureConnected]
  | noSession _ command => cases command
  | controlled _ control => cases control

end Calls

section PollingBounds

variable {π : Type} {sizeT : SizeT} [Commons]
variable {calls : List (DemoCall π × DemoReply π sizeT)} {locals locals' : PollLocals}
variable {nMaxIterations : UInt64} {fuel : ℕ}

theorem nLoopCount_of_pollOnce (execution : Exec (pollOnce locals) calls locals') :
    locals'.nLoopCount = locals.nLoopCount + 1 := by
  rcases exec_bind.mp execution with ⟨_, _, _, rfl, _, continues⟩
  rcases exec_bind.mp continues with ⟨_, _, _, rfl, _, modes⟩
  rcases exec_perform_bind.mp modes with ⟨_, _, rfl, modeEnds⟩
  rcases exec_perform_bind.mp modeEnds with ⟨_, _, rfl, settings⟩
  rcases exec_bind_pure.mp settings with ⟨_, _, rfl⟩
  rfl

/-- One iteration asks for the status and writes four properties at most. -/
theorem length_le_of_pollOnce (execution : Exec (pollOnce locals) calls locals') :
    (camExchanges calls).length ≤ 5 := by
  rcases polling_of_pollOnce execution with ⟨status, write, asked, updates, _, writes, _⟩
  rw [asked, List.length_append]
  have statusLe := updates.status_length_le
  have writeLe := writes.write_length_le
  omega

/-- With a maximal number of iterations the loop ends, and each iteration that is left costs five
commands at most. -/
theorem bounds_of_pollingLoop {outcome : Bool × PollLocals} (limited : 0 < nMaxIterations)
    (counted : locals.nLoopCount ≤ nMaxIterations)
    (execution : Exec (pollingLoop nMaxIterations fuel locals) calls outcome) :
    (nMaxIterations.toNat - locals.nLoopCount.toNat < fuel → outcome.1 = true) ∧
      (camExchanges calls).length ≤
        5 * (nMaxIterations.toNat - locals.nLoopCount.toNat) := by
  induction fuel generalizing locals calls with
  | zero =>
      rcases exec_pure.mp execution with ⟨rfl, rfl⟩
      exact ⟨fun few => absurd few (Nat.not_lt_zero _), Nat.zero_le _⟩
  | succ fuel ih =>
      rcases camExchanges_perform (fun _ => rfl) execution with ⟨flag, rest, continues, spared⟩
      rw [spared]
      split at continues
      · rcases exec_pure.mp continues with ⟨rfl, rfl⟩
        exact ⟨fun _ => rfl, Nat.zero_le _⟩
      split at continues
      · rcases exec_pure.mp continues with ⟨rfl, rfl⟩
        exact ⟨fun _ => rfl, Nat.zero_le _⟩
      · rename_i goesOn
        rcases exec_bind.mp continues with ⟨once, polled, more, rfl, polls, loops⟩
        have less : locals.nLoopCount < nMaxIterations := by
          rw [← UInt64.not_le]
          exact fun reached => goesOn ⟨limited, reached⟩
        have step := nLoopCount_of_pollOnce polls
        rw [UInt64.lt_iff_toNat_lt] at less
        have next : polled.nLoopCount.toNat = locals.nLoopCount.toNat + 1 := by
          have fits := nMaxIterations.toNat_lt
          rw [step, UInt64.toNat_add]
          exact Nat.mod_eq_of_lt (by change _ + 1 < _; omega)
        have stillCounted : polled.nLoopCount ≤ nMaxIterations := by
          rw [UInt64.le_iff_toNat_le]
          omega
        rcases ih stillCounted loops with ⟨ends, few⟩
        have onceLe := length_le_of_pollOnce polls
        rw [camExchanges_append, List.length_append]
        exact ⟨fun enough => ends (by omega), by omega⟩

/-- Once it knows the device, the demo returns, after one handshake, the iterations and the end of
the session. -/
theorem bounds_of_pollDevice {sWiaDeviceId : StdString} {exitCode : Option Int32}
    (limited : 0 < nMaxIterations) (enough : nMaxIterations.toNat < fuel)
    (execution : Exec (pollDevice nMaxIterations fuel sWiaDeviceId) calls exitCode) :
    exitCode.isSome = true ∧ (camExchanges calls).length ≤ 18 + 5 * nMaxIterations.toNat := by
  rcases camExchanges_perform (fun _ => rfl) execution with ⟨_, _, made, spared⟩
  rcases exec_bind.mp made with ⟨setting, ⟨ok, ready⟩, rest, rfl, sets, continues⟩
  have set := calls_of_callCamCtrl sets
  have setSilent : camExchanges setting = [] := set.silent rfl (by simp)
  have readyClosed : ensureConnected ready = none := set.stays_closed rfl (by simp)
  rw [spared, camExchanges_append, setSilent, List.nil_append]
  cases ok with
  | false =>
      rcases calls_of_leaveMain continues with ⟨rfl, destroy, destroyed, asked⟩
      rw [asked, destroyed.silent readyClosed (by simp)]
      exact ⟨rfl, Nat.zero_le _⟩
  | true =>
      rcases exec_bind.mp continues with ⟨connecting, ⟨ok, connected⟩, rest, rfl, connects, goesOn⟩
      have connect := calls_of_callCamCtrl connects
      have connectLe : (camExchanges connecting).length ≤ 15 := connect.connect_length_le readyClosed
      rw [camExchanges_append, List.length_append]
      cases ok with
      | false =>
          have stillClosed : ensureConnected connected = none :=
            connect.stays_closed readyClosed fun _ => rfl
          rcases calls_of_leaveMain goesOn with ⟨rfl, destroy, destroyed, asked⟩
          rw [asked, destroyed.silent stillClosed (by simp), List.length_nil]
          exact ⟨rfl, by omega⟩
      | true =>
          rcases exec_bind.mp goesOn with ⟨loop, ⟨ended, locals⟩, rest, rfl, loops, leaves⟩
          rcases bounds_of_pollingLoop limited UInt64.zero_le loops with ⟨ends, loopLe⟩
          have isEnded : ended = true := ends (by simpa using enough)
          subst isEnded
          rcases exec_bind.mp leaves with ⟨off, ⟨_, final⟩, rest, rfl, disconnects, last⟩
          have disconnect := calls_of_callCamCtrl disconnects
          rcases disconnect.disconnect_length_le with ⟨disconnectLe, closed⟩
          rcases calls_of_leaveMain last with ⟨rfl, destroy, destroyed, asked⟩
          rw [camExchanges_append, camExchanges_append, List.length_append, List.length_append,
            asked, destroyed.silent closed (by simp), List.length_nil]
          simp only [UInt64.toNat_zero, Nat.sub_zero] at loopLe
          change (camExchanges off).length ≤ 3 at disconnectLe
          exact ⟨rfl, by omega⟩

/-- With a maximal number of iterations `main` returns, whatever COM, WIA, the clock and the camera
answer and however the flag is set, and has sent the camera a bounded number of commands. -/
theorem main_returns [StringConversion] {exitCode : Option Int32} (limited : 0 < nMaxIterations)
    (enough : nMaxIterations.toNat < fuel)
    (execution : Exec (main nMaxIterations fuel) calls exitCode) :
    exitCode.isSome = true ∧ (camExchanges calls).length ≤ 18 + 5 * nMaxIterations.toNat := by
  rcases camExchanges_perform (fun _ => rfl) execution with ⟨initialised, rest, continues, spared⟩
  rw [spared]
  split at continues
  · rcases exec_pure.mp continues with ⟨rfl, rfl⟩
    exact ⟨rfl, Nat.zero_le _⟩
  · rcases exec_bind.mp continues with ⟨finding, found, more, rfl, finds, goesOn⟩
    have quiet : camExchanges finding = [] :=
      filterMap_of_only spares_getFirstWiaDeviceId finds
    rw [camExchanges_append, quiet, List.nil_append]
    cases found with
    | none =>
        rcases camExchanges_perform (fun _ => rfl) goesOn with ⟨_, last, returns, spared⟩
        rcases exec_pure.mp returns with ⟨rfl, rfl⟩
        rw [spared]
        exact ⟨rfl, Nat.zero_le _⟩
    | some sWiaDeviceId => exact bounds_of_pollDevice limited enough goesOn

end PollingBounds

theorem main_returns_polled : (camExchanges polledCalls).length ≤ 23 :=
  (main_returns (by decide) (by decide) polledCalls_exec).2

end SimpleCamCtrl.Demo
