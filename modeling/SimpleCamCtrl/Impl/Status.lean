import SimpleCamCtrl.DeviceProperties.Record
import SimpleCamCtrl.Impl.SessionProtocol

/-!
# Exposure values and sessions

One flag stands for four values that are reported one by one, and the cache outlives the
session.  The values that can be read are those of the current session exactly when the
first status reply that is taken over in a session carries all four of them.
-/

namespace SimpleCamCtrl.Impl

open History

section Status

variable {τ : Type} {sizeT : SizeT} [Commons]
variable {self after : SonyPTP3Impl τ} {transport : τ} {exchanges : List (Exchange τ sizeT)}

/-- The properties that a reply reports. -/
def reported (exchange : Exchange τ sizeT) : DeviceProperties.PropertyMap :=
  DeviceProperties.parseDeviceProperties exchange.2.payload

/-- A successful UpdateStatus received the value for the code. -/
def Reports (code : UInt32) (raw : UInt64) (call : Call τ sizeT) : Prop :=
  call.op = .updateStatus ∧ call.result = true ∧
    ∃ exchange ∈ call.exchanges, findProperty (reported exchange) code = some raw

/-- A handshake that opened a session. -/
def HandshakeSucceeded (call : Call τ sizeT) : Prop :=
  call.op = .connect ∧ ∃ transport, ∃ exchange ∈ call.exchanges, OpenAccepted transport exchange

/-- The latest value received for the code by a successful UpdateStatus since the last
successful handshake. -/
def LatestReport (code : UInt32) (raw : UInt64) (calls : List (Call τ sizeT)) : Prop :=
  Since (Reports code raw)
    (fun call => HandshakeSucceeded call ∨ ∃ later, Reports code later call) calls

/-- The value is the decoding of the latest report for the code. -/
def FieldCurrent {α : Type} (calls : List (Call τ sizeT)) (code : UInt32) (decode : UInt64 → α)
    (value : α) : Prop :=
  ∃ raw, LatestReport code raw calls ∧ value = decode raw

/-- If GetExposureParams returns true, each field comes from the current session. -/
def ExposureCurrent (calls : List (Call τ sizeT)) (object : SonyPTP3Impl τ) : Prop :=
  ∀ params, getExposureParams object = some params →
    FieldCurrent calls dpcShutterSpeed
        (fun raw => Exposure.decodeShutterSpeedReciprocal raw.toUInt32) params.shutterSpeed ∧
      FieldCurrent calls dpcFNumber
        (fun raw => Exposure.decodeFNumber raw.toUInt16) params.fNumber ∧
      FieldCurrent calls dpcIso UInt64.toUInt32 params.iso ∧
      FieldCurrent calls dpcExposureCompensation toInt32 params.exposureComp

/-- In every state that the run reaches, what can be read is current. -/
def AlwaysCurrent (calls : List (Call τ sizeT)) : Prop :=
  Each (fun before call => ExposureCurrent (before ++ [call]) call.after) calls

/-- The four codes whose values GetExposureParams outputs. -/
def HasAllExposureFields (props : DeviceProperties.PropertyMap) : Prop :=
  (findProperty props dpcShutterSpeed).isSome ∧ (findProperty props dpcFNumber).isSome ∧
    (findProperty props dpcIso).isSome ∧ (findProperty props dpcExposureCompensation).isSome

/-- The guard on a call: while there is no status, a status reply that carries any
exposure field carries all four. -/
def FirstStatusComplete (call : Call τ sizeT) : Prop :=
  call.op = .updateStatus → call.before.hasStatus = false →
    ∀ exchange ∈ call.exchanges, Accepted exchange.2 →
      hasAnyExposureField (reported exchange) = true → HasAllExposureFields (reported exchange)

instance (props : DeviceProperties.PropertyMap) : Decidable (HasAllExposureFields props) :=
  inferInstanceAs (Decidable (_ ∧ _ ∧ _ ∧ _))

instance [DecidableEq τ] (call : Call τ sizeT) : Decidable (FirstStatusComplete call) :=
  inferInstanceAs (Decidable (_ → _ → ∀ exchange ∈ _, _ → _ → _))

/-- The call neither takes over a status nor opens a session. -/
structure KeepsStatus (call : Call τ sizeT) : Prop where
  noHandshake : ¬HandshakeSucceeded call
  noReport : call.op = .updateStatus → call.result = false
  nothingTaken : call.op = .updateStatus →
    ∀ exchange ∈ call.exchanges, ¬TakesStatus call.before exchange.2
  exposureParams : call.after.cache.exposureParams = call.before.cache.exposureParams
  flag : (call.after.hasStatus = false ∧ ensureConnected call.after = none) ∨
    (call.after.hasStatus = call.before.hasStatus ∧
      ensureConnected call.after = ensureConnected call.before)

/-- The call is an UpdateStatus that takes over the reply. -/
structure TakesReply (call : Call τ sizeT) (transport : τ) (reply : EscapeResult sizeT) :
    Prop where
  op : call.op = .updateStatus
  result : call.result = true
  exchanges : call.exchanges = [(statusRequest transport, reply)]
  session : ensureConnected call.before = some transport
  taken : TakesStatus call.before reply
  after : call.after =
    afterStatus call.before (DeviceProperties.parseDeviceProperties reply.payload)

/-- What a call does to the status. -/
inductive StatusEffect (call : Call τ sizeT) : Prop where
  | handshake : HandshakeSucceeded call → call.after.hasStatus = false → StatusEffect call
  | taken {transport : τ} {reply : EscapeResult sizeT} :
      TakesReply call transport reply → StatusEffect call
  | kept : KeepsStatus call → StatusEffect call

/-- A successful handshake ends with the session opened. -/
theorem Handshake.openAccepted (handshake : Handshake transport exchanges true) :
    ∃ exchange ∈ exchanges, OpenAccepted transport exchange := by
  rcases handshake.succeeded with ⟨attempts, reply, _, accepted, rfl⟩
  exact ⟨(openRequest transport, reply), by simp, rfl, rfl, accepted⟩

theorem exposureParams_afterControl {button : Button} {pressed : Bool}
    {reply : EscapeResult sizeT} :
    (afterControl self button pressed reply).cache.exposureParams = self.cache.exposureParams := by
  unfold afterControl
  split <;> rfl

theorem hasStatus_afterControl {button : Button} {pressed : Bool}
    {reply : EscapeResult sizeT} :
    (afterControl self button pressed reply).hasStatus = self.hasStatus := by
  unfold afterControl
  split <;> rfl

/-- A call that is neither a Connect nor an UpdateStatus keeps the status, or resets the
flag at the end of a session. -/
theorem KeepsStatus.of_other {call : Call τ sizeT} (notConnect : call.op ≠ .connect)
    (notUpdate : call.op ≠ .updateStatus)
    (exposureParams : call.after.cache.exposureParams = call.before.cache.exposureParams)
    (flag : (call.after.hasStatus = false ∧ ensureConnected call.after = none) ∨
      (call.after.hasStatus = call.before.hasStatus ∧
        ensureConnected call.after = ensureConnected call.before)) : KeepsStatus call :=
  ⟨fun succeeded => notConnect succeeded.1, fun isUpdate => (notUpdate isUpdate).elim,
    fun isUpdate => (notUpdate isUpdate).elim, exposureParams, flag⟩

/-- A call opens a session, takes over a status, or keeps the status as it is. -/
theorem Outcome.status {call : Call τ sizeT}
    (outcome : Outcome call.before call.op call.exchanges call.result call.after) :
    StatusEffect call := by
  rcases call with ⟨op, locked, before, exchanges, result, after⟩
  simp only at outcome
  cases outcome with
  | connected held closed handshake =>
      exact .handshake ⟨rfl, _, handshake.openAccepted⟩ rfl
  | statusTaken opened taken =>
      exact .taken ⟨rfl, rfl, rfl, opened, taken, rfl⟩
  | noTransport held =>
      refine .kept ⟨by simp [HandshakeSucceeded], by simp, by simp, rfl, Or.inr ⟨rfl, ?_⟩⟩
      simp [ensureConnected, held]
  | alreadyOpen opened =>
      exact .kept ⟨by simp [HandshakeSucceeded], by simp, by simp, rfl,
        Or.inr ⟨rfl, rfl⟩⟩
  | refused held closed handshake =>
      refine .kept ⟨?_, by simp, by simp, rfl, Or.inr ⟨rfl, ?_⟩⟩
      · intro succeeded
        rcases succeeded.2 with ⟨endpoint, exchange, membership, opened⟩
        exact (handshake.failed exchange membership).not_openAccepted opened
      · simp only [closed]
        exact ensureConnected_of_not_open (by simp)
  | disconnected ending ends =>
      refine .kept (.of_other ?_ ?_ rfl (Or.inl ⟨rfl, ?_⟩))
      · rcases ending with rfl | rfl <;> simp
      · rcases ending with rfl | rfl <;> simp
      · cases held : before.transport <;> simp [ensureConnected]
  | keptNone held =>
      exact .kept (.of_other (by simp) (by simp) rfl
        (Or.inl ⟨rfl, by simp [ensureConnected]⟩))
  | keptReady held closed =>
      refine .kept (.of_other (by simp) (by simp) rfl (Or.inr ⟨rfl, ?_⟩))
      simp only [closed]
      exact ensureConnected_of_not_open (by simp)
  | newTransport different ends =>
      rename_i target
      refine .kept (.of_other (by simp) (by simp) rfl (Or.inl ⟨rfl, ?_⟩))
      cases target <;> simp [ensureConnected]
  | keptOpen | wrote =>
      exact .kept (.of_other (by simp) (by simp) rfl (Or.inr ⟨rfl, rfl⟩))
  | noSession closed command =>
      exact .kept ⟨by simp [HandshakeSucceeded], fun _ => rfl, by simp, rfl,
        Or.inr ⟨rfl, rfl⟩⟩
  | statusRefused opened refused =>
      exact .kept ⟨by simp [HandshakeSucceeded], fun _ => rfl, by simpa using refused,
        rfl, Or.inr ⟨rfl, rfl⟩⟩
  | controlled opened control =>
      refine .kept (.of_other ?_ ?_ exposureParams_afterControl
        (Or.inr ⟨hasStatus_afterControl, ensureConnected_afterControl⟩))
      · intro isConnect
        change op = .connect at isConnect
        rw [isConnect] at control
        cases control
      · intro isUpdate
        change op = .updateStatus at isUpdate
        rw [isUpdate] at control
        cases control

section Field

variable {α : Type} {calls : List (Call τ sizeT)} {call : Call τ sizeT} {code : UInt32}
variable {raw : UInt64} {decode : UInt64 → α}

theorem latestReport_snoc :
    LatestReport code raw (calls ++ [call]) ↔
      Reports code raw call ∨
        (LatestReport code raw calls ∧
          ¬(HandshakeSucceeded call ∨ ∃ later, Reports code later call)) :=
  since_snoc calls call

theorem KeepsStatus.not_reports (keeps : KeepsStatus call) : ¬Reports code raw call := by
  intro reports
  have failed := keeps.noReport reports.1
  rw [reports.2.1] at failed
  cases failed

theorem KeepsStatus.latestReport_iff (keeps : KeepsStatus call) :
    LatestReport code raw (calls ++ [call]) ↔ LatestReport code raw calls := by
  have noReport (later : UInt64) : ¬Reports code later call := keeps.not_reports
  simp [latestReport_snoc, noReport, keeps.noHandshake]

theorem KeepsStatus.exposureCurrent (keeps : KeepsStatus call)
    (current : ExposureCurrent calls call.before) :
    ExposureCurrent (calls ++ [call]) call.after := by
  intro params output
  rw [getExposureParams] at output
  split at output
  · rename_i hasStatus
    simp only [FieldCurrent, keeps.latestReport_iff]
    apply current params
    rcases keeps.flag with ⟨reset, _⟩ | ⟨same, _⟩
    · rw [reset] at hasStatus
      cases hasStatus
    · rw [getExposureParams, ← same, if_pos hasStatus, ← keeps.exposureParams]
      exact output
  · cases output

theorem TakesReply.reports_iff {reply : EscapeResult sizeT}
    (takes : TakesReply call transport reply) :
    Reports code raw call ↔
      findProperty (DeviceProperties.parseDeviceProperties reply.payload) code = some raw := by
  simp [Reports, takes.op, takes.result, takes.exchanges, reported]

theorem TakesReply.latestReport_iff {reply : EscapeResult sizeT}
    (takes : TakesReply call transport reply) :
    LatestReport code raw (calls ++ [call]) ↔
      findProperty (DeviceProperties.parseDeviceProperties reply.payload) code = some raw ∨
        (LatestReport code raw calls ∧
          findProperty (DeviceProperties.parseDeviceProperties reply.payload) code = none) := by
  have noHandshake : ¬HandshakeSucceeded call := by
    intro succeeded
    have op := succeeded.1
    rw [takes.op] at op
    cases op
  simp only [latestReport_snoc, takes.reports_iff, noHandshake, false_or]
  rw [Option.eq_none_iff_forall_ne_some, not_exists]

/-- A field of the cache after a reply is current if the reply carries it, or if it was
current before. -/
theorem TakesReply.fieldCurrent_iff {reply : EscapeResult sizeT} {old : α}
    (takes : TakesReply call transport reply) :
    FieldCurrent (calls ++ [call]) code decode
        (match findProperty (DeviceProperties.parseDeviceProperties reply.payload) code with
          | some raw => decode raw
          | none => old) ↔
      (findProperty (DeviceProperties.parseDeviceProperties reply.payload) code).isSome = true ∨
        FieldCurrent calls code decode old := by
  unfold FieldCurrent
  simp only [takes.latestReport_iff]
  cases found : findProperty (DeviceProperties.parseDeviceProperties reply.payload) code with
  | some raw =>
      simp only [Option.isSome_some, true_or, iff_true]
      exact ⟨raw, Or.inl rfl, rfl⟩
  | none => simp

end Field

/-! ## One call -/

/-- What links the reports of a run to the state of the object. -/
structure StatusInvariant (calls : List (Call τ sizeT)) (object : SonyPTP3Impl τ) : Prop where
  session : object.hasStatus = true → ensureConnected object ≠ none
  fresh : object.hasStatus = false → ensureConnected object ≠ none →
    ∀ code raw, ¬LatestReport code raw calls
  current : AlwaysCurrent calls → ExposureCurrent calls object

section Step

variable {calls : List (Call τ sizeT)} {call : Call τ sizeT}

/-- When a reply is taken over, what can be read becomes current if all fields are
reported or there was a current status before. -/
theorem TakesReply.exposureCurrent_iff {reply : EscapeResult sizeT}
    (takes : TakesReply call transport reply) (inv : StatusInvariant calls call.before)
    (current : ExposureCurrent calls call.before) :
    ExposureCurrent (calls ++ [call]) call.after ↔ FirstStatusComplete call := by
  have output : getExposureParams call.after = some (updateCache call.before.cache
      (DeviceProperties.parseDeviceProperties reply.payload)).exposureParams := by
    rw [takes.after, getExposureParams_afterStatus takes.taken]
  have guard : FirstStatusComplete call ↔
      (call.before.hasStatus = false → HasAllExposureFields
        (DeviceProperties.parseDeviceProperties reply.payload)) := by
    have carried := takes.taken.2
    simp only [FirstStatusComplete, takes.op, takes.exchanges, List.mem_singleton, forall_eq,
      takes.taken.1, true_imp_iff, reported]
    refine forall_congr' fun noStatus => ?_
    rw [noStatus, Bool.or_false] at carried
    simp [carried]
  rw [guard, ExposureCurrent, output]
  simp only [Option.some.injEq, forall_eq', updateCache]
  refine (and_congr takes.fieldCurrent_iff (and_congr takes.fieldCurrent_iff
    (and_congr takes.fieldCurrent_iff takes.fieldCurrent_iff))).trans ?_
  cases hasStatus : call.before.hasStatus with
  | true =>
      have fields := current call.before.cache.exposureParams (if_pos hasStatus)
      simp [fields]
  | false =>
      have noReport := inv.fresh hasStatus (by simp [takes.session])
      simp [FieldCurrent, noReport, HasAllExposureFields]

/-- Without a current status before, a call that is not a first incomplete status leaves
what can be read current. -/
theorem KeepsStatus.firstStatusComplete (keeps : KeepsStatus call) : FirstStatusComplete call := by
  intro isUpdate _ exchange membership accepted carries
  refine (keeps.nothingTaken isUpdate exchange membership ⟨accepted, ?_⟩).elim
  rw [← reported, carries, Bool.true_or]

/-- One call keeps what can be read current exactly when it meets the guard. -/
theorem StatusInvariant.exposureCurrent_iff (inv : StatusInvariant calls call.before)
    (effect : StatusEffect call) (current : ExposureCurrent calls call.before) :
    ExposureCurrent (calls ++ [call]) call.after ↔ FirstStatusComplete call := by
  cases effect with
  | handshake succeeded reset =>
      have silent : getExposureParams call.after = none := by simp [getExposureParams, reset]
      simp [ExposureCurrent, silent, FirstStatusComplete, succeeded.1]
  | taken takes => exact takes.exposureCurrent_iff inv current
  | kept keeps =>
      exact ⟨fun _ => keeps.firstStatusComplete, fun _ => keeps.exposureCurrent current⟩

/-- The links between flag, session and reports survive a call. -/
theorem StatusInvariant.step (inv : StatusInvariant calls call.before)
    (effect : StatusEffect call) :
    (call.after.hasStatus = true → ensureConnected call.after ≠ none) ∧
      (call.after.hasStatus = false → ensureConnected call.after ≠ none →
        ∀ code raw, ¬LatestReport code raw (calls ++ [call])) := by
  cases effect with
  | handshake succeeded reset =>
      have noReport (code : UInt32) (raw : UInt64) : ¬Reports code raw call := by
        intro reports
        have op := reports.1
        rw [succeeded.1] at op
        cases op
      refine ⟨by simp [reset], ?_⟩
      intro _ _ code raw
      simp [latestReport_snoc, noReport, succeeded]
  | taken takes =>
      have flag : call.after.hasStatus = true := by
        rw [takes.after]
        exact takes.taken.2
      have session : ensureConnected call.after ≠ none := by
        rw [takes.after, ensureConnected_afterStatus, takes.session]
        simp
      simp [flag, session]
  | kept keeps =>
      simp only [keeps.latestReport_iff]
      rcases keeps.flag with ⟨reset, closed⟩ | ⟨sameFlag, sameSession⟩
      · simp [reset, closed]
      · rw [sameFlag, sameSession]
        exact ⟨inv.session, inv.fresh⟩

end Step

variable [DecidableEq τ] {calls : List (Call τ sizeT)} {state : Option (SonyPTP3Impl τ)}

/-- A call that did not get the lock keeps the status. -/
theorem Performs.statusEffect {state' : Option (SonyPTP3Impl τ)} {call : Call τ sizeT}
    (performs : Performs state call state') : StatusEffect call := by
  rcases performs.cases with ⟨_, silent, failed, unchanged⟩ | ⟨_, outcome⟩
  · refine .kept ⟨?_, fun _ => failed, ?_, ?_, ?_⟩
    · simp [HandshakeSucceeded, silent]
    · simp [silent]
    · rw [unchanged]
    · rw [unchanged]
      exact Or.inr ⟨rfl, rfl⟩
  · exact outcome.status

/-- What holds of every run, whatever its calls. -/
structure StatusRun (calls : List (Call τ sizeT)) (state : Option (SonyPTP3Impl τ)) :
    Prop where
  current_iff : AlwaysCurrent calls ↔ ∀ call ∈ calls, FirstStatusComplete call
  alive : ∀ object, state = some object → StatusInvariant calls object

theorem CallRun.statusRun (run : CallRun calls state) : StatusRun calls state := by
  refine run.invariant ?_ ?_
  · intro state begins
    refine ⟨⟨by simp, fun _ => each_nil⟩, ?_⟩
    intro object alive
    rw [begins] at alive
    cases alive
    refine ⟨?_, fun _ _ code raw => since_nil, ?_⟩
    · intro impossible
      cases impossible
    · intro _ params output
      cases output
  · intro calls state call state' run ih performs
    have inv := ih.alive _ performs.alive
    have effect := performs.statusEffect
    refine ⟨?_, ?_⟩
    · rw [AlwaysCurrent, each_snoc, ← AlwaysCurrent, List.forall_mem_append,
        List.forall_mem_singleton, ← ih.current_iff]
      exact and_congr_right fun always => inv.exposureCurrent_iff effect (inv.current always)
    · intro object alive
      have object_eq : object = call.after := performs.after_of_alive alive
      rw [object_eq]
      refine ⟨(inv.step effect).1, (inv.step effect).2, ?_⟩
      intro always
      rw [AlwaysCurrent, each_snoc] at always
      exact always.2

/-- Everything that GetExposureParams outputs in a run comes from the session of the time
exactly when every first status reply of a session carries all four fields. -/
theorem alwaysCurrent_iff_firstStatusComplete (run : CallRun calls state) :
    AlwaysCurrent calls ↔ ∀ call ∈ calls, FirstStatusComplete call :=
  run.statusRun.current_iff

end Status

open DeviceProperties (encodeRecords)

/-- Connect and take over one status reply. -/
def statusScript (reply : EscapeResult .bits64) :
    List (Op Unit × Option (List (EscapeResult .bits64))) :=
  [(.setPtpTransport (some ()), some []),
    (.connect, some [okReply, okReply, infoReply, okReply, okReply]),
    (.updateStatus, some [reply])]

/-- The reply of a camera that reports an ISO value of 25600 and nothing else. -/
def isoReply : EscapeResult .bits64 :=
  ⟨0, ptpRcOk, ⟨LittleEndian.ofNat 8 1 ++ encodeRecords [.ofScalar 0xD21E .uint32 25600],
    by decide⟩⟩

/-- The run is possible; GetExposureParams then returns true with an aperture that no
camera has reported. -/
theorem isoReply_not_current :
    CallRun (scriptCalls (statusScript isoReply)) (scriptState (statusScript isoReply)) ∧
      (scriptState (statusScript isoReply)).bind getExposureParams = some ⟨0, 0, 25600, 0⟩ ∧
      ¬AlwaysCurrent (scriptCalls (statusScript isoReply)) := by
  have run : CallRun (scriptCalls (statusScript isoReply)) (scriptState (statusScript isoReply)) :=
    callRun_script (by decide)
  refine ⟨run, by decide, ?_⟩
  rw [run.statusRun.current_iff]
  decide

/-- The reply of a camera that reports 1/250 s, f/2.8, ISO 400 and -0.3 EV. -/
def exposureReply : EscapeResult .bits64 :=
  ⟨0, ptpRcOk, ⟨LittleEndian.ofNat 8 4 ++ encodeRecords
    [.ofScalar 0xD20D .uint32 0x000100FA, .ofScalar 0x5007 .uint16 280,
      .ofScalar 0xD21E .uint32 400, .ofScalar 0x5010 .int32 0xFFFFFED4], by decide⟩⟩

theorem exposureReply_current :
    ((scriptState (statusScript exposureReply)).bind getExposureParams).isSome = true ∧
      AlwaysCurrent (scriptCalls (statusScript exposureReply)) := by
  have run : CallRun (scriptCalls (statusScript exposureReply))
      (scriptState (statusScript exposureReply)) := callRun_script (by decide)
  exact ⟨by decide, (alwaysCurrent_iff_firstStatusComplete run).mpr (by decide)⟩

end SimpleCamCtrl.Impl
