import SimpleCamCtrl.DevEnum.OpenedObject

/-!
# The device of an opened object

From the enumeration to the end of the object: what `OpenByIndex` returns belongs to a Sony
device that the enumerator yielded, and stays with it, also over `Disconnect` and `Connect`,
as long as nobody gives the object another transport.
-/

namespace SimpleCamCtrl.DevEnum

open Interaction
open Impl (SonyPTP3Impl Call Performs trace ensureConnected transportAfter)

section OpenedDevice

variable {π : Type} {sizeT : SizeT}

/-- The transport that an object holds after the calls, when it was built for the entry. -/
def transportInUse (entry : WiaRawEntry) (calls : List (Call StdString sizeT)) :
    Option StdString :=
  calls.foldl transportAfter (some entry.sId)

/-- The calls on an object that has been opened for the entry. -/
structure StaysWith [Commons] (entry : WiaRawEntry)
    (opening : List (DevEnumCall π × DevEnumReply π sizeT))
    (later : List (Call StdString sizeT)) (state : Option (SonyPTP3Impl StdString)) : Prop where
  opened : ∀ exchange ∈ sonyExchanges opening, exchange.1.transport = entry.sId
  sent : History.Each (fun before call => ∀ exchange ∈ call.exchanges,
    transportInUse entry before = some exchange.1.transport) later
  reconnected : History.Each (fun before call => call.op = .connect → call.result = true →
    ensureConnected call.after = transportInUse entry before) later
  held : ∀ object, state = some object → object.transport = transportInUse entry later

/-- What is listed at a position is a Sony device that was yielded. -/
theorem IsSnapshot.lists_sony {entries : List WiaRawEntry} {devices : List TDevEnumDeviceInfo}
    (snapshot : IsSnapshot entries devices) {index : Nat} {device : TDevEnumDeviceInfo}
    (listed : devices[index]? = some device) :
    ∃ entry ∈ entries, IsSonyDevice entry ∧ Lists entry index device := by
  rcases List.getElem?_eq_some_iff.mp listed with ⟨within, rfl⟩
  have inside : index < ((entries.filter IsSonyDevice).zipIdx).length := by
    rwa [List.Forall₂.length_eq snapshot]
  have lists := List.Forall₂.get snapshot inside within
  simp only [List.get_eq_getElem, List.getElem_zipIdx, Nat.zero_add] at lists
  rw [List.length_zipIdx] at inside
  have membership := List.mem_filter.mp (List.getElem_mem inside)
  exact ⟨_, membership.1, of_decide_eq_true membership.2, lists⟩

variable [StringConversion]
variable {opening : List (DevEnumCall π × DevEnumReply π sizeT)}

/-- The commands among calls that are for one device go to it. -/
theorem transport_of_concerns {wiaId : StdString}
    (concerns : ∀ call ∈ opening, Concerns wiaId call.1) :
    ∀ exchange ∈ sonyExchanges opening, exchange.1.transport = wiaId := by
  intro exchange sent
  rcases List.mem_filterMap.mp sent with ⟨⟨request, reply⟩, membership, isCommand⟩
  have concern := concerns _ membership
  cases request with
  | escape command =>
      rw [sonyExchange_escape, Option.some.injEq] at isCommand
      rw [← isCommand]
      exact concern
  | _ => cases isCommand

variable [Commons] {enumerator : SonyPTP3DevEnum} {nDeviceIndex : Int32}
variable {stOpenParams : TSonyPTP3OpenParams} {spSony : SonyPTP3Impl StdString}

theorem staysWith_of_opensOnly {entry : WiaRawEntry} {later : List (Call StdString sizeT)}
    {state : Option (SonyPTP3Impl StdString)} (opens : OpensOnly entry.sId opening (some spSony))
    (path : History.Path Performs (some spSony) later state) :
    StaysWith entry opening later state := by
  have held := (Impl.ensureConnected_eq_some_iff.mp (opens.2 spSony rfl)).2
  rcases Impl.transport_of_path path with ⟨found, left⟩
  rw [held] at found left
  have performed := path.exists_step
  constructor
  · exact transport_of_concerns opens.1
  · intro before call after split exchange sent
    rcases performed call (by simp [split]) with ⟨_, _, performs⟩
    rw [transportInUse, ← found before call after split]
    exact performs.sentByHolder exchange sent
  · intro before call after split connects succeeded
    rcases performed call (by simp [split]) with ⟨_, _, performs⟩
    rw [transportInUse, ← found before call after split]
    exact performs.session_of_connect connects succeeded
  · exact left

/-- Nothing is opened but what is listed. -/
theorem listed_of_opened
    (execution : Exec (openByIndex enumerator nDeviceIndex stOpenParams) opening (some spSony)) :
    ∃ (index : Nat) (device : TDevEnumDeviceInfo), nDeviceIndex.toInt = index ∧
      enumerator.vecDeviceInfo[index]? = some device := by
  by_cases refused : nDeviceIndex.toInt < 0 ∨
      enumerator.vecDeviceInfo.length ≤ nDeviceIndex.toInt
  · rw [openByIndex_of_notListed refused] at execution
    cases (exec_pure.mp execution).2
  · have within : nDeviceIndex.toInt.toNat < enumerator.vecDeviceInfo.length := by omega
    exact ⟨nDeviceIndex.toInt.toNat, _, by omega, List.getElem?_eq_getElem within⟩

omit [Commons] in
/-- What is listed after a call of Refresh is a Sony device that the call was given. -/
theorem lists_of_refreshes {refreshing : List (DevEnumCall π × DevEnumReply π sizeT)} {ok : Bool}
    (refreshes : Refreshes refreshing ok enumerator) {index : Nat} {device : TDevEnumDeviceInfo}
    (listed : enumerator.vecDeviceInfo[index]? = some device) :
    ∃ entry ∈ yielded refreshing, IsSonyDevice entry ∧ Lists entry index device := by
  rcases refreshes with ⟨fuel, execution⟩
  have refreshed := yields_refresh fuel refreshing _ execution
  cases ok with
  | false =>
      rw [Refreshed] at refreshed
      rw [refreshed] at listed
      cases listed
  | true =>
      rw [Refreshed] at refreshed
      rw [refreshed] at listed
      exact (isSnapshot_retainSonyDevices _).lists_sony listed

/-- Whatever COM, WIA, the lock and the camera answer: an object that `OpenByIndex` returns
after a call of `Refresh` has been opened for a Sony device that this call was given, the one
listed under the index; the camera commands of the opening have all gone to that device, and
so do those of every later call, reconnects included, until SetPtpTransport gives the object
another transport. -/
theorem openByIndex_stays_with_device {refreshing : List (DevEnumCall π × DevEnumReply π sizeT)}
    {ok : Bool} (refreshes : Refreshes refreshing ok enumerator)
    (execution : Exec (openByIndex enumerator nDeviceIndex stOpenParams) opening (some spSony)) :
    ∃ entry ∈ yielded refreshing, IsSonyDevice entry ∧
      (∃ (index : Nat) (device : TDevEnumDeviceInfo), nDeviceIndex.toInt = index ∧
        enumerator.vecDeviceInfo[index]? = some device ∧ Lists entry index device) ∧
      ∀ later state, History.Path Performs (some spSony) later state →
        StaysWith entry opening later state := by
  rcases listed_of_opened execution with ⟨index, device, position, listed⟩
  rcases lists_of_refreshes refreshes listed with ⟨entry, wasYielded, sony, lists⟩
  have opens := opens_openByIndex position listed stOpenParams opening _ execution
  rw [lists.wiaIdOf_eq, lists.location] at opens
  refine ⟨entry, wasYielded, sony, ⟨index, device, position, listed, lists⟩, ?_⟩
  intro later state path
  exact staysWith_of_opensOnly opens path

end OpenedDevice

/-- The sample object without its session. -/
def disconnectedSony : SonyPTP3Impl StdString :=
  { openedSony with connectionState := .transportReady }

/-- The object returned is disconnected. -/
def disconnectedCall : Call StdString .bits64 where
  op := .disconnect
  locked := true
  before := openedSony
  exchanges := ((replay (Impl.perform openedSony .disconnect)
    [Impl.okReply, Impl.okReply, Impl.okReply]).map (·.1)).getD []
  result := true
  after := disconnectedSony

/-- It is connected again. -/
def reconnectedCall : Call StdString .bits64 where
  op := .connect
  locked := true
  before := disconnectedSony
  exchanges := ((replay (Impl.perform disconnectedSony .connect)
    [Impl.okReply, Impl.okReply, Impl.infoReply, Impl.okReply, Impl.okReply]).map (·.1)).getD []
  result := true
  after := openedSony

theorem openByIndex_stays_with_device_reconnected :
    (trace [disconnectedCall, reconnectedCall]).length = 8 ∧
      ∃ entry ∈ yielded sampleCalls, IsSonyDevice entry ∧
        StaysWith entry openedCalls [disconnectedCall, reconnectedCall] (some openedSony) := by
  have refreshed : replay (refresh 5) sampleReplies =
      some (sampleCalls, some (true, sampleSnapshot)) := by rfl
  have opened : replay (openByIndex sampleSnapshot 1 {}) openedReplies =
      some (openedCalls, some openedSony) := by rfl
  have disconnected : Impl.replayCall openedSony .disconnect
      (some [Impl.okReply, Impl.okReply, Impl.okReply]) = some disconnectedCall := by rfl
  have reconnected : Impl.replayCall disconnectedSony .connect
      (some [Impl.okReply, Impl.okReply, Impl.infoReply, Impl.okReply, Impl.okReply]) =
        some reconnectedCall := by rfl
  rcases openByIndex_stays_with_device ⟨5, exec_of_replay refreshed⟩ (exec_of_replay opened) with
    ⟨entry, wasYielded, sony, _, stays⟩
  refine ⟨by rfl, entry, wasYielded, sony, stays _ _ ?_⟩
  exact .cons (Impl.performs_of_replayCall disconnected)
    (.cons (Impl.performs_of_replayCall reconnected) .nil)

end SimpleCamCtrl.DevEnum
