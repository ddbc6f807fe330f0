import SimpleCamCtrl.DevEnum.Enumerator
import SimpleCamCtrl.Impl.TransportUse

/-!
# The device snapshot

The snapshot that `Refresh` takes is the list of Sony devices among those that the enumerator
yields, and `OpenByIndex` opens the device that is listed under its index or none.
-/

namespace SimpleCamCtrl.DevEnum

open Interaction
open Impl (SonyPTP3Impl ensureConnected)

section Snapshot

variable {π : Type} {sizeT : SizeT}

/-- The token occurs in the upper-cased description or name. -/
def OccursIn (token : StdString) (entry : WiaRawEntry) : Prop :=
  token <:+: upperCase entry.sDesc ∨ token <:+: upperCase entry.sName

/-- One of the Sony tokens occurs in the entry. -/
def HasSonyToken (entry : WiaRawEntry) : Prop := ∃ token ∈ sonyTokens, OccursIn token entry

/-- The entry is a Sony device that can be identified. -/
def IsSonyDevice (entry : WiaRawEntry) : Prop := entry.sId ≠ [] ∧ HasSonyToken entry

instance (token : StdString) (entry : WiaRawEntry) : Decidable (OccursIn token entry) :=
  inferInstanceAs (Decidable (_ ∨ _))

instance (entry : WiaRawEntry) : Decidable (HasSonyToken entry) :=
  inferInstanceAs (Decidable (∃ token ∈ sonyTokens, OccursIn token entry))

instance (entry : WiaRawEntry) : Decidable (IsSonyDevice entry) :=
  inferInstanceAs (Decidable (_ ∧ _))

/-- The element of the snapshot describes the entry under the index. -/
structure Lists (entry : WiaRawEntry) (index : Nat) (device : TDevEnumDeviceInfo) : Prop where
  index : device.nDeviceIndex = Int32.ofNat index
  location : device.sDeviceLocation = entry.sId
  wiaId : device.vExtraFields.lookup (text "wiaId") = some entry.sId
  name : device.sDeviceName = if entry.sDesc = [] then entry.sName else entry.sDesc
  token : ∃ token ∈ sonyTokens, OccursIn token entry ∧
    device.vExtraFields.lookup (text "sonyMatchedToken") = some token

/-- The snapshot lists the Sony devices among the entries, in order. -/
def IsSnapshot (entries : List WiaRawEntry) (devices : List TDevEnumDeviceInfo) : Prop :=
  List.Forall₂ (fun entry device => Lists entry.1 entry.2 device)
    (entries.filter IsSonyDevice).zipIdx devices

section Statement

variable [StringConversion]

/-- The devices that the enumerator yielded, as their strings were read. -/
def yielded (calls : List (DevEnumCall π × DevEnumReply π sizeT)) : List WiaRawEntry :=
  calls.filterMap fun call =>
    match call.1 with
    | .readMultiple _ => some call.2.rawEntry
    | _ => none

/-- A call of `Refresh` that returns: the enumerator has ended. -/
def Refreshes (calls : List (DevEnumCall π × DevEnumReply π sizeT)) (ok : Bool)
    (after : SonyPTP3DevEnum) : Prop :=
  ∃ fuel, Exec (refresh fuel) calls (some (ok, after))

/-- If the call asks WIA for a device, builds a transport or sends a command, it is for this
identifier. -/
def Concerns (wiaId : StdString) : DevEnumCall π → Prop
  | .createDevice _ bstrId => wideFromUtf8 wiaId = some bstrId
  | .makeTransport sDeviceId => sDeviceId = wiaId
  | .escape request => request.transport = wiaId
  | _ => True

/-- What `OpenByIndex` may do with an index. -/
structure OpensListed (self : SonyPTP3DevEnum) (nDeviceIndex : Int32)
    (calls : List (DevEnumCall π × DevEnumReply π sizeT))
    (handle : Option (SonyPTP3Impl StdString)) : Prop where
  listed : ∀ (index : Nat) device, nDeviceIndex.toInt = index →
    self.vecDeviceInfo[index]? = some device →
    (∀ call ∈ calls, Concerns device.sDeviceLocation call.1) ∧
      ∀ spSony ∈ handle, ensureConnected spSony = some device.sDeviceLocation
  notListed : nDeviceIndex.toInt < 0 ∨ self.vecDeviceInfo.length ≤ nDeviceIndex.toInt →
    handle = none ∧ calls = []

end Statement

theorem containsSonyToken_eq_some {sField token : StdString}
    (found : containsSonyToken sField = some token) :
    token ∈ sonyTokens ∧ token <:+: upperCase sField := by
  rw [containsSonyToken] at found
  have occurs := List.find?_some found
  exact ⟨List.mem_of_find?_eq_some found, of_decide_eq_true occurs⟩

theorem containsSonyToken_eq_none_iff {sField : StdString} :
    containsSonyToken sField = none ↔ ∀ token ∈ sonyTokens, ¬token <:+: upperCase sField := by
  rw [containsSonyToken, List.find?_eq_none]
  simp

/-- The token of a Sony device is one that occurs in it. -/
theorem matchedToken_eq_some {stRaw : WiaRawEntry} {token : StdString}
    (found : (containsSonyToken stRaw.sDesc).or (containsSonyToken stRaw.sName) = some token) :
    token ∈ sonyTokens ∧ OccursIn token stRaw := by
  rcases Option.or_eq_some_iff.mp found with inDesc | ⟨_, inName⟩
  · have occurs := containsSonyToken_eq_some inDesc
    exact ⟨occurs.1, Or.inl occurs.2⟩
  · have occurs := containsSonyToken_eq_some inName
    exact ⟨occurs.1, Or.inr occurs.2⟩

theorem matchedToken_eq_none_iff {stRaw : WiaRawEntry} :
    (containsSonyToken stRaw.sDesc).or (containsSonyToken stRaw.sName) = none ↔
      ¬HasSonyToken stRaw := by
  rw [Option.or_eq_none_iff, containsSonyToken_eq_none_iff, containsSonyToken_eq_none_iff]
  simp only [HasSonyToken, OccursIn, not_exists, not_and, not_or]
  exact forall_and.symm.trans (forall_congr' fun token => forall_and.symm)

theorem lists_deviceInfo {stRaw : WiaRawEntry} {token : StdString} (index : Nat)
    (found : (containsSonyToken stRaw.sDesc).or (containsSonyToken stRaw.sName) = some token) :
    Lists stRaw index (deviceInfo (Int32.ofNat index) stRaw token) := by
  rcases matchedToken_eq_some found with ⟨isToken, occurs⟩
  exact ⟨rfl, rfl, rfl, rfl, token, isToken, occurs, rfl⟩

/-- The second pass lists the Sony devices from the given index on. -/
theorem retainSonyDevices_lists (vecRaw : List WiaRawEntry) (index : Nat) :
    List.Forall₂ (fun entry device => Lists entry.1 entry.2 device)
      ((vecRaw.filter HasSonyToken).zipIdx index)
      (retainSonyDevices (Int32.ofNat index) vecRaw) := by
  induction vecRaw generalizing index with
  | nil => exact .nil
  | cons stRaw vecRaw ih =>
      rw [retainSonyDevices]
      cases found : (containsSonyToken stRaw.sDesc).or (containsSonyToken stRaw.sName) with
      | none =>
          have other := matchedToken_eq_none_iff.mp found
          rw [List.filter_cons_of_neg (by rwa [decide_eq_true_iff])]
          exact ih index
      | some token =>
          have sony : HasSonyToken stRaw := ⟨token, matchedToken_eq_some found⟩
          rw [List.filter_cons_of_pos (by rwa [decide_eq_true_iff]), List.zipIdx_cons]
          have next : Int32.ofNat index + 1 = Int32.ofNat (index + 1) :=
            (Int32.ofNat_add index 1).symm
          rw [next]
          exact .cons (lists_deviceInfo index found) (ih (index + 1))

theorem isSnapshot_retainSonyDevices (entries : List WiaRawEntry) :
    IsSnapshot entries
      (retainSonyDevices 0 (entries.filter fun stRaw => decide (stRaw.sId ≠ []))) := by
  have lists := retainSonyDevices_lists (entries.filter fun stRaw => decide (stRaw.sId ≠ [])) 0
  rw [List.filter_filter] at lists
  have same (stRaw : WiaRawEntry) : (decide (HasSonyToken stRaw) && decide (stRaw.sId ≠ [])) =
      decide (IsSonyDevice stRaw) := by
    rw [Bool.and_comm, ← Bool.decide_and]
    rfl
  simp only [same] at lists
  exact lists

/-- The entry that is listed at a position. -/
theorem IsSnapshot.lists {entries : List WiaRawEntry} {devices : List TDevEnumDeviceInfo}
    (snapshot : IsSnapshot entries devices) {index : Nat} {device : TDevEnumDeviceInfo}
    (listed : devices[index]? = some device) : ∃ entry, Lists entry index device := by
  rcases List.getElem?_eq_some_iff.mp listed with ⟨within, rfl⟩
  have lists := List.Forall₂.get snapshot (by rwa [List.Forall₂.length_eq snapshot]) within
  simp only [List.get_eq_getElem, List.getElem_zipIdx, Nat.zero_add] at lists
  exact ⟨_, lists⟩

/-- The search for the key finds the location. -/
theorem Lists.wiaIdOf_eq {entry : WiaRawEntry} {index : Nat} {device : TDevEnumDeviceInfo}
    (lists : Lists entry index device) : wiaIdOf device = device.sDeviceLocation := by
  rw [wiaIdOf, lists.wiaId, lists.location, Option.getD_some]

variable [StringConversion]
variable {calls : List (DevEnumCall π × DevEnumReply π sizeT)}

/-! ## What the enumerator yields -/

/-- The call reads no device. -/
def Silent : DevEnumCall π → Prop
  | .readMultiple _ => False
  | _ => True

@[simp] theorem yielded_nil : yielded ([] : List (DevEnumCall π × DevEnumReply π sizeT)) = [] := rfl

@[simp] theorem yielded_append (left right : List (DevEnumCall π × DevEnumReply π sizeT)) :
    yielded (left ++ right) = yielded left ++ yielded right :=
  List.filterMap_append

theorem yielded_of_silent (silent : ∀ call ∈ calls, Silent call.1) : yielded calls = [] := by
  rw [yielded, List.filterMap_eq_nil_iff]
  intro call membership
  have quiet := silent call membership
  cases kind : call.1 with
  | readMultiple prop =>
      rw [kind] at quiet
      exact quiet.elim
  | _ => rfl

/-- The postcondition holds of the devices yielded and the result of every execution. -/
def Yields {α : Type} (program : Enumerating π sizeT α) (post : List WiaRawEntry → α → Prop) :
    Prop :=
  Ensures program fun calls result => post (yielded calls) result

section Yields

variable {α β : Type} {post : List WiaRawEntry → β → Prop}
variable {first : Enumerating π sizeT α} {next : α → Enumerating π sizeT β}

theorem yields_pure {value : β} (holds : post [] value) :
    Yields (pure value : Enumerating π sizeT β) post :=
  ensures_pure.mpr holds

theorem Yields.bind {middle : List WiaRawEntry → α → Prop} (onFirst : Yields first middle)
    (onNext : ∀ entries value, middle entries value →
      Yields (next value) fun later result => post (entries ++ later) result) :
    Yields (first >>= next) post := by
  refine Ensures.bind onFirst ?_
  intro left value holds right result execution
  rw [yielded_append]
  exact onNext _ value holds right result execution

/-- A part that reads no device does not matter. -/
theorem Yields.after (silent : Only Silent first) (onNext : ∀ value, Yields (next value) post) :
    Yields (first >>= next) post := by
  refine Ensures.bind silent ?_
  intro left value quiet right result execution
  rw [yielded_append, yielded_of_silent quiet]
  exact onNext value right result execution

theorem Yields.released {object : Option π} {rest : Enumerating π sizeT β}
    (onRest : Yields rest post) : Yields (safeRelease object >>= fun _ => rest) post :=
  Yields.after (only_safeRelease (fun _ => trivial) object) fun _ => onRest

/-- The end of every exit after the initialisation. -/
theorem yields_return (bCOMInitHere : Bool) {result : β} (holds : post [] result) :
    Yields (do
        uninitialiseCom bCOMInitHere
        return result : Enumerating π sizeT β) post :=
  Yields.after (only_uninitialiseCom trivial bCOMInitHere) fun _ => yields_pure holds

end Yields

theorem yields_readWiaDeviceStrings (pProp : π) :
    Yields (readWiaDeviceStrings pProp : Enumerating π sizeT WiaRawEntry)
      fun entries stRaw => entries = [stRaw] := by
  intro calls stRaw execution
  rcases exec_bind_pure.mp execution with ⟨reply, performed, rfl⟩
  rw [exec_perform.mp performed]
  rfl

/-- The first pass collects the devices that have an identifier, or is still not done after
as many devices as it was given fuel for. -/
def Collected (fuel : Nat) (vecRaw entries : List WiaRawEntry) :
    Option (List WiaRawEntry) → Prop
  | none => entries.length = fuel
  | some collected => collected = vecRaw ++ entries.filter fun stRaw => decide (stRaw.sId ≠ [])

theorem yields_collectDevices (pEnum : π) (fuel : Nat) (vecRaw : List WiaRawEntry) :
    Yields (collectDevices pEnum fuel vecRaw : Enumerating π sizeT _) (Collected fuel vecRaw) := by
  induction fuel generalizing vecRaw with
  | zero => exact yields_pure rfl
  | succ fuel ih =>
      refine Yields.after (only_perform trivial) fun reply => ?_
      cases reply.object with
      | none => exact yields_pure (by simp [Collected])
      | some pProp =>
          simp only
          split
          · exact Yields.released (yields_pure (by simp [Collected]))
          · refine Yields.bind (yields_readWiaDeviceStrings pProp) ?_
            intro entries stRaw only
            refine Yields.released ?_
            refine Ensures.mono (ih _) ?_
            intro calls result collected
            subst only
            cases result with
            | none => simpa [Collected] using collected
            | some collected' =>
                simp only [Collected] at collected ⊢
                by_cases anonymous : stRaw.sId = [] <;> simp [collected, anonymous]

/-- What a call of `Refresh` makes of the devices, or that it is still not done. -/
def Refreshed (fuel : Nat) (entries : List WiaRawEntry) : Option (Bool × SonyPTP3DevEnum) → Prop
  | none => entries.length = fuel
  | some (false, after) => after.vecDeviceInfo = []
  | some (true, after) => after.vecDeviceInfo =
      retainSonyDevices 0 (entries.filter fun stRaw => decide (stRaw.sId ≠ []))

theorem yields_refresh (fuel : Nat) :
    Yields (refresh fuel : Enumerating π sizeT _) (Refreshed fuel) := by
  refine Yields.after (only_initialiseCom trivial) fun initialised => ?_
  cases initialised with
  | none => exact yields_pure rfl
  | some bCOMInitHere =>
      refine Yields.after (only_perform trivial) fun created => ?_
      cases created.obtained with
      | none =>
          exact Yields.released (yields_return bCOMInitHere rfl)
      | some pWiaMgr =>
          refine Yields.after (only_perform trivial) fun enumerated => ?_
          cases enumerated.obtained with
          | none =>
              refine Yields.released (Yields.released ?_)
              exact yields_return bCOMInitHere rfl
          | some pEnum =>
              refine Yields.bind (yields_collectDevices pEnum fuel []) ?_
              intro entries result collected
              cases result with
              | none => exact yields_pure (by simpa [Collected, Refreshed] using collected)
              | some vecRaw =>
                  simp only [Collected, List.nil_append] at collected
                  refine Yields.released (Yields.released ?_)
                  exact yields_return bCOMInitHere (by simp [Refreshed, collected])

/-! ## What is opened -/

/-- The object holds no transport, or one built on the identifier. -/
def HeldFor (wiaId : StdString) (spSony : SonyPTP3Impl StdString) : Prop :=
  ∀ transport ∈ spSony.transport, transport = wiaId

/-- Only the device with the identifier is asked for and opened. -/
def OpensOnly (wiaId : StdString) (calls : List (DevEnumCall π × DevEnumReply π sizeT))
    (handle : Option (SonyPTP3Impl StdString)) : Prop :=
  (∀ call ∈ calls, Concerns wiaId call.1) ∧
    ∀ spSony ∈ handle, ensureConnected spSony = some wiaId

section Opens

variable {α : Type} {wiaId : StdString} {first : Enumerating π sizeT α}
variable {next : α → Enumerating π sizeT (Option (SonyPTP3Impl StdString))}

theorem opens_none :
    Ensures (pure none : Enumerating π sizeT (Option (SonyPTP3Impl StdString)))
      (OpensOnly wiaId) :=
  ensures_pure.mpr ⟨by simp, by simp⟩

theorem opens_bind {middle : α → Prop}
    (onFirst : Ensures first fun calls value =>
      (∀ call ∈ calls, Concerns wiaId call.1) ∧ middle value)
    (onNext : ∀ value, middle value → Ensures (next value) (OpensOnly wiaId)) :
    Ensures (first >>= next) (OpensOnly wiaId) := by
  refine Ensures.bind onFirst ?_
  intro left value holds right handle execution
  rcases onNext value holds.2 right handle execution with ⟨later, opened⟩
  exact ⟨List.forall_mem_append.mpr ⟨holds.1, later⟩, opened⟩

theorem opens_after (only : Only (Concerns wiaId) first)
    (onNext : ∀ value, Ensures (next value) (OpensOnly wiaId)) :
    Ensures (first >>= next) (OpensOnly wiaId) := by
  refine opens_bind (Ensures.mono only ?_) fun value (_ : True) => onNext value
  exact fun _ _ concerns => ⟨concerns, trivial⟩

end Opens

theorem only_utf8ToBstr (wiaId sUtf8 : StdString) :
    Only (Concerns wiaId) (utf8ToBstr sUtf8 : Enumerating π sizeT _) := by
  rw [utf8ToBstr]
  split
  · exact only_pure _
  · exact (only_perform trivial).bind fun _ => only_pure _

theorem ensures_utf8ToBstr (wiaId : StdString) :
    Ensures (utf8ToBstr wiaId : Enumerating π sizeT _) fun calls bstr =>
      (∀ call ∈ calls, Concerns wiaId call.1) ∧
        ∀ bstrId ∈ bstr, wideFromUtf8 wiaId = some bstrId := by
  intro calls bstr execution
  refine ⟨only_utf8ToBstr wiaId wiaId calls bstr execution, ?_⟩
  intro bstrId allocated
  rw [utf8ToBstr] at execution
  split at execution
  · rw [← (exec_pure.mp execution).2] at allocated
    cases allocated
  · rename_i wide converted
    rcases exec_bind_pure.mp execution with ⟨reply, _, rfl⟩
    split at allocated
    · cases allocated
      exact converted
    · cases allocated

variable [Commons]

/-- What a call of a public function leaves of the object. -/
structure SonyCalled (sizeT : SizeT) (wiaId : StdString) (spSony : SonyPTP3Impl StdString)
    (op : Impl.Op StdString) (outcome : Bool × SonyPTP3Impl StdString) : Prop where
  held : HeldFor wiaId outcome.2
  performed : outcome = (false, spSony) ∨
    ∃ exchanges : List (Impl.Exchange StdString sizeT),
      Impl.Outcome spSony op exchanges outcome.1 outcome.2

section CallSony

variable {wiaId : StdString} {spSony : SonyPTP3Impl StdString} {op : Impl.Op StdString}

/-- An object that holds no other transport calls no other device. -/
theorem only_callSony (held : HeldFor wiaId spSony) :
    Only (Concerns wiaId) (callSony spSony op : Enumerating π sizeT _) := by
  refine (only_perform trivial).bind fun lock => only_ite (fun _ => ?_) fun _ => only_pure _
  refine Only.embed (Impl.only_perform op) ?_
  intro request sent
  exact held request.transport sent

omit [StringConversion] in
theorem HeldFor.of_outcome {exchanges : List (Impl.Exchange StdString sizeT)} {ok : Bool}
    {after : SonyPTP3Impl StdString} (held : HeldFor wiaId spSony)
    (outcome : Impl.Outcome spSony op exchanges ok after)
    (target : ∀ transport, op = .setPtpTransport transport → transport = some wiaId) :
    HeldFor wiaId after := by
  rw [HeldFor]
  rcases outcome.transport_cases with same | sets
  · rwa [same]
  · rw [target _ sets]
    simp

theorem ensures_callSony (held : HeldFor wiaId spSony)
    (target : ∀ transport, op = .setPtpTransport transport → transport = some wiaId) :
    Ensures (callSony spSony op : Enumerating π sizeT _) fun calls outcome =>
      (∀ call ∈ calls, Concerns wiaId call.1) ∧ SonyCalled sizeT wiaId spSony op outcome := by
  intro calls outcome execution
  refine ⟨only_callSony held calls outcome execution, ?_⟩
  rcases exec_perform_bind.mp execution with ⟨lock, rest, rfl, locked⟩
  split at locked
  · rcases exec_of_embed locked with ⟨exchanges, performed, _⟩
    have outcome := Impl.perform_outcome performed
    exact ⟨held.of_outcome outcome target, Or.inr ⟨exchanges, outcome⟩⟩
  · rw [← (exec_pure.mp locked).2]
    exact ⟨held, Or.inl rfl⟩

omit [StringConversion] in
/-- A successful Connect leaves a session on the transport of the identifier. -/
theorem SonyCalled.connected {connected : SonyPTP3Impl StdString}
    (called : SonyCalled sizeT wiaId spSony .connect (true, connected)) :
    ensureConnected connected = some wiaId := by
  rcases called.performed with same | ⟨exchanges, performed⟩
  · cases same
  · rcases performed.session_of_connect rfl rfl with ⟨transport, opened⟩
    rw [opened, called.held transport (Impl.ensureConnected_eq_some_iff.mp opened).2]

end CallSony

omit [StringConversion] in
theorem heldFor_construct (wiaId : StdString) : HeldFor wiaId Impl.construct := by
  simp [HeldFor, Impl.construct]

/-- The exits after a failure: the object is destroyed. -/
theorem opens_giveUp {wiaId : StdString} {spSony : SonyPTP3Impl StdString} {bCOMInitHere : Bool}
    (held : HeldFor wiaId spSony) :
    Ensures (do
        uninitialiseCom bCOMInitHere
        let _ ← callSony spSony .destroy
        return none : Enumerating π sizeT (Option (SonyPTP3Impl StdString)))
      (OpensOnly wiaId) :=
  opens_after (only_uninitialiseCom trivial _) fun _ =>
    opens_after (only_callSony held) fun _ => opens_none

/-- UpdateStatus leaves the open object open. -/
theorem ensures_autoUpdateStatus {wiaId : StdString} {spSony : SonyPTP3Impl StdString}
    {stOpenParams : TSonyPTP3OpenParams} (opened : ensureConnected spSony = some wiaId) :
    Ensures (autoUpdateStatus spSony stOpenParams : Enumerating π sizeT _) fun calls updated =>
      (∀ call ∈ calls, Concerns wiaId call.1) ∧ ensureConnected updated = some wiaId := by
  have held : HeldFor wiaId spSony := by
    simp [HeldFor, (Impl.ensureConnected_eq_some_iff.mp opened).2]
  rw [autoUpdateStatus]
  split
  · intro calls updated execution
    rcases exec_bind_pure.mp execution with ⟨outcome, called, rfl⟩
    rcases ensures_callSony held (by simp) calls outcome called with ⟨concerns, left⟩
    refine ⟨concerns, ?_⟩
    rcases left.performed with same | ⟨exchanges, performed⟩
    · rw [same, opened]
    · rw [performed.session_of_updateStatus rfl, opened]
  · exact ensures_pure.mpr ⟨by simp, opened⟩

theorem opens_connectSony (bCOMInitHere : Bool) (wiaId : StdString)
    (stOpenParams : TSonyPTP3OpenParams) :
    Ensures (connectSony bCOMInitHere wiaId stOpenParams : Enumerating π sizeT _)
      (OpensOnly wiaId) := by
  refine opens_bind (ensures_callSony (heldFor_construct wiaId) (by simp)) ?_
  intro set called
  rcases set with ⟨ok, spSony⟩
  cases ok with
  | false => exact opens_giveUp called.held
  | true =>
      refine opens_bind (ensures_callSony called.held (by simp)) ?_
      intro connected called'
      rcases connected with ⟨ok, connected⟩
      cases ok with
      | false => exact opens_giveUp called'.held
      | true =>
          refine opens_bind (ensures_autoUpdateStatus called'.connected) ?_
          intro updated session
          refine opens_after (only_uninitialiseCom trivial _) fun _ => ?_
          exact ensures_pure.mpr ⟨by simp, by simpa using session⟩

theorem opens_openDevice (wiaId : StdString) (stOpenParams : TSonyPTP3OpenParams) :
    Ensures (openDevice wiaId stOpenParams : Enumerating π sizeT _) (OpensOnly wiaId) := by
  have released (object : Option π) : Only (Concerns wiaId)
      (safeRelease object : Enumerating π sizeT Unit) := only_safeRelease (fun _ => trivial) object
  have uninitialised (bCOMInitHere : Bool) : Only (Concerns wiaId)
      (uninitialiseCom bCOMInitHere : Enumerating π sizeT Unit) :=
    only_uninitialiseCom trivial bCOMInitHere
  refine opens_after (only_initialiseCom trivial) fun initialised => ?_
  cases initialised with
  | none => exact opens_none
  | some bCOMInitHere =>
      refine opens_after (only_perform trivial) fun created => ?_
      cases created.obtained with
      | none =>
          exact opens_after (released _) fun _ => opens_after (uninitialised _) fun _ => opens_none
      | some pWiaMgr =>
          refine opens_bind (ensures_utf8ToBstr wiaId) fun bstr converted => ?_
          cases bstr with
          | none =>
              exact opens_after (released _) fun _ =>
                opens_after (uninitialised _) fun _ => opens_none
          | some bstrId =>
              refine opens_after (only_perform (converted bstrId rfl)) fun device => ?_
              cases device.obtained with
              | none =>
                  exact opens_after (released _) fun _ => opens_after (released _) fun _ =>
                    opens_after (uninitialised _) fun _ => opens_none
              | some pWiaItem =>
                  refine opens_after (only_perform rfl) fun _ => ?_
                  exact opens_after (released _) fun _ => opens_after (released _) fun _ =>
                    opens_connectSony bCOMInitHere wiaId stOpenParams

/-- What the guard of OpenByIndex leaves to do. -/
theorem opens_openByIndex {self : SonyPTP3DevEnum} {device : TDevEnumDeviceInfo}
    {nDeviceIndex : Int32} {index : Nat} (position : nDeviceIndex.toInt = index)
    (listed : self.vecDeviceInfo[index]? = some device) (stOpenParams : TSonyPTP3OpenParams) :
    Ensures (openByIndex self nDeviceIndex stOpenParams : Enumerating π sizeT _)
      (OpensOnly (DevEnum.wiaIdOf device)) := by
  rw [openByIndex]
  split
  · exact opens_none
  · rename_i valid
    have same : nDeviceIndex.toNatClampNeg = index := by
      rw [Int32.toNatClampNeg, position, Int.toNat_natCast]
    rw [← same] at listed
    have found : self.vecDeviceInfo.get ⟨nDeviceIndex.toNatClampNeg,
        SonyPTP3DevEnum.index_lt valid⟩ = device := (List.getElem?_eq_some_iff.mp listed).2
    simp only [found]
    split
    · exact opens_none
    · exact opens_openDevice _ stOpenParams

/-- An index under which nothing is listed is refused. -/
theorem openByIndex_of_notListed {self : SonyPTP3DevEnum} {nDeviceIndex : Int32}
    (notListed : nDeviceIndex.toInt < 0 ∨ self.vecDeviceInfo.length ≤ nDeviceIndex.toInt)
    (stOpenParams : TSonyPTP3OpenParams) :
    (openByIndex self nDeviceIndex stOpenParams : Enumerating π sizeT _) = pure none := by
  rw [openByIndex, dif_pos]
  by_contra valid
  have within := SonyPTP3DevEnum.index_lt valid
  rw [not_or, Int32.not_lt, Int32.le_iff_toInt_le, Int32.toInt_zero] at valid
  rw [Int32.toNatClampNeg] at within
  omega

theorem opensListed_openByIndex {entries : List WiaRawEntry} {self : SonyPTP3DevEnum}
    (snapshot : IsSnapshot entries self.vecDeviceInfo) {nDeviceIndex : Int32}
    {stOpenParams : TSonyPTP3OpenParams} {handle : Option (SonyPTP3Impl StdString)}
    (execution : Exec (openByIndex self nDeviceIndex stOpenParams) calls handle) :
    OpensListed self nDeviceIndex calls handle where
  listed index device position listed := by
    have opens := opens_openByIndex position listed stOpenParams calls handle execution
    rcases snapshot.lists listed with ⟨entry, lists⟩
    rwa [lists.wiaIdOf_eq] at opens
  notListed refused := by
    rw [openByIndex_of_notListed refused] at execution
    rcases exec_pure.mp execution with ⟨rfl, rfl⟩
    exact ⟨rfl, rfl⟩

/-- After every call of Refresh, whatever COM and WIA answer, the list is the snapshot of the
devices yielded, or empty if the call failed; and every call of OpenByIndex opens the device
that is listed under its index or none. -/
theorem refreshes_snapshot {ok : Bool} {after : SonyPTP3DevEnum}
    (refreshes : Refreshes calls ok after) :
    (ok = true → IsSnapshot (yielded calls) after.vecDeviceInfo) ∧
      (ok = false → after.vecDeviceInfo = []) ∧
      ∀ (nDeviceIndex : Int32) (stOpenParams : TSonyPTP3OpenParams)
        (opening : List (DevEnumCall π × DevEnumReply π sizeT))
        (handle : Option (SonyPTP3Impl StdString)),
        Exec (openByIndex after nDeviceIndex stOpenParams) opening handle →
        OpensListed after nDeviceIndex opening handle := by
  rcases refreshes with ⟨fuel, execution⟩
  have refreshed := yields_refresh fuel calls _ execution
  cases ok with
  | false =>
      rw [Refreshed] at refreshed
      have snapshot : IsSnapshot [] after.vecDeviceInfo := by
        rw [refreshed]
        exact .nil
      refine ⟨by simp, fun _ => refreshed, ?_⟩
      exact fun _ _ _ _ opens => opensListed_openByIndex snapshot opens
  | true =>
      rw [Refreshed] at refreshed
      have snapshot : IsSnapshot (yielded calls) after.vecDeviceInfo := by
        rw [refreshed]
        exact isSnapshot_retainSonyDevices _
      refine ⟨fun _ => snapshot, by simp, ?_⟩
      exact fun _ _ _ _ opens => opensListed_openByIndex snapshot opens

end Snapshot

/-- `S_OK` and no more. -/
def plainReply : DevEnumReply Nat .bits64 := {}

/-- The reply with the properties of a device. -/
def propertiesReply (sId sDesc sName : String) : DevEnumReply Nat .bits64 where
  deviceId := .bstr (some ((text sId).map (·.toUInt16)))
  deviceDesc := .bstr (some ((text sDesc).map (·.toUInt16)))
  deviceName := .bstr (some ((text sName).map (·.toUInt16)))

/-- The replies to the calls made for one device. -/
def deviceReplies (sId sDesc sName : String) : List (DevEnumReply Nat .bits64) :=
  [{ object := some 3, fetched := 1 }, propertiesReply sId sDesc sName, plainReply]

/-- The second device has no identifier, the third is a scanner. -/
def sampleReplies : List (DevEnumReply Nat .bits64) :=
  [plainReply, { object := some 1 }, { object := some 2 }] ++
    deviceReplies "A" "my ilce-7m4" "" ++ deviceReplies "" "ZV-1" "" ++
    deviceReplies "B" "Scanner" "DS" ++ deviceReplies "C" "" "dsc-rx100" ++
    [{ hr := Wia.sFalse }, plainReply, plainReply, plainReply]

def sampleCalls : List (DevEnumCall Nat × DevEnumReply Nat .bits64) :=
  ((replay (refresh 5) sampleReplies).map (·.1)).getD []

def sampleSnapshot : SonyPTP3DevEnum where
  vecDeviceInfo :=
    [deviceInfo 0 ⟨text "A", text "my ilce-7m4", []⟩ (text "ILCE"),
      deviceInfo 1 ⟨text "C", [], text "dsc-rx100"⟩ (text "DSC")]

theorem refreshes_snapshot_sample :
    IsSnapshot (yielded sampleCalls) sampleSnapshot.vecDeviceInfo ∧
      ∀ (nDeviceIndex : Int32) (stOpenParams : TSonyPTP3OpenParams)
        (opening : List (DevEnumCall Nat × DevEnumReply Nat .bits64))
        (handle : Option (SonyPTP3Impl StdString)),
        Exec (openByIndex sampleSnapshot nDeviceIndex stOpenParams) opening handle →
        OpensListed sampleSnapshot nDeviceIndex opening handle := by
  have replayed : replay (refresh 5) sampleReplies =
      some (sampleCalls, some (true, sampleSnapshot)) := by rfl
  rcases refreshes_snapshot ⟨5, exec_of_replay replayed⟩ with ⟨snapshot, _, opens⟩
  exact ⟨snapshot rfl, opens⟩

end SimpleCamCtrl.DevEnum
