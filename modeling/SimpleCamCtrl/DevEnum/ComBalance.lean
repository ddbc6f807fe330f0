import SimpleCamCtrl.DevEnum.Snapshot
import SimpleCamCtrl.Library.Ledger

/-!
# COM as it was found

What calls of the enumerator leave behind in COM: initialisations of the apartment of the
calling thread and references to interfaces.  The code keeps a ledger of its own, which it
always balances; it differs from that of COM where `CoInitializeEx` returns `S_FALSE`.
-/

namespace SimpleCamCtrl.DevEnum

open Interaction
open Impl (SonyPTP3Impl)
open Wia (sOk sFalse)

section ComBalance

variable {π : Type} {sizeT : SizeT}

/-- What is counted: initialisations of COM on the calling thread, and references to the
interface behind a pointer. -/
inductive ComResource (π : Type) where
  | apartment
  | interface (pointer : π)
  deriving DecidableEq

/-- The reference that a call stores, if it stores one. -/
def objectAction : Option π → Ledger.Action (ComResource π)
  | none => .neutral
  | some pointer => .acquired (.interface pointer)

/-- The rules of COM: `CoInitializeEx` counts when it returns `S_OK` or `S_FALSE`, and only
`CoUninitialize` takes back. -/
def comAction (exchange : DevEnumCall π × DevEnumReply π sizeT) : Ledger.Action (ComResource π) :=
  match exchange.1 with
  | .coInitializeEx =>
      if exchange.2.hr = sOk ∨ exchange.2.hr = sFalse then .acquired .apartment else .neutral
  | .coUninit => .released .apartment
  | .coCreateInstance | .enumDeviceInfo _ | .next _ | .createDevice _ _ =>
      objectAction exchange.2.object
  | .release object => .released (.interface object)
  | _ => .neutral

/-- `CoInitializeEx` finds COM initialised on this thread in the same way. -/
def InitialisedBefore (exchange : DevEnumCall π × DevEnumReply π sizeT) : Prop :=
  exchange.1 = .coInitializeEx ∧ exchange.2.hr = sFalse

instance [DecidableEq π] (exchange : DevEnumCall π × DevEnumReply π sizeT) :
    Decidable (InitialisedBefore exchange) :=
  inferInstanceAs (Decidable (_ ∧ _))

inductive EnumOp where
  | refresh
  | openByIndex (nDeviceIndex : Int32) (stOpenParams : TSonyPTP3OpenParams)
  deriving DecidableEq

/-- A call on the enumerator, with the calls it makes in turn. -/
structure EnumCall (π : Type) (sizeT : SizeT) where
  op : EnumOp
  exchanges : List (DevEnumCall π × DevEnumReply π sizeT)

/-- All exchanges of a sequence of calls. -/
def enumTrace (calls : List (EnumCall π sizeT)) : List (DevEnumCall π × DevEnumReply π sizeT) :=
  calls.flatMap EnumCall.exchanges

section Statement

variable [DecidableEq π]

/-- Whatever is held before, only what is held is released, and as much is held after. -/
def LeavesComAsFound (exchanges : List (DevEnumCall π × DevEnumReply π sizeT)) : Prop :=
  Ledger.Leaves comAction exchanges 0

variable [StringConversion] [Commons]

/-- One call that returns. -/
inductive PerformsEnum (self : SonyPTP3DevEnum) : EnumCall π sizeT → SonyPTP3DevEnum → Prop where
  | refresh {exchanges : List (DevEnumCall π × DevEnumReply π sizeT)} {ok : Bool}
      {after : SonyPTP3DevEnum} :
      Refreshes exchanges ok after → PerformsEnum self ⟨.refresh, exchanges⟩ after
  | openByIndex {exchanges : List (DevEnumCall π × DevEnumReply π sizeT)} {nDeviceIndex : Int32}
      {stOpenParams : TSonyPTP3OpenParams} {handle : Option (SonyPTP3Impl StdString)} :
      Exec (DevEnum.openByIndex self nDeviceIndex stOpenParams) exchanges handle →
      PerformsEnum self ⟨.openByIndex nDeviceIndex stOpenParams, exchanges⟩ self

/-- Any number of refreshes and opens in any order. -/
abbrev EnumRun : List (EnumCall π sizeT) → SonyPTP3DevEnum → Prop :=
  History.Run (· = {}) fun _ => PerformsEnum

end Statement

/-! ## The ledger of the code -/

/-- What the code takes the calls to mean: `S_FALSE` does not count. -/
def codeAction (exchange : DevEnumCall π × DevEnumReply π sizeT) : Ledger.Action (ComResource π) :=
  match exchange.1 with
  | .coInitializeEx => if exchange.2.hr = sOk then .acquired .apartment else .neutral
  | _ => comAction exchange

theorem codeAction_of_ne {request : DevEnumCall π} {reply : DevEnumReply π sizeT}
    (other : request ≠ .coInitializeEx) :
    codeAction (request, reply) = comAction (request, reply) := by
  cases request with
  | coInitializeEx => exact (other rfl).elim
  | _ => rfl

theorem overlooks_initialisedBefore :
    Ledger.Overlooks (InitialisedBefore : DevEnumCall π × DevEnumReply π sizeT → Prop) .apartment
      comAction codeAction where
  acquired exchange before := by
    rcases exchange with ⟨request, reply⟩
    rcases before with ⟨rfl, again⟩
    exact if_pos (Or.inr again)
  neutral exchange before := by
    rcases exchange with ⟨request, reply⟩
    rcases before with ⟨rfl, again⟩
    have notFirst : reply.hr ≠ sOk := by
      rw [show reply.hr = sFalse from again]
      decide
    exact if_neg notFirst
  same exchange notBefore := by
    rcases exchange with ⟨request, reply⟩
    by_cases initialises : request = .coInitializeEx
    · subst initialises
      have notAgain : reply.hr ≠ sFalse := fun again => notBefore ⟨rfl, again⟩
      simp only [comAction, codeAction, notAgain, or_false]
    · exact (codeAction_of_ne initialises).symm

variable [DecidableEq π] {held : Multiset (ComResource π)}

/-- Every initialisation that the code overlooks is left behind. -/
theorem leaves_overlooked {exchanges : List (DevEnumCall π × DevEnumReply π sizeT)}
    (leaves : Ledger.Leaves codeAction exchanges 0) :
    Ledger.Leaves comAction exchanges
      (Multiset.replicate (exchanges.countP fun exchange => decide (InitialisedBefore exchange))
        .apartment) := by
  have actual := overlooks_initialisedBefore.leaves leaves
  rwa [Multiset.add_zero] at actual

theorem leavesComAsFound_iff {exchanges : List (DevEnumCall π × DevEnumReply π sizeT)}
    (leaves : Ledger.Leaves codeAction exchanges 0) :
    LeavesComAsFound exchanges ↔ ∀ exchange ∈ exchanges, ¬InitialisedBefore exchange := by
  have actual := leaves_overlooked leaves
  constructor
  · intro asFound
    have none := congrArg Multiset.card (actual.unique asFound)
    rw [Multiset.card_replicate, Multiset.card_zero, List.countP_eq_zero] at none
    simpa using none
  · intro never
    have none : exchanges.countP (fun exchange => decide (InitialisedBefore exchange)) = 0 := by
      simpa [List.countP_eq_zero] using never
    rw [none, Multiset.replicate_zero] at actual
    exact actual

/-- The holdings with the reference that a call stored. -/
def holding (object : Option π) (held : Multiset (ComResource π)) : Multiset (ComResource π) :=
  match object with
  | none => held
  | some pointer => .interface pointer ::ₘ held

/-- The holdings after an initialisation that is to be undone here, or not. -/
def initialised (bCOMInitHere : Bool) (held : Multiset (ComResource π)) :
    Multiset (ComResource π) :=
  if bCOMInitHere then .apartment ::ₘ held else held

theorem step_objectAction (object : Option π) :
    Ledger.step held (objectAction object) = some (holding object held) := by
  cases object <;> rfl

/-- A call that stores a reference. -/
theorem settles_obtain {β : Type} {wanted : β → Prop} {request : DevEnumCall π}
    {next : DevEnumReply π sizeT → Enumerating π sizeT β} {after : Multiset (ComResource π)}
    (stores : ∀ reply : DevEnumReply π sizeT,
      codeAction (request, reply) = objectAction reply.object)
    (onNext : ∀ reply, SettlesOn wanted Ledger.step codeAction (next reply)
      (holding reply.object held) after) :
    SettlesOn wanted Ledger.step codeAction (perform request >>= next) held after := by
  refine settles_perform_bind fun reply => ⟨holding reply.object held, ?_, onNext reply⟩
  rw [stores, step_objectAction]

theorem settles_safeRelease (object : Option π) :
    Settles Ledger.step codeAction (safeRelease object : Enumerating π sizeT Unit)
      (holding object held) held := by
  cases object with
  | none => exact settles_pure _
  | some pointer =>
      exact settles_perform_bind fun _ => ⟨held, Ledger.step_released_cons _ _, settles_pure _⟩

theorem settles_uninitialiseCom (bCOMInitHere : Bool) :
    Settles Ledger.step codeAction (uninitialiseCom bCOMInitHere : Enumerating π sizeT Unit)
      (initialised bCOMInitHere held) held := by
  cases bCOMInitHere with
  | false => exact settles_pure _
  | true =>
      exact settles_perform_bind fun _ => ⟨held, Ledger.step_released_cons _ _, settles_pure _⟩

/-- The end of every exit after the initialisation. -/
theorem settles_return {β : Type} {wanted : β → Prop} (bCOMInitHere : Bool) (result : β) :
    SettlesOn wanted Ledger.step codeAction (do
        uninitialiseCom bCOMInitHere
        return result : Enumerating π sizeT β)
      (initialised bCOMInitHere held) held :=
  (settles_uninitialiseCom bCOMInitHere).bind fun _ => settles_pure result

/-- What begins with an initialisation of COM. -/
theorem settles_initialiseCom {β : Type} {wanted : β → Prop}
    {next : Option Bool → Enumerating π sizeT β}
    (onFailure : SettlesOn wanted Ledger.step codeAction (next none) held held)
    (onSuccess : ∀ bCOMInitHere, SettlesOn wanted Ledger.step codeAction
      (next (some bCOMInitHere)) (initialised bCOMInitHere held) held) :
    SettlesOn wanted Ledger.step codeAction (initialiseCom >>= next) held held := by
  change SettlesOn wanted Ledger.step codeAction
    (perform .coInitializeEx >>= fun hrCom => next _) held held
  refine settles_perform_bind fun hrCom => ?_
  by_cases first : hrCom.hr = sOk
  · refine ⟨initialised true held, ?_, ?_⟩
    · simp [codeAction, first, initialised]
    · rw [if_pos first]
      exact onSuccess true
  · refine ⟨held, ?_, ?_⟩
    · simp [codeAction, first]
    · rw [if_neg first]
      split
      · exact onSuccess false
      · exact onFailure

/-- The lock and the commands of the device do not concern COM. -/
theorem settles_callSony [Commons] (spSony : SonyPTP3Impl StdString) (op : Impl.Op StdString) :
    Settles Ledger.step codeAction (callSony spSony op : Enumerating π sizeT _) held held := by
  refine settles_perform_bind fun lock => ⟨held, rfl, ?_⟩
  split
  · exact settles_embed _ fun _ _ => rfl
  · exact settles_pure _

/-- The exits after a failure of the camera. -/
theorem settles_giveUp [Commons] {β : Type} (bCOMInitHere : Bool)
    (spSony : SonyPTP3Impl StdString) (result : β) :
    Settles Ledger.step codeAction (do
        uninitialiseCom bCOMInitHere
        let _ ← callSony spSony .destroy
        return result : Enumerating π sizeT β)
      (initialised bCOMInitHere held) held := by
  refine (settles_uninitialiseCom bCOMInitHere).bind fun _ => ?_
  exact (settles_callSony spSony .destroy).bind fun _ => settles_pure result

theorem settles_connectSony [Commons] (bCOMInitHere : Bool) (sWiaId : StdString)
    (stOpenParams : TSonyPTP3OpenParams) :
    Settles Ledger.step codeAction
      (connectSony bCOMInitHere sWiaId stOpenParams : Enumerating π sizeT _)
      (initialised bCOMInitHere held) held := by
  refine (settles_callSony _ _).bind fun set => ?_
  rcases set with ⟨ok, spSony⟩
  cases ok with
  | false => exact settles_giveUp bCOMInitHere spSony none
  | true =>
      refine (settles_callSony _ _).bind fun connected => ?_
      rcases connected with ⟨ok, spSony⟩
      cases ok with
      | false => exact settles_giveUp bCOMInitHere spSony none
      | true =>
          refine SettlesOn.bind ?_ fun updated => settles_return bCOMInitHere _
          rw [autoUpdateStatus]
          split
          · exact (settles_callSony _ _).bind fun _ => settles_pure _
          · exact settles_pure _

variable [StringConversion]

theorem settles_readWiaDeviceStrings (pProp : π) :
    Settles Ledger.step codeAction (readWiaDeviceStrings pProp : Enumerating π sizeT WiaRawEntry)
      held held :=
  settles_perform_bind fun _ => ⟨held, rfl, settles_pure _⟩

/-- The loop over the devices releases every property storage that it obtains. -/
theorem settles_collectDevices (pEnum : π) (fuel : Nat) (vecRaw : List WiaRawEntry) :
    Settles Ledger.step codeAction (collectDevices pEnum fuel vecRaw : Enumerating π sizeT _)
      held held := by
  induction fuel generalizing vecRaw with
  | zero => exact settles_pure _
  | succ fuel ih =>
      refine settles_obtain (fun _ => rfl) fun reply => ?_
      cases reply.object with
      | none => exact settles_pure _
      | some pProp =>
          simp only
          split
          · exact (settles_safeRelease (some pProp)).bind fun _ => settles_pure _
          · refine (settles_readWiaDeviceStrings pProp).bind fun stRaw => ?_
            exact (settles_safeRelease (some pProp)).bind fun _ => ih _

/-- Every exit of Refresh undoes what was done before it. -/
theorem settles_refresh (fuel : Nat) :
    SettlesOn (· ≠ none) Ledger.step codeAction (refresh fuel : Enumerating π sizeT _)
      held held := by
  refine settles_initialiseCom (settles_pure _) fun bCOMInitHere => ?_
  refine settles_obtain (fun _ => rfl) fun created => ?_
  cases manager : created.obtained with
  | none =>
      refine (settles_safeRelease created.object).bind fun _ => ?_
      exact settles_return bCOMInitHere _
  | some pWiaMgr =>
      rw [DevEnumReply.object_of_obtained manager]
      refine settles_obtain (fun _ => rfl) fun enumerated => ?_
      cases enumerator : enumerated.obtained with
      | none =>
          refine (settles_safeRelease enumerated.object).bind fun _ => ?_
          refine (settles_safeRelease (some pWiaMgr)).bind fun _ => ?_
          exact settles_return bCOMInitHere _
      | some pEnum =>
          rw [DevEnumReply.object_of_obtained enumerator]
          refine (settles_collectDevices pEnum fuel []).bind fun collected => ?_
          cases collected with
          | none => exact settles_pure_of_not (by simp)
          | some vecRaw =>
              refine (settles_safeRelease (some pEnum)).bind fun _ => ?_
              refine (settles_safeRelease (some pWiaMgr)).bind fun _ => ?_
              exact settles_return bCOMInitHere _

theorem settles_utf8ToBstr (sUtf8 : StdString) :
    Settles Ledger.step codeAction (utf8ToBstr sUtf8 : Enumerating π sizeT _) held held := by
  rw [utf8ToBstr]
  split
  · exact settles_pure _
  · exact settles_perform_bind fun _ => ⟨held, rfl, settles_pure _⟩

variable [Commons]

/-- Every exit of OpenByIndex undoes what was done before it. -/
theorem settles_openDevice (sWiaId : StdString) (stOpenParams : TSonyPTP3OpenParams) :
    Settles Ledger.step codeAction (openDevice sWiaId stOpenParams : Enumerating π sizeT _)
      held held := by
  refine settles_initialiseCom (settles_pure _) fun bCOMInitHere => ?_
  refine settles_obtain (fun _ => rfl) fun created => ?_
  cases manager : created.obtained with
  | none =>
      refine (settles_safeRelease created.object).bind fun _ => ?_
      exact settles_return bCOMInitHere _
  | some pWiaMgr =>
      rw [DevEnumReply.object_of_obtained manager]
      refine (settles_utf8ToBstr sWiaId).bind fun bstr => ?_
      cases bstr with
      | none =>
          refine (settles_safeRelease (some pWiaMgr)).bind fun _ => ?_
          exact settles_return bCOMInitHere _
      | some bstrId =>
          refine settles_obtain (fun _ => rfl) fun device => ?_
          cases item : device.obtained with
          | none =>
              refine (settles_safeRelease device.object).bind fun _ => ?_
              refine (settles_safeRelease (some pWiaMgr)).bind fun _ => ?_
              exact settles_return bCOMInitHere _
          | some pWiaItem =>
              rw [DevEnumReply.object_of_obtained item]
              refine settles_perform_bind fun _ => ⟨_, rfl, ?_⟩
              refine (settles_safeRelease (some pWiaItem)).bind fun _ => ?_
              refine (settles_safeRelease (some pWiaMgr)).bind fun _ => ?_
              exact settles_connectSony bCOMInitHere sWiaId stOpenParams

theorem settles_openByIndex (self : SonyPTP3DevEnum) (nDeviceIndex : Int32)
    (stOpenParams : TSonyPTP3OpenParams) :
    Settles Ledger.step codeAction
      (openByIndex self nDeviceIndex stOpenParams : Enumerating π sizeT _) held held := by
  rw [openByIndex]
  split
  · exact settles_pure _
  · dsimp only
    split
    · exact settles_pure _
    · exact settles_openDevice _ stOpenParams

section Runs

variable {calls : List (EnumCall π sizeT)} {call : EnumCall π sizeT}
variable {self after : SonyPTP3DevEnum}

omit [DecidableEq π] [StringConversion] [Commons] in
theorem enumTrace_append (left right : List (EnumCall π sizeT)) :
    enumTrace (left ++ right) = enumTrace left ++ enumTrace right :=
  List.flatMap_append

/-- A call that returns has balanced the ledger of the code. -/
theorem PerformsEnum.leaves (performs : PerformsEnum self call after) :
    Ledger.Leaves codeAction call.exchanges 0 := by
  intro held
  rw [Multiset.zero_add]
  cases performs with
  | refresh refreshes =>
      rcases refreshes with ⟨fuel, execution⟩
      exact settles_refresh fuel _ _ execution (by simp)
  | openByIndex execution =>
      exact settles_openByIndex self _ _ _ _ execution trivial

/-- And so has every run, call by call and as a whole. -/
theorem EnumRun.leaves (run : EnumRun calls self) :
    (∀ call ∈ calls, Ledger.Leaves codeAction call.exchanges 0) ∧
      Ledger.Leaves codeAction (enumTrace calls) 0 := by
  induction run with
  | start _ => exact ⟨by simp, Ledger.leaves_nil⟩
  | snoc run performs ih =>
      rename_i calls _ _ call
      rcases ih with ⟨each, whole⟩
      constructor
      · rw [List.forall_mem_append, List.forall_mem_singleton]
        exact ⟨each, performs.leaves⟩
      · rw [enumTrace_append]
        have last : enumTrace [call] = call.exchanges := List.flatMap_singleton ..
        simpa [last] using whole.append performs.leaves

/-- Every run releases each interface as often as it obtains it. -/
theorem EnumRun.interfaces_released (run : EnumRun calls self) (pointer : π) :
    Ledger.releases comAction (.interface pointer) (enumTrace calls) =
      Ledger.acquisitions comAction (.interface pointer) (enumTrace calls) := by
  have balance := Ledger.acquisitions_eq (leaves_overlooked run.leaves.2) (.interface pointer)
  simpa [Multiset.count_replicate] using balance.symm

/-- In every run of refreshes and opens, whatever COM, WIA and the devices answer, each call
leaves COM as it found it, and so does the run, if and only if COM was never found
initialised before. -/
theorem leavesComAsFound_iff_neverInitialisedBefore (run : EnumRun calls self) :
    ((∀ call ∈ calls, LeavesComAsFound call.exchanges) ∧ LeavesComAsFound (enumTrace calls)) ↔
      ∀ call ∈ calls, ∀ exchange ∈ call.exchanges, ¬InitialisedBefore exchange := by
  rcases run.leaves with ⟨each, whole⟩
  constructor
  · intro asFound call membership
    exact (leavesComAsFound_iff (each call membership)).mp (asFound.1 call membership)
  · intro never
    refine ⟨?_, (leavesComAsFound_iff whole).mpr ?_⟩
    · intro call membership
      exact (leavesComAsFound_iff (each call membership)).mpr (never call membership)
    · intro exchange membership
      rcases List.mem_flatMap.mp membership with ⟨call, called, within⟩
      exact never call called exchange within

end Runs

end ComBalance

/-- The replies while a camera is opened that does not get the API lock to connect. -/
def openingReplies : List (DevEnumReply Nat .bits64) :=
  [plainReply, { object := some 1 }, plainReply, { object := some 3 }, plainReply, plainReply,
    plainReply, plainReply, { locked := false }, plainReply, plainReply]

def openingCalls : List (DevEnumCall Nat × DevEnumReply Nat .bits64) :=
  ((replay (openByIndex sampleSnapshot 1 {}) openingReplies).map (·.1)).getD []

/-- Both calls on a thread that has not initialised COM. -/
def unsharedRun : List (EnumCall Nat .bits64) :=
  [⟨.refresh, sampleCalls⟩, ⟨.openByIndex 1 {}, openingCalls⟩]

theorem unsharedRun_leavesComAsFound :
    (∀ call ∈ unsharedRun, LeavesComAsFound call.exchanges) ∧
      LeavesComAsFound (enumTrace unsharedRun) := by
  have refreshed : replay (refresh 5) sampleReplies =
      some (sampleCalls, some (true, sampleSnapshot)) := by rfl
  have opened : replay (openByIndex sampleSnapshot 1 {}) openingReplies =
      some (openingCalls, none) := by rfl
  have begun : EnumRun ([] : List (EnumCall Nat .bits64)) {} := .start rfl
  have run : EnumRun unsharedRun sampleSnapshot :=
    (begun.snoc (.refresh ⟨5, exec_of_replay refreshed⟩)).snoc
      (.openByIndex (exec_of_replay opened))
  exact (leavesComAsFound_iff_neverInitialisedBefore run).mpr (by decide)

/-- The replies to a refresh without devices on a thread that has initialised COM. -/
def sharedReplies : List (DevEnumReply Nat .bits64) :=
  [{ hr := sFalse }, { object := some 1 }, { object := some 2 }, { hr := sFalse }, plainReply,
    plainReply]

def sharedCalls : List (DevEnumCall Nat × DevEnumReply Nat .bits64) :=
  ((replay (refresh 1) sharedReplies).map (·.1)).getD []

def sharedRun : List (EnumCall Nat .bits64) := [⟨.refresh, sharedCalls⟩]

/-- The thread has initialised COM once, and then twice. -/
theorem sharedRun_not_leavesComAsFound :
    EnumRun sharedRun {} ∧
      Monitor.run Ledger.step comAction {.apartment} sharedCalls =
        some {.apartment, .apartment} ∧
      ¬LeavesComAsFound sharedCalls := by
  have refreshed : replay (refresh 1) sharedReplies = some (sharedCalls, some (true, {})) := by rfl
  have counted : Monitor.run Ledger.step comAction {.apartment} sharedCalls =
      some {.apartment, .apartment} := by decide
  have begun : EnumRun ([] : List (EnumCall Nat .bits64)) {} := .start rfl
  refine ⟨begun.snoc (.refresh ⟨1, exec_of_replay refreshed⟩), counted, ?_⟩
  intro asFound
  have same := asFound {.apartment}
  rw [counted] at same
  revert same
  decide

end SimpleCamCtrl.DevEnum
