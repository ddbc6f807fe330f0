import SimpleCamCtrl.Demo.PollingClient
import SimpleCamCtrl.Library.Custody
import Mathlib.Algebra.Order.Group.Multiset

/-!
# What the polling demo holds

The apartment, interfaces, strings and variants that `main` acquires: it uses and gives back only
what it holds, and by whichever exit it returns, it has given everything back.
-/

namespace SimpleCamCtrl.Demo

open Interaction Custody
open DevEnum (StdString StringConversion)
open Impl (SonyPTP3Impl)

section PollingCustody

variable {π : Type} {sizeT : SizeT}

inductive DemoResource (π : Type) where
  /-- An initialisation of COM on the thread of `main`. -/
  | apartment
  /-- A reference to the interface behind a pointer. -/
  | interface (pointer : π)
  | bstr (pointer : π)
  /-- An initialised `PROPVARIANT` of the array, with the string that it may own. -/
  | variant (index : Nat)
  deriving DecidableEq

/-- What a string lies in. -/
def BstrPlace.resource : BstrPlace π → DemoResource π
  | variant index => .variant index
  | allocated bstr => .bstr bstr

/-- The rules of COM: every `CoInitializeEx` that succeeds is to be undone. -/
def demoDeed (exchange : DemoCall π × DemoReply π sizeT) : Deed (DemoResource π) :=
  match exchange.1 with
  | .coInitializeEx =>
      { action := if exchange.2.hr < 0 then .neutral else .acquired .apartment }
  | .coUninit => { uses := [.apartment], action := .released .apartment }
  | .coCreateInstance =>
      { uses := [.apartment], action := yields .interface exchange.2.pointer }
  | .enumDeviceInfo object | .next object =>
      { uses := [.apartment, .interface object]
        action := yields .interface exchange.2.pointer }
  | .propVariantInit index => { action := .acquired (.variant index) }
  | .readMultiple pProp count =>
      { uses := .apartment :: .interface pProp :: (List.range count).map .variant }
  | .readVariant index => { uses := [.variant index] }
  | .propVariantClear index =>
      { uses := [.variant index], action := .released (.variant index) }
  | .sysAllocString index =>
      { uses := [.variant index], action := yields .bstr exchange.2.pointer }
  | .wideCharToMultiByte place => { uses := [place.resource] }
  | .sysFreeString bstr => { uses := [.bstr bstr], action := .released (.bstr bstr) }
  | .release object =>
      { uses := [.apartment, .interface object], action := .released (.interface object) }
  | .makeTransport _ | .loadRunning | .steadyClockNow | .escape _ => {}

/-- A pointer that is obtained is the one that the call stored. -/
theorem DemoReply.pointer_of_obtained {reply : DemoReply π sizeT} {pointer : π}
    (obtained : reply.obtained = some pointer) : reply.pointer = some pointer := by
  rw [DemoReply.obtained] at obtained
  split at obtained
  · cases obtained
  · exact obtained

variable [DecidableEq π] {held : Multiset (DemoResource π)}

theorem keeps_safeRelease (object : Option π) (com : .apartment ∈ held) :
    Keeps demoDeed (safeRelease object : Demoing π sizeT Unit)
      (holding .interface object + held) fun _ => held := by
  cases object with
  | none => exact keeps_pure (by rw [holding_none, zero_add])
  | some object =>
      refine keeps_perform_bind ?_ (fun _ => ledger_released rfl) fun _ => keeps_pure rfl
      simp [demoDeed, holding, com]

theorem keeps_releaseAll (pProp pEnum pWiaDevMgr : Option π) (com : .apartment ∈ held) :
    Keeps demoDeed (releaseAll pProp pEnum pWiaDevMgr : Demoing π sizeT Unit)
      (holding .interface pProp + (holding .interface pEnum + (holding .interface pWiaDevMgr + held)))
      fun _ => held := by
  refine (keeps_safeRelease _ (by simp [com])).bind fun _ => ?_
  refine (keeps_safeRelease _ (by simp [com])).bind fun _ => ?_
  exact keeps_safeRelease _ com

/-- The first variants of the array. -/
def variants (count : ℕ) : Multiset (DemoResource π) := (Multiset.range count).map .variant

omit [DecidableEq π] in
theorem variants_succ (count : ℕ) :
    (variants (count + 1) : Multiset (DemoResource π)) = {.variant count} + variants count := by
  rw [variants, Multiset.range_succ, Multiset.map_cons, Multiset.singleton_add, variants]

theorem keeps_initVariants (count : ℕ) :
    Keeps demoDeed (initVariants count : Demoing π sizeT Unit) held
      fun _ => variants count + held := by
  induction count with
  | zero => exact keeps_pure (by simp [variants])
  | succ count ih =>
      refine ih.bind fun _ => ?_
      refine keeps_perform_bind (by simp [demoDeed]) (fun _ => ledger_acquired _) fun _ => ?_
      exact keeps_pure (by rw [variants_succ, add_assoc])

theorem keeps_clearVariants (count : ℕ) :
    Keeps demoDeed (clearVariants count : Demoing π sizeT Unit) (variants count + held)
      fun _ => held := by
  induction count generalizing held with
  | zero => exact keeps_pure (by simp [variants])
  | succ count ih =>
      have last : variants (count + 1) + held = variants count + ({.variant count} + held) := by
        rw [variants_succ]
        ac_rfl
      rw [last]
      refine ih.bind fun _ => ?_
      refine keeps_perform_bind (by simp [demoDeed]) (fun _ => ledger_released rfl) fun _ => ?_
      exact keeps_pure rfl

theorem keeps_copyDeviceId (propVal : DevEnum.PropVariant) (readable : .variant 0 ∈ held) :
    Keeps demoDeed (copyDeviceId propVal : Demoing π sizeT _) held
      fun copied => holding .bstr (copied.map Prod.snd) + held := by
  refine keeps_perform_bind (by simp [demoDeed, readable]) (fun _ => rfl) fun _ => ?_
  cases propVal with
  | other => exact keeps_pure (by simp)
  | bstr bstrVal =>
      cases bstrVal with
      | none => exact keeps_pure (by simp)
      | some bstrVal =>
          refine keeps_perform_bind (by simp [demoDeed, readable]) (fun _ => step_yields _ _)
            fun allocated => ?_
          cases allocated.pointer with
          | none => exact keeps_pure rfl
          | some bstrDevId => exact keeps_pure rfl

variable [StringConversion]

theorem keeps_bstrToUtf8 {place : BstrPlace π} (bstr : DevEnum.WideString)
    (readable : place.resource ∈ held) :
    Keeps demoDeed (bstrToUtf8 place bstr : Demoing π sizeT _) held fun _ => held := by
  refine keeps_perform_bind (by simp [demoDeed, readable]) (fun _ => rfl) fun _ => ?_
  cases StringConversion.wideCharToMultiByte (bstr.takeWhile (· ≠ 0)) with
  | none => exact keeps_pure rfl
  | some strUtf8 =>
      refine keeps_perform_bind (by simp [demoDeed, readable]) (fun _ => rfl) fun _ => ?_
      exact keeps_pure rfl

theorem keeps_printDeviceName (propVal : DevEnum.PropVariant) (readable : .variant 1 ∈ held) :
    Keeps demoDeed (printDeviceName propVal : Demoing π sizeT _) held fun _ => held := by
  refine keeps_perform_bind (by simp [demoDeed, readable]) (fun _ => rfl) fun _ => ?_
  cases propVal with
  | other => exact keeps_pure rfl
  | bstr bstrVal =>
      cases bstrVal with
      | none => exact keeps_pure rfl
      | some bstrVal => exact (keeps_bstrToUtf8 _ readable).bind fun _ => keeps_pure rfl

theorem keeps_getFirstWiaDeviceId (com : .apartment ∈ held) :
    Keeps demoDeed (getFirstWiaDeviceId : Demoing π sizeT _) held fun _ => held := by
  refine keeps_perform_bind (by simp [demoDeed, com]) (fun _ => step_yields _ _) fun created => ?_
  cases manager : created.obtained with
  | none => exact (keeps_safeRelease _ com).bind fun _ => keeps_pure rfl
  | some pWiaDevMgr =>
      rw [DemoReply.pointer_of_obtained manager]
      refine keeps_perform_bind (by simp [demoDeed, holding, com]) (fun _ => step_yields _ _)
        fun enumerated => ?_
      cases enumerator : enumerated.obtained with
      | none =>
          have released : Keeps demoDeed
              (releaseAll none enumerated.pointer (some pWiaDevMgr) : Demoing π sizeT Unit) _
              fun _ => held := keeps_releaseAll _ _ _ com
          rw [holding_none, zero_add] at released
          exact released.bind fun _ => keeps_pure rfl
      | some pEnum =>
          rw [DemoReply.pointer_of_obtained enumerator]
          refine keeps_perform_bind (by simp [demoDeed, holding, com]) (fun _ => step_yields _ _)
            fun found => ?_
          cases first : (if found.fetched = 0 then none else found.obtained) with
          | none =>
              exact (keeps_releaseAll _ (some pEnum) (some pWiaDevMgr) com).bind fun _ =>
                keeps_pure rfl
          | some pProp =>
              have obtained : found.obtained = some pProp := by
                split at first
                · cases first
                · exact first
              rw [DemoReply.pointer_of_obtained obtained]
              refine (keeps_initVariants 2).bind fun _ => ?_
              refine keeps_perform_bind ?_ (fun _ => rfl) fun read => ?_
              · simp only [demoDeed, holding, variants, List.forall_mem_cons, List.mem_map,
                  List.mem_range, Multiset.mem_add, Multiset.mem_map, Multiset.mem_range]
                exact fun _ => ⟨by simp [com], by simp, fun _ used => Or.inl used⟩
              have released (result : Option StdString) :
                  Keeps demoDeed (do
                    releaseAll (some pProp) (some pEnum) (some pWiaDevMgr)
                    return result : Demoing π sizeT (Option StdString))
                    (holding .interface (some pProp) + (holding .interface (some pEnum) +
                      (holding .interface (some pWiaDevMgr) + held))) fun _ => held :=
                (keeps_releaseAll _ _ _ com).bind fun _ => keeps_pure rfl
              split
              · exact (keeps_clearVariants 2).bind fun _ => released none
              · refine (keeps_copyDeviceId read.deviceId (by simp [variants])).bind fun copied => ?_
                refine (keeps_printDeviceName read.deviceName (by simp [variants])).bind
                  fun _ => ?_
                rw [add_left_comm]
                refine (keeps_clearVariants 2).bind fun _ => ?_
                cases copied with
                | none =>
                    rw [Option.map_none, holding_none, zero_add]
                    exact released none
                | some copy =>
                    refine (keeps_bstrToUtf8 _ (by simp [holding, BstrPlace.resource])).bind
                      fun _ => ?_
                    refine keeps_perform_bind (by simp [demoDeed, holding])
                      (fun _ => ledger_released rfl) fun _ => ?_
                    exact released _

/-- The programs whose calls neither acquire nor release nor use anything. -/
abbrev Idle {α : Type} (program : Demoing π sizeT α) : Prop :=
  Only (fun request => ∀ reply : DemoReply π sizeT, demoDeed (request, reply) = {}) program

omit [DecidableEq π] [StringConversion] in
theorem idle_measureBoolCall {α : Type} {fn : Demoing π sizeT (Bool × α)} (idle : Idle fn) :
    Idle (measureBoolCall fn) :=
  (only_perform fun _ => rfl).bind fun _ => idle.bind fun _ =>
    (only_perform fun _ => rfl).bind fun _ => only_pure _

variable [Commons]

omit [DecidableEq π] [StringConversion] in
theorem idle_callCamCtrl (camCtrl : SonyPTP3Impl StdString) (op : Impl.Op StdString) :
    Idle (callCamCtrl camCtrl op : Demoing π sizeT _) := by
  have anything : Only (fun _ => True) (Impl.perform camCtrl op : Impl.Escaping _ sizeT _) :=
    fun _ _ _ _ _ => trivial
  exact anything.embed fun _ _ _ => rfl

omit [DecidableEq π] [StringConversion] in
theorem idle_pollOnce (locals : PollLocals) : Idle (pollOnce locals : Demoing π sizeT _) := by
  refine (idle_measureBoolCall (idle_callCamCtrl _ _)).bind fun _ => ?_
  refine (idle_measureBoolCall (only_pure _)).bind fun _ => ?_
  refine (only_perform fun _ => rfl).bind fun _ => (only_perform fun _ => rfl).bind fun _ => ?_
  exact (idle_measureBoolCall (idle_callCamCtrl _ _)).bind fun _ => only_pure _

omit [DecidableEq π] [StringConversion] in
theorem idle_pollingLoop (nMaxIterations : UInt64) (fuel : ℕ) (locals : PollLocals) :
    Idle (pollingLoop nMaxIterations fuel locals : Demoing π sizeT _) := by
  induction fuel generalizing locals with
  | zero => exact only_pure _
  | succ fuel ih =>
      refine (only_perform fun _ => rfl).bind fun _ => ?_
      refine only_ite (fun _ => only_pure _) fun _ => ?_
      refine only_ite (fun _ => only_pure _) fun _ => ?_
      exact (idle_pollOnce locals).bind fun _ => ih _

omit [StringConversion] [Commons] in
theorem keeps_of_idle {α : Type} {program : Demoing π sizeT α} (idle : Idle program) :
    Keeps demoDeed program held fun _ => held :=
  keeps_of_only idle fun _ reply nothing => nothing reply

/-- What is left of the apartment when `main` returns, or has been cut short. -/
def apartmentLeft (exitCode : Option Int32) : Multiset (DemoResource π) :=
  if exitCode.isSome then 0 else {.apartment}

omit [StringConversion] in
theorem keeps_leaveMain (camCtrl : SonyPTP3Impl StdString) (exitCode : Int32) :
    Keeps demoDeed (leaveMain camCtrl exitCode : Demoing π sizeT _) {.apartment} apartmentLeft := by
  refine keeps_perform_bind (by simp [demoDeed])
    (fun _ => ledger_released (add_zero _).symm) fun _ => ?_
  exact (keeps_of_idle (idle_callCamCtrl _ _)).bind fun _ => keeps_pure rfl

omit [StringConversion] in
theorem keeps_pollDevice (nMaxIterations : UInt64) (fuel : ℕ) (sWiaDeviceId : StdString) :
    Keeps demoDeed (pollDevice nMaxIterations fuel sWiaDeviceId : Demoing π sizeT _) {.apartment}
      apartmentLeft := by
  refine keeps_perform_bind (by simp [demoDeed]) (fun _ => rfl) fun _ => ?_
  refine (keeps_of_idle (idle_callCamCtrl _ _)).bind fun ready => ?_
  simp only
  split
  · exact keeps_leaveMain _ _
  refine (keeps_of_idle (idle_callCamCtrl _ _)).bind fun connected => ?_
  split
  · exact keeps_leaveMain _ _
  refine (keeps_of_idle (idle_pollingLoop _ _ _)).bind fun looped => ?_
  split
  · exact keeps_pure rfl
  refine (keeps_of_idle (idle_callCamCtrl _ _)).bind fun disconnected => ?_
  exact keeps_leaveMain _ _

theorem keeps_main (nMaxIterations : UInt64) (fuel : ℕ) :
    Keeps demoDeed (main nMaxIterations fuel : Demoing π sizeT _) 0 apartmentLeft := by
  have initialises (initialised : DemoReply π sizeT) :
      Ledger.step 0 (demoDeed (.coInitializeEx, initialised)).action =
        some (if initialised.hr < 0 then 0 else {.apartment}) := by
    simp only [demoDeed]
    split
    · rfl
    · exact ledger_acquired _
  refine keeps_perform_bind (by simp [demoDeed]) initialises fun initialised => ?_
  split
  · exact keeps_pure rfl
  · refine (keeps_getFirstWiaDeviceId (Multiset.mem_singleton_self _)).bind fun found => ?_
    cases found with
    | none =>
        refine keeps_perform_bind (by simp [demoDeed])
          (fun _ => ledger_released (add_zero _).symm) fun _ => ?_
        exact keeps_pure rfl
    | some sWiaDeviceId => exact keeps_pollDevice _ _ sWiaDeviceId

/-- Whatever the calls return, `main` uses and gives back only what it has acquired and not given
back, at every moment; and by whichever exit it returns, it has given back everything as often as
it has acquired it. -/
theorem main_custody {nMaxIterations : UInt64} {fuel : ℕ} {exitCode : Option Int32}
    {calls : List (DemoCall π × DemoReply π sizeT)}
    (execution : Exec (main nMaxIterations fuel) calls exitCode) :
    (∀ before call after, calls = before ++ call :: after →
        ∀ resource ∈ (demoDeed call).uses,
          Ledger.releases (fun call => (demoDeed call).action) resource before <
            Ledger.acquisitions (fun call => (demoDeed call).action) resource before) ∧
      (exitCode.isSome = true → ∀ resource,
        Ledger.acquisitions (fun call => (demoDeed call).action) resource calls =
          Ledger.releases (fun call => (demoDeed call).action) resource calls) := by
  have accepted := keeps_main nMaxIterations fuel calls exitCode execution
  constructor
  · intro before call after split resource used
    exact used_held accepted split used
  · intro returned resource
    have balance := Ledger.count_run (ledger_of_run accepted) resource
    rw [apartmentLeft, if_pos returned, Multiset.count_zero, Nat.zero_add, Nat.zero_add] at balance
    exact balance

end PollingCustody

/-- The string of the device identifier is the fourth thing that a whole run acquires. -/
theorem main_custody_polled :
    Ledger.acquisitions (fun call => (demoDeed call).action) (.bstr 4) polledCalls = 1 ∧
      Ledger.releases (fun call => (demoDeed call).action) (.bstr 4) polledCalls = 1 := by
  have balance := (main_custody polledCalls_exec).2 rfl (.bstr 4)
  have acquired : Ledger.acquisitions (fun call => (demoDeed call).action) (.bstr 4)
      polledCalls = 1 := by rfl
  exact ⟨acquired, balance.symm.trans acquired⟩

end SimpleCamCtrl.Demo
