import SimpleCamCtrl.Wia.WorkerRefinement
import Mathlib.Algebra.Order.Group.Multiset

/-!
# What the worker holds

The blocks, strings, interfaces, promises and the apartment that `WorkerMain` acquires: it uses
and gives back only what it holds, in every interleaving and at every moment, and when it has
returned it has given back all but an apartment that `CoInitializeEx` reported with `S_FALSE`.
-/

namespace SimpleCamCtrl.Wia

open Interaction Custody

section WorkerCustody

variable {ι π : Type} {sizeT : SizeT}

inductive WorkerResource (ι π : Type) where
  /-- An initialisation of COM on the owner thread. -/
  | apartment
  /-- A reference to the interface behind a pointer. -/
  | interface (pointer : π)
  | block (pointer : π)
  | bstr (pointer : π)
  /-- The promise of a task that is to be fulfilled. -/
  | promise (task : ι)
  deriving DecidableEq

/-- The rules of COM, of the allocators and of promises.  An access through a pointer is a use of
what it points to, however far it reaches. -/
def workerDeed (exchange : WorkerCall ι π sizeT × WorkerReply ι π) : Deed (WorkerResource ι π) :=
  match exchange.1 with
  | .coInitializeEx =>
      { action := if exchange.2.hr = sOk ∨ exchange.2.hr = sFalse then .acquired .apartment
          else .neutral }
  | .coUninit => { uses := [.apartment], action := .released .apartment }
  | .nextTask => { action := yields .promise exchange.2.task }
  | .coTaskMemAlloc _ => { action := yields .block exchange.2.pointer }
  | .store block | .load block => { uses := [.block block] }
  | .coTaskMemFree block => { uses := [.block block], action := .released (.block block) }
  | .sysAllocStringLen _ => { action := yields .bstr exchange.2.pointer }
  | .multiByteToWideChar bstrId => { uses := [.bstr bstrId] }
  | .sysFreeString bstrId => { uses := [.bstr bstrId], action := .released (.bstr bstrId) }
  | .coCreateInstance =>
      { uses := [.apartment], action := yields .interface exchange.2.pointer }
  | .createDevice pWiaMgr bstrId =>
      { uses := [.apartment, .interface pWiaMgr, .bstr bstrId]
        action := yields .interface exchange.2.pointer }
  | .queryInterface pWiaItem =>
      { uses := [.apartment, .interface pWiaItem]
        action := yields .interface exchange.2.pointer }
  | .escape pItemExtra pIn pOut _ _ _ =>
      { uses := [.apartment, .interface pItemExtra, .block pIn, .block pOut] }
  | .release object =>
      { uses := [.apartment, .interface object], action := .released (.interface object) }
  | .setValue task _ => { uses := [.promise task], action := .released (.promise task) }

/-- A pointer that is obtained is the one that the call yielded. -/
theorem WorkerReply.pointer_of_obtained {reply : WorkerReply ι π} {pointer : π}
    (obtained : reply.obtained = some pointer) : reply.pointer = some pointer := by
  rw [WorkerReply.obtained] at obtained
  split at obtained
  · exact obtained
  · cases obtained

variable [DecidableEq ι] [DecidableEq π] {held : Multiset (WorkerResource ι π)}

/-- What the local variables of a task hold. -/
def DeviceLocals.holdings (locals : DeviceLocals π) : Multiset (WorkerResource ι π) :=
  holding .interface locals.pItemExtra + holding .interface locals.pWiaItem +
    holding .interface locals.pWiaMgr + holding .bstr locals.bstrId

theorem keeps_safeRelease (object : Option π) (com : .apartment ∈ held) :
    Keeps workerDeed (safeRelease object : Working ι π sizeT Unit)
      (holding .interface object + held) fun _ => held := by
  cases object with
  | none => exact keeps_pure (by rw [holding_none, zero_add])
  | some object =>
      refine keeps_perform_bind ?_ (fun _ => ledger_released rfl) fun _ => keeps_pure rfl
      simp [workerDeed, holding, com]

theorem keeps_freeString (bstrId : Option π) :
    Keeps workerDeed (freeString bstrId : Working ι π sizeT Unit)
      (holding .bstr bstrId + held) fun _ => held := by
  cases bstrId with
  | none => exact keeps_pure (by rw [holding_none, zero_add])
  | some bstrId =>
      refine keeps_perform_bind ?_ (fun _ => ledger_released rfl) fun _ => keeps_pure rfl
      simp [workerDeed, holding]

variable [Commons] {deviceId : String}

theorem keeps_callDevice {task : EscapeArguments sizeT} {pIn pOut : π} (com : .apartment ∈ held)
    (blocks : .block pIn ∈ held ∧ .block pOut ∈ held) :
    Keeps workerDeed (callDevice deviceId task pIn pOut : Working ι π sizeT _) held
      fun locals => locals.holdings + held := by
  refine keeps_perform_bind (by simp [workerDeed]) (fun _ => step_yields _ _) fun bstr => ?_
  cases bstr.pointer with
  | none => exact keeps_pure (by simp only [DeviceLocals.holdings, holding_none, zero_add])
  | some bstrId =>
      refine keeps_perform_bind (by simp [workerDeed, holding]) (fun _ => rfl) fun _ => ?_
      refine keeps_perform_bind (by simp [workerDeed, com]) (fun _ => step_yields _ _)
        fun wiaMgr => ?_
      cases manager : wiaMgr.obtained with
      | none =>
          exact keeps_pure (by simp only [DeviceLocals.holdings, holding_none, zero_add, add_assoc])
      | some pWiaMgr =>
          rw [WorkerReply.pointer_of_obtained manager]
          refine keeps_perform_bind (by simp [workerDeed, holding, com])
            (fun _ => step_yields _ _) fun wiaItem => ?_
          cases item : wiaItem.obtained with
          | none =>
              exact keeps_pure (by
                simp only [DeviceLocals.holdings, holding_none, zero_add, add_assoc])
          | some pWiaItem =>
              rw [WorkerReply.pointer_of_obtained item]
              refine keeps_perform_bind (by simp [workerDeed, holding, com])
                (fun _ => step_yields _ _) fun itemExtra => ?_
              cases extra : itemExtra.obtained with
              | none => exact keeps_pure (by simp only [DeviceLocals.holdings, add_assoc])
              | some pItemExtra =>
                  rw [WorkerReply.pointer_of_obtained extra]
                  refine keeps_perform_bind (by simp [workerDeed, holding, com, blocks])
                    (fun _ => rfl) fun reply => ?_
                  exact keeps_pure (by simp only [DeviceLocals.holdings, add_assoc])

theorem keeps_takeResult {pOut : π} (locals : DeviceLocals π) (block : .block pOut ∈ held) :
    Keeps workerDeed (takeResult pOut locals : Working ι π sizeT _) held fun _ => held := by
  rw [takeResult]
  split
  · refine keeps_perform_bind (by simp [workerDeed, block]) (fun _ => rfl) fun _ => ?_
    split
    · refine keeps_perform_bind (by simp [workerDeed, block]) (fun _ => rfl) fun _ => ?_
      exact keeps_pure rfl
    · exact keeps_pure rfl
  · exact keeps_pure rfl

omit [Commons] in
theorem keeps_cleanUp {pIn pOut : π} (locals : DeviceLocals π) (com : .apartment ∈ held) :
    Keeps workerDeed (cleanUp pIn pOut locals : Working ι π sizeT Unit)
      (locals.holdings + ({.block pOut} + ({.block pIn} + held))) fun _ => held := by
  have withoutIn : locals.holdings + ({.block pOut} + ({.block pIn} + held)) =
      {.block pIn} + ({.block pOut} + (locals.holdings + held)) := by
    ac_rfl
  rw [withoutIn]
  refine keeps_perform_bind (by simp [workerDeed]) (fun _ => ledger_released rfl) fun _ => ?_
  refine keeps_perform_bind (by simp [workerDeed]) (fun _ => ledger_released rfl) fun _ => ?_
  simp only [DeviceLocals.holdings, add_assoc]
  refine (keeps_safeRelease _ (by simp [com])).bind fun _ => ?_
  refine (keeps_safeRelease _ (by simp [com])).bind fun _ => ?_
  refine (keeps_safeRelease _ (by simp [com])).bind fun _ => ?_
  exact keeps_freeString _

theorem keeps_performTask {hrCom : Int32} {current : ι} {task : EscapeArguments sizeT}
    (com : hrCom = sOk ∨ hrCom = sFalse → .apartment ∈ held) :
    Keeps workerDeed (performTask deviceId hrCom current task : Working ι π sizeT Unit)
      ({.promise current} + held) fun _ => held := by
  rw [performTask]
  split
  · refine keeps_perform_bind (by simp [workerDeed]) (fun _ => ledger_released rfl) fun _ => ?_
    exact keeps_pure rfl
  · rename_i withCom
    have com := com (or_iff_not_imp_left.mpr (by simpa using withCom))
    refine keeps_perform_bind (by simp [workerDeed]) (fun _ => step_yields _ _)
      fun allocatedIn => ?_
    cases allocatedIn.pointer with
    | none =>
        rw [holding_none, zero_add]
        refine keeps_perform_bind (by simp [workerDeed]) (fun _ => ledger_released rfl) fun _ => ?_
        exact keeps_pure rfl
    | some pIn =>
        refine keeps_perform_bind (by simp [workerDeed, holding]) (fun _ => rfl) fun _ => ?_
        refine keeps_perform_bind (by simp [workerDeed, holding]) (fun _ => rfl) fun _ => ?_
        refine keeps_perform_bind (by simp [workerDeed]) (fun _ => step_yields _ _)
          fun allocatedOut => ?_
        cases allocatedOut.pointer with
        | none =>
            rw [holding_none, zero_add]
            refine keeps_perform_bind (by simp [workerDeed, holding])
              (fun _ => ledger_released rfl) fun _ => ?_
            refine keeps_perform_bind (by simp [workerDeed]) (fun _ => ledger_released rfl)
              fun _ => ?_
            exact keeps_pure rfl
        | some pOut =>
            refine keeps_perform_bind (by simp [workerDeed, holding]) (fun _ => rfl) fun _ => ?_
            refine (keeps_callDevice (by simp [holding, com]) (by simp [holding])).bind
              fun locals => ?_
            refine (keeps_takeResult locals (by simp [holding])).bind fun _ => ?_
            refine (keeps_cleanUp locals (by simp [com])).bind fun _ => ?_
            refine keeps_perform_bind (by simp [workerDeed]) (fun _ => ledger_released rfl)
              fun _ => ?_
            exact keeps_pure rfl

variable {arguments : ι → EscapeArguments sizeT} {fuel : ℕ}

theorem keeps_serveTasks {hrCom : Int32} (com : hrCom = sOk ∨ hrCom = sFalse → .apartment ∈ held) :
    Keeps workerDeed (serveTasks deviceId arguments hrCom fuel : Working ι π sizeT Bool) held
      fun _ => held := by
  induction fuel with
  | zero => exact keeps_pure rfl
  | succ fuel ih =>
      refine keeps_perform_bind (by simp [workerDeed]) (fun _ => step_yields _ _)
        fun next => ?_
      cases next.task with
      | none =>
          rw [holding_none, zero_add]
          exact keeps_pure rfl
      | some current => exact (keeps_performTask com).bind fun _ => ih

/-- The initialisation of COM that a result of `CoInitializeEx` stands for. -/
def apartmentOf (hrCom : Int32) : Multiset (WorkerResource ι π) :=
  if hrCom = sOk ∨ hrCom = sFalse then {.apartment} else 0

omit [Commons] in
theorem step_coInitializeEx (initialised : WorkerReply ι π) :
    Custody.step held
        (workerDeed ((.coInitializeEx, initialised) : WorkerCall ι π sizeT × WorkerReply ι π)) =
      some (apartmentOf initialised.hr + held) := by
  rw [step_of_held (by simp [workerDeed]), apartmentOf]
  change Ledger.step held (if initialised.hr = sOk ∨ initialised.hr = sFalse then
    .acquired .apartment else .neutral) = _
  split
  · exact ledger_acquired _
  · rw [zero_add]
    rfl

/-- What is left of the apartment when WorkerMain ends, or has been cut short. -/
def apartmentLeft (hrCom : Int32) (ended : Bool) : Multiset (WorkerResource ι π) :=
  if ended && hrCom == sOk then 0 else apartmentOf hrCom

omit [Commons] in
theorem count_apartmentLeft (hrCom : Int32) (resource : WorkerResource ι π) :
    (apartmentLeft hrCom true).count resource =
      if resource = .apartment ∧ hrCom = sFalse then 1 else 0 := by
  have differ : sOk ≠ sFalse := by decide
  by_cases first : hrCom = sOk
  · simp [apartmentLeft, first, differ]
  · by_cases again : hrCom = sFalse
    · simp [apartmentLeft, apartmentOf, again, differ.symm, Multiset.count_singleton]
    · simp [apartmentLeft, apartmentOf, first, again]

/-- WorkerMain is accepted from its first call to its last, and gives back everything but an
apartment that was not reported with `S_OK`. -/
theorem ensures_workerMain :
    Ensures (workerMain deviceId arguments fuel : Working ι π sizeT Bool) fun calls ended =>
      ∃ initialised rest, calls = (.coInitializeEx, initialised) :: rest ∧
        Monitor.run step workerDeed 0 calls = some (apartmentLeft initialised.hr ended) := by
  rw [workerMain, ensures_perform_bind]
  intro initialised
  have kept : Keeps workerDeed (do
      let ended ← serveTasks deviceId arguments initialised.hr fuel
      if ended && initialised.hr == sOk then
        let _ ← perform .coUninit
        return ended
      else
        return ended : Working ι π sizeT Bool) (apartmentOf initialised.hr)
      (apartmentLeft initialised.hr) := by
    refine (keeps_serveTasks fun com => ?_).bind fun ended => ?_
    · rw [apartmentOf, if_pos com]
      exact Multiset.mem_singleton_self _
    · split
      · rename_i both
        have first : initialised.hr = sOk := by simpa using (Bool.and_eq_true_iff.mp both).2
        have here : (apartmentOf initialised.hr : Multiset (WorkerResource ι π)) =
            {.apartment} + 0 := by rw [apartmentOf, if_pos (Or.inl first), add_zero]
        rw [here]
        refine keeps_perform_bind (by simp [workerDeed]) (fun _ => ledger_released rfl) fun _ => ?_
        exact keeps_pure (by rw [apartmentLeft, if_pos both])
      · rename_i neither
        exact keeps_pure (by rw [apartmentLeft, if_neg neither])
  intro calls ended execution
  refine ⟨initialised, calls, rfl, ?_⟩
  rw [Monitor.run_cons, step_coInitializeEx, add_zero, Option.bind_some]
  exact kept calls ended execution

/-- In every run of the transport as coded, whatever the calls return, the worker uses and gives
back only what it has acquired and not given back, at every moment; and when it has returned,
everything has been given back as often as it was acquired, except for an apartment that
`CoInitializeEx` reported with `S_FALSE`. -/
theorem codedRun_custody {labels : List (CodedLabel ι π sizeT)} {self : CodedTransport ι π sizeT}
    (run : CodedRun deviceId arguments fuel labels self) :
    (∀ before call after, workerCalls labels = before ++ call :: after →
        ∀ resource ∈ (workerDeed call).uses,
          Ledger.releases (fun call => (workerDeed call).action) resource before <
            Ledger.acquisitions (fun call => (workerDeed call).action) resource before) ∧
      (self.worker = some (.done true) →
        ∃ initialised rest, workerCalls labels = (.coInitializeEx, initialised) :: rest ∧
          ∀ resource,
            Ledger.acquisitions (fun call => (workerDeed call).action) resource
                (workerCalls labels) =
              Ledger.releases (fun call => (workerDeed call).action) resource
                  (workerCalls labels) +
                if resource = .apartment ∧ initialised.hr = sFalse then 1 else 0) := by
  rcases CodedRun.simulates run with ⟨owner, simulates⟩
  have executes := simulates.executes
  constructor
  · intro before call after split resource used
    cases running : self.worker with
    | none =>
        rw [running] at executes
        rw [show workerCalls labels = [] from executes] at split
        simp at split
    | some program =>
        rw [running] at executes
        rcases exists_exec program with ⟨more, ended, execution⟩
        rcases ensures_workerMain _ _ (executes more ended execution) with
          ⟨initialised, rest, _, accepted⟩
        have further : workerCalls labels ++ more =
            before ++ (call :: (after ++ more)) := by
          rw [split, List.append_assoc, List.cons_append]
        exact used_held accepted further used
  · intro returned
    rw [returned] at executes
    rcases ensures_workerMain _ _ (executes [] true .done) with
      ⟨initialised, rest, first, accepted⟩
    rw [List.append_nil] at first accepted
    refine ⟨initialised, rest, first, fun resource => ?_⟩
    have balance := Ledger.count_run (ledger_of_run accepted) resource
    rw [Multiset.count_zero, Nat.zero_add] at balance
    rw [balance, count_apartmentLeft, Nat.add_comm]

end WorkerCustody

theorem servedRun_custody : ∃ (calls : List (WorkerCall Bool ℕ .bits64 × WorkerReply Bool ℕ)),
    calls.length = 23 ∧ ∃ initialised rest, calls = (.coInitializeEx, initialised) :: rest ∧
      ∀ resource, Ledger.acquisitions (fun call => (workerDeed call).action) resource calls =
        Ledger.releases (fun call => (workerDeed call).action) resource calls +
          if resource = .apartment ∧ initialised.hr = sFalse then 1 else 0 := by
  rcases exists_servedRun with ⟨labels, self, run, returned, many⟩
  exact ⟨workerCalls labels, many, (codedRun_custody run).2 returned⟩

end SimpleCamCtrl.Wia
