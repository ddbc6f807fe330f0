import SimpleCamCtrl.Library.Custody
import SimpleCamCtrl.Wia.WorkerTask

/-!
# The whole of WorkerMain

`WiaTransport::WorkerMain` from `CoInitializeEx` to its return, with everything that it
acquires, accesses and gives back: memory blocks, strings, interfaces, the apartment and the
promises of the tasks.  `executeTask` is the part of it that decides the results.
-/

namespace SimpleCamCtrl.Wia

open Interaction

/-- The calls of the worker, and its own accesses to memory that it has allocated.  Tasks are
known by a type `ι`, pointers by a type `π`. -/
inductive WorkerCall (ι π : Type) (sizeT : SizeT) where
  | coInitializeEx
  /-- `CoUninitialize`. -/
  | coUninit
  /-- Waits on `m_cv` and takes the front task, or finds the transport stopped. -/
  | nextTask
  | coTaskMemAlloc (size : UInt32)
  /-- A write through a pointer to a block. -/
  | store (block : π)
  /-- A read through a pointer to a block. -/
  | load (block : π)
  | coTaskMemFree (block : π)
  | sysAllocStringLen (length : Nat)
  /-- `MultiByteToWideChar` of the device's identifier into the string. -/
  | multiByteToWideChar (bstrId : π)
  | sysFreeString (bstrId : π)
  | coCreateInstance
  | createDevice (pWiaMgr bstrId : π)
  | queryInterface (pWiaItem : π)
  | escape (pItemExtra pIn pOut : π) (inData : List UInt8) (inDataSize outDataSize : UInt32)
  | release (object : π)
  /-- `promise.set_value` of a task. -/
  | setValue (task : ι) (out : EscapeResult sizeT)

/-- What a call returns: its status, the pointer that it yields, the task taken, and for the
device's `Escape` the actual size and what lies in memory from `pOut` on. -/
structure WorkerReply (ι π : Type) where
  hr : Int32 := sOk
  pointer : Option π := none
  task : Option ι := none
  actualDataSize : UInt32 := 0
  memory : List UInt8 := []

variable {ι π : Type} {sizeT : SizeT}

/-- The pointer, unless `FAILED(hr) || pointer == nullptr`. -/
def WorkerReply.obtained (reply : WorkerReply ι π) : Option π :=
  if 0 ≤ reply.hr then reply.pointer else none

/-- Programs of the owner thread. -/
abbrev Working (ι π : Type) (sizeT : SizeT) := Interaction (WorkerCall ι π sizeT) (WorkerReply ι π)

/-- The local variables of a task once the device has been called or has not. -/
structure DeviceLocals (π : Type) where
  bstrId : Option π := none
  pWiaMgr : Option π := none
  pWiaItem : Option π := none
  pItemExtra : Option π := none
  hrLocal : Int32 := eFail
  dwActualLocal : UInt32 := 0
  /-- What lies in memory from `pOut` on. -/
  memory : List UInt8 := []

/-- `SafeRelease`. -/
def safeRelease : Option π → Working ι π sizeT Unit
  | none => pure ()
  | some object => do
      let _ ← perform (.release object)
      return ()

/-- `SysFreeString` for a string that has been allocated. -/
def freeString : Option π → Working ι π sizeT Unit
  | none => pure ()
  | some bstrId => do
      let _ ← perform (.sysFreeString bstrId)
      return ()

variable [Commons]

/-- The nested calls that reach the device. -/
def callDevice (deviceId : String) (task : EscapeArguments sizeT) (pIn pOut : π) :
    Working ι π sizeT (DeviceLocals π) := do
  let allocated ← perform (.sysAllocStringLen deviceId.utf8ByteSize)
  match allocated.pointer with
  | none => return {}
  | some bstrId =>
      let _ ← perform (.multiByteToWideChar bstrId)
      let wiaMgr ← perform .coCreateInstance
      match wiaMgr.obtained with
      | none => return { bstrId := some bstrId, pWiaMgr := wiaMgr.pointer }
      | some pWiaMgr =>
          let wiaItem ← perform (.createDevice pWiaMgr bstrId)
          match wiaItem.obtained with
          | none =>
              return { bstrId := some bstrId, pWiaMgr := some pWiaMgr, pWiaItem := wiaItem.pointer }
          | some pWiaItem =>
              let itemExtra ← perform (.queryInterface pWiaItem)
              match itemExtra.obtained with
              | none =>
                  return {
                    bstrId := some bstrId
                    pWiaMgr := some pWiaMgr
                    pWiaItem := some pWiaItem
                    pItemExtra := itemExtra.pointer }
              | some pItemExtra =>
                  let reply ← perform (.escape pItemExtra pIn pOut (vendorDataIn task)
                    (dwInSize task) dwOutSize)
                  return {
                    bstrId := some bstrId
                    pWiaMgr := some pWiaMgr
                    pWiaItem := some pWiaItem
                    pItemExtra := some pItemExtra
                    hrLocal := reply.hr
                    dwActualLocal := reply.actualDataSize
                    memory := reply.memory }

/-- The result of a task, read from where `pOut` points if the device's `Escape` has
succeeded. -/
def takeResult (pOut : π) (locals : DeviceLocals π) : Working ι π sizeT (EscapeResult sizeT) := do
  let out := readResult locals.hrLocal locals.dwActualLocal locals.memory
  if Commons.hrSucceeded locals.hrLocal then
    -- `ResponseCode`
    let _ ← perform (.load pOut)
    if locals.dwActualLocal > sizeofRequiredVendorDataOut then
      -- `VendorReadData`
      let _ ← perform (.load pOut)
      return out
    else
      return out
  else
    return out

/-- What is given back at the end of a task. -/
def cleanUp (pIn pOut : π) (locals : DeviceLocals π) : Working ι π sizeT Unit := do
  let _ ← perform (.coTaskMemFree pIn)
  let _ ← perform (.coTaskMemFree pOut)
  safeRelease locals.pItemExtra
  safeRelease locals.pWiaItem
  safeRelease locals.pWiaMgr
  freeString locals.bstrId

/-- The loop body for the task of a call. -/
def performTask (deviceId : String) (hrCom : Int32) (current : ι) (task : EscapeArguments sizeT) :
    Working ι π sizeT Unit := do
  if !(hrCom == sOk || hrCom == sFalse) then
    let _ ← perform (.setValue current (statusResult hrCom))
    return ()
  let allocated ← perform (.coTaskMemAlloc (dwInSize task))
  match allocated.pointer with
  | none =>
      let _ ← perform (.setValue current (statusResult eOutOfMemory))
      return ()
  | some pIn =>
      -- `ZeroMemory`, then the fields and `VendorWriteData`
      let _ ← perform (.store pIn)
      let _ ← perform (.store pIn)
      let allocated ← perform (.coTaskMemAlloc dwOutSize)
      match allocated.pointer with
      | none =>
          let _ ← perform (.coTaskMemFree pIn)
          let _ ← perform (.setValue current (statusResult eOutOfMemory))
          return ()
      | some pOut =>
          -- `ZeroMemory`
          let _ ← perform (.store pOut)
          let locals ← callDevice deviceId task pIn pOut
          let out ← takeResult pOut locals
          cleanUp pIn pOut locals
          let _ ← perform (.setValue current out)
          return ()

/-- The loop; false when it still has not ended after so many turns. -/
def serveTasks (deviceId : String) (arguments : ι → EscapeArguments sizeT) (hrCom : Int32) :
    (fuel : Nat) → Working ι π sizeT Bool
  | 0 => pure false
  | fuel + 1 => do
      let next ← perform .nextTask
      match next.task with
      | none => return true
      | some current =>
          performTask deviceId hrCom current (arguments current)
          serveTasks deviceId arguments hrCom fuel

/-- `WorkerMain`; false when it still has not returned after so many turns of its loop. -/
def workerMain (deviceId : String) (arguments : ι → EscapeArguments sizeT) (fuel : Nat) :
    Working ι π sizeT Bool := do
  let initialised ← perform .coInitializeEx
  let ended ← serveTasks deviceId arguments initialised.hr fuel
  if ended && initialised.hr == sOk then
    let _ ← perform .coUninit
    return ended
  else
    return ended

/-! ## What the system sees -/

section SystemCalls

variable {deviceId : String} {task : EscapeArguments sizeT} {pIn pOut : π}
variable {calls : List (WorkerCall ι π sizeT × WorkerReply ι π)}

/-- What a task sees of a reply. -/
def WorkerReply.toSystem (reply : WorkerReply ι π) : SystemReply where
  hr := reply.hr
  notNull := reply.pointer.isSome
  actualDataSize := reply.actualDataSize
  memory := reply.memory

/-- The call as one of those whose results decide a task. -/
def WorkerCall.toSystem (deviceId : String) : WorkerCall ι π sizeT → Option SystemCall
  | .coTaskMemAlloc size => some (.coTaskMemAlloc size)
  | .sysAllocStringLen length => some (.sysAllocStringLen length)
  | .coCreateInstance => some .coCreateInstance
  | .createDevice _ _ => some (.createDevice deviceId)
  | .queryInterface _ => some .queryInterface
  | .escape _ _ _ inData inDataSize outDataSize => some (.escape inData inDataSize outDataSize)
  | .coInitializeEx | .coUninit | .nextTask | .store _ | .load _ | .coTaskMemFree _
  | .multiByteToWideChar _ | .sysFreeString _ | .release _ | .setValue _ _ => none

/-- The calls whose results decide a task, with their replies. -/
def systemExchanges (deviceId : String) (calls : List (WorkerCall ι π sizeT × WorkerReply ι π)) :
    List (SystemCall × SystemReply) :=
  calls.filterMap fun call => (call.1.toSystem deviceId).map fun request =>
    (request, call.2.toSystem)

omit [Commons] in
theorem systemExchanges_append (left right : List (WorkerCall ι π sizeT × WorkerReply ι π)) :
    systemExchanges deviceId (left ++ right) =
      systemExchanges deviceId left ++ systemExchanges deviceId right :=
  List.filterMap_append

omit [Commons] in
theorem systemExchanges_cons {call : WorkerCall ι π sizeT} {request : SystemCall}
    (isSystem : call.toSystem deviceId = some request) (reply : WorkerReply ι π)
    (rest : List (WorkerCall ι π sizeT × WorkerReply ι π)) :
    systemExchanges deviceId ((call, reply) :: rest) =
      (request, reply.toSystem) :: systemExchanges deviceId rest := by
  simp [systemExchanges, isSystem]

omit [Commons] in
theorem systemExchanges_cons_of_none {call : WorkerCall ι π sizeT}
    (silent : call.toSystem deviceId = none) (reply : WorkerReply ι π)
    (rest : List (WorkerCall ι π sizeT × WorkerReply ι π)) :
    systemExchanges deviceId ((call, reply) :: rest) = systemExchanges deviceId rest := by
  simp [systemExchanges, silent]

omit [Commons] in
theorem systemExchanges_of_none (silent : ∀ call ∈ calls, call.1.toSystem deviceId = none) :
    systemExchanges deviceId calls = [] := by
  rw [systemExchanges, List.filterMap_eq_nil_iff]
  intro call membership
  rw [silent call membership, Option.map_none]

omit [Commons] in
/-- A pointer is obtained exactly when the call has succeeded. -/
theorem WorkerReply.succeeded_toSystem (reply : WorkerReply ι π) :
    reply.toSystem.succeeded = reply.obtained.isSome := by
  rw [SystemReply.succeeded, obtained, toSystem]
  split
  · rename_i succeeded
    simp [succeeded]
  · rename_i failed
    simp [failed]

omit [Commons] in
/-- A checked call of a task: the program gives up or goes on, as the system replies. -/
theorem exec_checked {α : Type} {request : SystemCall} {stop : SystemReply → Bool}
    {early result : α} {rest : SystemReply → Worker α} {reply : SystemReply}
    {later : List (SystemCall × SystemReply)}
    (checked : if stop reply then later = [] ∧ early = result else Exec (rest reply) later result) :
    Exec (perform request >>= fun reply =>
      if stop reply then pure early else rest reply) ((request, reply) :: later) result := by
  refine exec_perform_bind.mpr ⟨reply, later, rfl, ?_⟩
  split at checked
  · rename_i stops
    rw [if_pos stops]
    exact exec_pure.mpr checked
  · rename_i goesOn
    rw [if_neg goesOn]
    exact checked

/-- Calling the device is the part of a task that opens it. -/
theorem escapeOnDevice_of_callDevice {locals : DeviceLocals π}
    (execution : Exec (callDevice deviceId task pIn pOut) calls locals) :
    Exec (escapeOnDevice deviceId task) (systemExchanges deviceId calls)
      (locals.hrLocal, locals.dwActualLocal, locals.memory) := by
  rw [callDevice, exec_perform_bind] at execution
  rcases execution with ⟨bstr, rest, rfl, execution⟩
  rw [systemExchanges_cons rfl]
  refine exec_checked ?_
  cases allocated : bstr.pointer with
  | none =>
      rw [allocated] at execution
      rcases exec_pure.mp execution with ⟨rfl, rfl⟩
      simp [WorkerReply.toSystem, allocated, systemExchanges]
  | some bstrId =>
      rw [allocated] at execution
      rw [if_neg (by simp [WorkerReply.toSystem, allocated])]
      simp only [exec_perform_bind] at execution
      rcases execution with ⟨_, rest, rfl, wiaMgr, rest, rfl, execution⟩
      rw [systemExchanges_cons_of_none rfl, systemExchanges_cons rfl]
      refine exec_checked ?_
      rw [WorkerReply.succeeded_toSystem]
      cases manager : wiaMgr.obtained with
      | none =>
          rw [manager] at execution
          rcases exec_pure.mp execution with ⟨rfl, rfl⟩
          simp [systemExchanges]
      | some pWiaMgr =>
          simp only [manager, exec_perform_bind] at execution
          rcases execution with ⟨wiaItem, rest, rfl, execution⟩
          rw [if_neg (by simp), systemExchanges_cons rfl]
          refine exec_checked ?_
          rw [WorkerReply.succeeded_toSystem]
          cases item : wiaItem.obtained with
          | none =>
              rw [item] at execution
              rcases exec_pure.mp execution with ⟨rfl, rfl⟩
              simp [systemExchanges]
          | some pWiaItem =>
              simp only [item, exec_perform_bind] at execution
              rcases execution with ⟨itemExtra, rest, rfl, execution⟩
              rw [if_neg (by simp), systemExchanges_cons rfl]
              refine exec_checked ?_
              rw [WorkerReply.succeeded_toSystem]
              cases extra : itemExtra.obtained with
              | none =>
                  rw [extra] at execution
                  rcases exec_pure.mp execution with ⟨rfl, rfl⟩
                  simp [systemExchanges]
              | some pItemExtra =>
                  simp only [extra, exec_perform_bind] at execution
                  rcases execution with ⟨reply, rest, rfl, execution⟩
                  rcases exec_pure.mp execution with ⟨rfl, rfl⟩
                  rw [if_neg (by simp), systemExchanges_cons rfl]
                  exact exec_perform_bind.mpr ⟨_, _, rfl, .done⟩

/-- The calls made for a task, but for the one that fulfils its promise. -/
def WorkerCall.WithinTask : WorkerCall ι π sizeT → Prop
  | .coInitializeEx | .coUninit | .nextTask | .setValue _ _ => False
  | .coTaskMemAlloc _ | .store _ | .load _ | .coTaskMemFree _ | .sysAllocStringLen _
  | .multiByteToWideChar _ | .sysFreeString _ | .coCreateInstance | .createDevice _ _
  | .queryInterface _ | .escape _ _ _ _ _ _ | .release _ => True

theorem only_callDevice :
    Only WorkerCall.WithinTask (callDevice deviceId task pIn pOut : Working ι π sizeT _) := by
  refine (only_perform trivial).bind fun bstr => ?_
  cases bstr.pointer with
  | none => exact only_pure _
  | some bstrId =>
      refine (only_perform trivial).bind fun _ => ?_
      refine (only_perform trivial).bind fun wiaMgr => ?_
      cases wiaMgr.obtained with
      | none => exact only_pure _
      | some pWiaMgr =>
          refine (only_perform trivial).bind fun wiaItem => ?_
          cases wiaItem.obtained with
          | none => exact only_pure _
          | some pWiaItem =>
              refine (only_perform trivial).bind fun itemExtra => ?_
              cases itemExtra.obtained with
              | none => exact only_pure _
              | some pItemExtra => exact (only_perform trivial).bind fun _ => only_pure _

/-- The calls within a task on whose results nothing depends. -/
def WorkerCall.Unchecked : WorkerCall ι π sizeT → Prop
  | .store _ | .load _ | .coTaskMemFree _ | .multiByteToWideChar _ | .sysFreeString _
  | .release _ => True
  | _ => False

omit [Commons] in
theorem WorkerCall.Unchecked.withinTask {call : WorkerCall ι π sizeT} (unchecked : call.Unchecked)
    (deviceId : String) :
    call.WithinTask ∧ call.toSystem deviceId = none := by
  cases call with
  | store | load | coTaskMemFree | multiByteToWideChar | sysFreeString | release =>
      exact ⟨trivial, rfl⟩
  | _ => exact unchecked.elim

omit [Commons] in
theorem only_safeRelease (object : Option π) :
    Only WorkerCall.Unchecked (safeRelease object : Working ι π sizeT Unit) := by
  cases object with
  | none => exact only_pure _
  | some object => exact (only_perform trivial).bind fun _ => only_pure _

omit [Commons] in
theorem only_freeString (bstrId : Option π) :
    Only WorkerCall.Unchecked (freeString bstrId : Working ι π sizeT Unit) := by
  cases bstrId with
  | none => exact only_pure _
  | some bstrId => exact (only_perform trivial).bind fun _ => only_pure _

omit [Commons] in
theorem only_cleanUp (locals : DeviceLocals π) :
    Only WorkerCall.Unchecked (cleanUp pIn pOut locals : Working ι π sizeT Unit) :=
  (only_perform trivial).bind fun _ => (only_perform trivial).bind fun _ =>
    (only_safeRelease _).bind fun _ => (only_safeRelease _).bind fun _ =>
      (only_safeRelease _).bind fun _ => only_freeString _

theorem only_takeResult (locals : DeviceLocals π) :
    Only WorkerCall.Unchecked (takeResult pOut locals : Working ι π sizeT _) := by
  rw [takeResult]
  split
  · refine (only_perform trivial).bind fun _ => ?_
    split
    · exact (only_perform trivial).bind fun _ => only_pure _
    · exact only_pure _
  · exact only_pure _

/-- What is read is what the device has left in memory. -/
theorem ensures_takeResult (locals : DeviceLocals π) :
    Ensures (takeResult pOut locals : Working ι π sizeT _) fun _ out =>
      out = readResult locals.hrLocal locals.dwActualLocal locals.memory := by
  rw [takeResult]
  split
  · refine ensures_perform_bind.mpr fun _ => ?_
    split
    · exact ensures_perform_bind.mpr fun _ => ensures_pure.mpr rfl
    · exact ensures_pure.mpr rfl
  · exact ensures_pure.mpr rfl

/-- With both blocks at hand the device is called, the result is taken and everything is given
back, and last the promise is set. -/
theorem exec_served {current : ι}
    (execution : Exec (do
      let locals ← callDevice deviceId task pIn pOut
      let out ← takeResult pOut locals
      cleanUp pIn pOut locals
      let _ ← perform (.setValue current out)
      return () : Working ι π sizeT Unit) calls ()) :
    ∃ before reply, ∃ locals : DeviceLocals π, calls = before ++ [(.setValue current
        (readResult locals.hrLocal locals.dwActualLocal locals.memory), reply)] ∧
      (∀ call ∈ before, call.1.WithinTask) ∧
      Exec (escapeOnDevice deviceId task) (systemExchanges deviceId before)
        (locals.hrLocal, locals.dwActualLocal, locals.memory) := by
  rcases exec_bind.mp execution with ⟨onDevice, locals, _, rfl, calling, afterCall⟩
  rcases exec_bind.mp afterCall with ⟨reading, out, _, rfl, reads, afterRead⟩
  rcases exec_bind.mp afterRead with ⟨cleaning, _, _, rfl, cleans, fulfilling⟩
  rcases exec_perform_bind.mp fulfilling with ⟨reply, _, rfl, finished⟩
  rw [(exec_pure.mp finished).1, ensures_takeResult locals reading out reads]
  have unchecked : ∀ call ∈ reading ++ cleaning, call.1.Unchecked :=
    List.forall_mem_append.mpr
      ⟨only_takeResult locals reading out reads, only_cleanUp locals cleaning _ cleans⟩
  refine ⟨onDevice ++ (reading ++ cleaning), reply, locals, by simp, ?_, ?_⟩
  · rw [List.forall_mem_append]
    exact ⟨only_callDevice onDevice locals calling,
      fun call later => ((unchecked call later).withinTask deviceId).1⟩
  · rw [systemExchanges_append, systemExchanges_of_none fun call later =>
      ((unchecked call later).withinTask deviceId).2, List.append_nil]
    exact escapeOnDevice_of_callDevice calling

/-- What is made of a task: the calls that it takes, and last its promise is set to the result
of executing it. -/
structure TaskPerformed (deviceId : String) (hrCom : Int32) (current : ι)
    (task : EscapeArguments sizeT) (calls : List (WorkerCall ι π sizeT × WorkerReply ι π))
    (before : List (WorkerCall ι π sizeT × WorkerReply ι π)) (result : EscapeResult sizeT) :
    Prop where
  split : ∃ reply, calls = before ++ [(.setValue current result, reply)]
  within : ∀ call ∈ before, call.1.WithinTask
  executes : Exec (executeTask deviceId hrCom task) (systemExchanges deviceId before) result

theorem taskPerformed {hrCom : Int32} {current : ι}
    (execution : Exec (performTask deviceId hrCom current task) calls ()) :
    ∃ before result, TaskPerformed deviceId hrCom current task calls before result := by
  rw [performTask] at execution
  split at execution
  · rename_i noCom
    rcases exec_perform_bind.mp execution with ⟨reply, rest, rfl, finished⟩
    rw [(exec_pure.mp finished).1]
    refine ⟨[], _, ⟨reply, rfl⟩, by simp, ?_⟩
    rw [executeTask, if_pos noCom]
    exact .done
  · rename_i withCom
    simp only [exec_perform_bind] at execution
    rcases execution with ⟨allocatedIn, rest, rfl, execution⟩
    cases blockIn : allocatedIn.pointer with
    | none =>
        simp only [blockIn, exec_perform_bind, exec_pure] at execution
        rcases execution with ⟨reply, _, rfl, rfl, _⟩
        refine ⟨[(.coTaskMemAlloc (dwInSize task), allocatedIn)], _, ⟨reply, rfl⟩,
          by simp [WorkerCall.WithinTask], ?_⟩
        rw [executeTask, if_neg withCom, systemExchanges_cons rfl]
        exact exec_checked (by simp [WorkerReply.toSystem, blockIn, systemExchanges])
    | some pIn =>
        simp only [blockIn, exec_perform_bind] at execution
        rcases execution with ⟨zeroed, _, rfl, filled, _, rfl, allocatedOut, rest, rfl, execution⟩
        cases blockOut : allocatedOut.pointer with
        | none =>
            simp only [blockOut, exec_perform_bind, exec_pure] at execution
            rcases execution with ⟨freed, _, rfl, reply, _, rfl, rfl, _⟩
            refine ⟨[(.coTaskMemAlloc (dwInSize task), allocatedIn), (.store pIn, zeroed),
              (.store pIn, filled), (.coTaskMemAlloc dwOutSize, allocatedOut),
              (.coTaskMemFree pIn, freed)], _, ⟨reply, rfl⟩, by simp [WorkerCall.WithinTask], ?_⟩
            rw [executeTask, if_neg withCom, systemExchanges_cons rfl,
              systemExchanges_cons_of_none rfl, systemExchanges_cons_of_none rfl,
              systemExchanges_cons rfl]
            refine exec_checked ?_
            rw [if_neg (by simp [WorkerReply.toSystem, blockIn])]
            refine exec_checked ?_
            rw [if_pos (by simp [WorkerReply.toSystem, blockOut])]
            exact ⟨rfl, rfl⟩
        | some pOut =>
            simp only [blockOut, exec_perform_bind] at execution
            rcases execution with ⟨cleared, _, rfl, execution⟩
            rcases exec_served execution with ⟨before, reply, locals, rfl, within, calling⟩
            refine ⟨(.coTaskMemAlloc (dwInSize task), allocatedIn) :: (.store pIn, zeroed) ::
              (.store pIn, filled) :: (.coTaskMemAlloc dwOutSize, allocatedOut) ::
              (.store pOut, cleared) :: before, _, ⟨reply, rfl⟩, ?_, ?_⟩
            · simp only [List.forall_mem_cons]
              exact ⟨trivial, trivial, trivial, trivial, trivial, within⟩
            · rw [executeTask, if_neg withCom, systemExchanges_cons rfl,
                systemExchanges_cons_of_none rfl, systemExchanges_cons_of_none rfl,
                systemExchanges_cons rfl, systemExchanges_cons_of_none rfl]
              refine exec_checked ?_
              rw [if_neg (by simp [WorkerReply.toSystem, blockIn])]
              refine exec_checked ?_
              rw [if_neg (by simp [WorkerReply.toSystem, blockOut])]
              exact exec_bind_pure.mpr ⟨_, calling, rfl⟩

end SystemCalls

end SimpleCamCtrl.Wia
