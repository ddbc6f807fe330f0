import SimpleCamCtrl.Library.Buffer
import SimpleCamCtrl.Wia.WorkerTask
import Mathlib.Data.List.GetD

/-!
# Vendor frames

The copies that `WorkerMain` makes into `pIn` and out of `pOut`, one by one, at the packed
offsets of the two structures.  Nothing checks the size of the data to be written, or the
size that the driver reports, against the buffers.
-/

namespace SimpleCamCtrl.Wia

variable {sizeT : SizeT}

/-- The arguments of `Escape`; a null `writeData` is `none`. -/
structure EscapeCall (sizeT : SizeT) where
  opcode : UInt16
  params : List UInt32
  writeData : Option (ByteVector sizeT)

/-- The task that `ExecuteEscapeOnOwnerThread` builds. -/
def EscapeCall.task (call : EscapeCall sizeT) : EscapeArguments sizeT where
  opcode := call.opcode
  params := call.params
  writeData :=
    match call.writeData with
    | some data => if data.size > 0 then data else .empty
    | none => .empty

/-- The bytes that are to be written. -/
def EscapeCall.data (call : EscapeCall sizeT) : List UInt8 :=
  match call.writeData with
  | some data => data.bytes
  | none => []

theorem EscapeCall.bytes_task (call : EscapeCall sizeT) :
    call.task.writeData.bytes = call.data := by
  rcases call with ⟨opcode, params, _ | data⟩
  · rfl
  · change (if data.size > 0 then data else .empty).bytes = data.bytes
    split
    · rfl
    · rename_i noBytes
      exact (List.eq_nil_of_length_eq_zero (Nat.eq_zero_of_not_pos noBytes)).symm

section Offsets

variable [Commons]

namespace VendorDataIn

def opCode : ℕ := 0

/-- Offset of `Params[i]`. -/
def params (i : ℕ) : ℕ := 10 + 4 * i

def numParams : ℕ := 10 + 4 * Commons.ptpMaxParams

def nextPhase : ℕ := 14 + 4 * Commons.ptpMaxParams

def vendorWriteData : ℕ := 18 + 4 * Commons.ptpMaxParams

end VendorDataIn

namespace VendorDataOut

def responseCode : ℕ := 0

def vendorReadData : ℕ := 10 + 4 * Commons.ptpMaxParams

end VendorDataOut

def opCodeCopy (task : EscapeArguments sizeT) : Buffer.Copy UInt8 :=
  ⟨VendorDataIn.opCode, LittleEndian.ofNat 2 task.opcode.toNat⟩

def nextPhaseCopy (task : EscapeArguments sizeT) : Buffer.Copy UInt8 :=
  ⟨VendorDataIn.nextPhase,
    LittleEndian.ofNat 4 (if task.writeData.bytes.isEmpty then Commons.nextPhaseReadData
      else Commons.nextPhaseWriteData).toNat⟩

/-- `pIn->Params[i] = spTask->params[i]`. -/
def paramCopy (task : EscapeArguments sizeT) (i : ℕ) : Buffer.Copy UInt8 :=
  ⟨VendorDataIn.params i, LittleEndian.ofNat 4 (task.params.getD i 0).toNat⟩

def numParamsCopy (task : EscapeArguments sizeT) : Buffer.Copy UInt8 :=
  ⟨VendorDataIn.numParams, LittleEndian.ofNat 4 (dwParamCount task)⟩

/-- The `memcpy` to `pIn->VendorWriteData`. -/
def writeDataCopy (task : EscapeArguments sizeT) : Buffer.Copy UInt8 :=
  ⟨VendorDataIn.vendorWriteData, task.writeData.bytes⟩

/-- What is written through `pIn`, in the order of the source. -/
def requestCopies (task : EscapeArguments sizeT) : List (Buffer.Copy UInt8) :=
  opCodeCopy task :: nextPhaseCopy task ::
    ((List.range (dwParamCount task)).map (paramCopy task) ++ numParamsCopy task ::
      if task.writeData.bytes.isEmpty then [] else [writeDataCopy task])

/-- The buffer passed to the driver: `dwInSize` zero bytes with these copies made. -/
def requestBuffer (task : EscapeArguments sizeT) : Option (List UInt8) :=
  Buffer.storeAll (List.replicate (dwInSize task).toNat 0) (requestCopies task)

/-- The offset and the length of what is read through `pOut`. -/
def replyLoads (hrLocal : Int32) (dwActualLocal : UInt32) : List (ℕ × ℕ) :=
  if Commons.hrSucceeded hrLocal then
    (VendorDataOut.responseCode, 2) ::
      if dwActualLocal > sizeofRequiredVendorDataOut then
        [(VendorDataOut.vendorReadData, (dwActualLocal - sizeofRequiredVendorDataOut).toNat)]
      else []
  else []

/-- The request fits its buffer: its size has not wrapped around, and no copy leaves it. -/
structure RequestFits (task : EscapeArguments sizeT) : Prop where
  size : (dwInSize task).toNat = VendorDataIn.vendorWriteData + task.writeData.size
  within : ∀ copy ∈ requestCopies task, copy.Within (dwInSize task).toNat

/-- Nothing is read behind the reply buffer. -/
def ReplyFits (hrLocal : Int32) (dwActualLocal : UInt32) : Prop :=
  ∀ field ∈ replyLoads hrLocal dwActualLocal, field.1 + field.2 ≤ dwOutSize.toNat

/-! ## Where the copies end -/

section Fits

variable {task : EscapeArguments sizeT} {copy : Buffer.Copy UInt8}

theorem mem_requestCopies :
    copy ∈ requestCopies task ↔ copy = opCodeCopy task ∨ copy = nextPhaseCopy task ∨
      (∃ i < dwParamCount task, paramCopy task i = copy) ∨ copy = numParamsCopy task ∨
      (task.writeData.bytes ≠ [] ∧ copy = writeDataCopy task) := by
  simp only [requestCopies, List.mem_cons, List.mem_append, List.mem_map, List.mem_range,
    List.mem_ite_nil_left, List.isEmpty_iff, List.not_mem_nil, or_false, ne_eq]

@[simp] theorem offset_nextPhaseCopy :
    (nextPhaseCopy task).offset = 14 + 4 * Commons.ptpMaxParams := rfl

omit [Commons] in
@[simp] theorem offset_paramCopy (i : ℕ) : (paramCopy task i).offset = 10 + 4 * i := rfl

@[simp] theorem offset_numParamsCopy :
    (numParamsCopy task).offset = 10 + 4 * Commons.ptpMaxParams := rfl

@[simp] theorem offset_writeDataCopy :
    (writeDataCopy task).offset = 18 + 4 * Commons.ptpMaxParams := rfl

omit [Commons] in
@[simp] theorem stop_opCodeCopy : (opCodeCopy task).stop = 2 := by
  simp [opCodeCopy, Buffer.Copy.stop, VendorDataIn.opCode]

@[simp] theorem stop_nextPhaseCopy :
    (nextPhaseCopy task).stop = 18 + 4 * Commons.ptpMaxParams := by
  simp only [nextPhaseCopy, Buffer.Copy.stop, LittleEndian.length_ofNat, VendorDataIn.nextPhase]
  omega

omit [Commons] in
@[simp] theorem stop_paramCopy (i : ℕ) : (paramCopy task i).stop = 14 + 4 * i := by
  simp only [paramCopy, Buffer.Copy.stop, LittleEndian.length_ofNat, VendorDataIn.params]
  omega

@[simp] theorem stop_numParamsCopy :
    (numParamsCopy task).stop = 14 + 4 * Commons.ptpMaxParams := by
  simp only [numParamsCopy, Buffer.Copy.stop, LittleEndian.length_ofNat, VendorDataIn.numParams]
  omega

@[simp] theorem stop_writeDataCopy :
    (writeDataCopy task).stop = 18 + 4 * Commons.ptpMaxParams + task.writeData.size := rfl

theorem dwParamCount_le (task : EscapeArguments sizeT) :
    dwParamCount task ≤ Commons.ptpMaxParams := Nat.min_le_right _ _

/-- No copy goes beyond the data, wherever the buffer ends. -/
theorem stop_le_of_mem (membership : copy ∈ requestCopies task) :
    copy.stop ≤ VendorDataIn.vendorWriteData + task.writeData.size := by
  have count := dwParamCount_le task
  rw [VendorDataIn.vendorWriteData]
  rcases mem_requestCopies.mp membership with rfl | rfl | ⟨i, below, rfl⟩ | rfl | ⟨_, rfl⟩
  · rw [stop_opCodeCopy]
    omega
  · rw [stop_nextPhaseCopy]
    exact Nat.le_add_right _ _
  · rw [stop_paramCopy]
    omega
  · rw [stop_numParamsCopy]
    omega
  · rw [stop_writeDataCopy]

/-- Some copy goes to the end of the data. -/
theorem exists_stop_eq (task : EscapeArguments sizeT) :
    ∃ copy ∈ requestCopies task,
      copy.stop = VendorDataIn.vendorWriteData + task.writeData.size := by
  by_cases noData : task.writeData.bytes = []
  · refine ⟨nextPhaseCopy task, mem_requestCopies.mpr (.inr (.inl rfl)), ?_⟩
    rw [stop_nextPhaseCopy, ByteVector.size, noData, List.length_nil, Nat.add_zero,
      VendorDataIn.vendorWriteData]
  · exact ⟨writeDataCopy task, mem_requestCopies.mpr (.inr (.inr (.inr (.inr ⟨noData, rfl⟩)))),
      rfl⟩

theorem toNat_dwInSize (task : EscapeArguments sizeT) :
    (dwInSize task).toNat =
      (VendorDataIn.vendorWriteData + task.writeData.size) % 2 ^ 32 := by
  rw [dwInSize, UInt32.toNat_add, sizeofRequiredVendorDataIn, UInt32.toNat_ofNat',
    UInt32.toNat_ofNat', ← Nat.add_mod, VendorDataIn.vendorWriteData]

/-- The copies stay in the request buffer exactly when its size does not wrap around. -/
theorem requestCopies_within_iff :
    (∀ copy ∈ requestCopies task, copy.Within (dwInSize task).toNat) ↔
      VendorDataIn.vendorWriteData + task.writeData.size < 2 ^ 32 := by
  constructor
  · intro within
    rcases exists_stop_eq task with ⟨copy, membership, stop⟩
    have inside : copy.stop ≤ (dwInSize task).toNat := within copy membership
    have small : (dwInSize task).toNat < 2 ^ 32 := (dwInSize task).toNat_lt
    omega
  · intro small copy membership
    rw [toNat_dwInSize, Nat.mod_eq_of_lt small]
    exact stop_le_of_mem membership

/-- The copies succeed exactly when none of them leaves the buffer. -/
theorem exists_requestBuffer_iff :
    (∃ frame, requestBuffer task = some frame) ↔
      ∀ copy ∈ requestCopies task, copy.Within (dwInSize task).toNat := by
  have succeeds : (∃ frame, requestBuffer task = some frame) ↔
      ∀ copy ∈ requestCopies task,
        copy.Within (List.replicate (dwInSize task).toNat (0 : UInt8)).length :=
    Buffer.exists_storeAll_iff
  rwa [List.length_replicate] at succeeds

theorem requestFits_iff :
    RequestFits task ↔ VendorDataIn.vendorWriteData + task.writeData.size < 2 ^ 32 := by
  constructor
  · intro fits
    exact requestCopies_within_iff.mp fits.within
  · intro small
    refine ⟨?_, requestCopies_within_iff.mpr small⟩
    rw [toNat_dwInSize, Nat.mod_eq_of_lt small]

end Fits

section Reply

variable {hrLocal : Int32} {dwActualLocal : UInt32}

/-- The payload is what lies behind the header, as far as the reported size goes. -/
theorem bytes_readPayload (dwActualLocal : UInt32) (memory : List UInt8) :
    (readPayload dwActualLocal memory : ByteVector sizeT).bytes =
      (List.range (dwActualLocal.toNat - sizeofRequiredVendorDataOut.toNat)).map fun i =>
        memory.getD (sizeofRequiredVendorDataOut.toNat + i) 0 := by
  have payloadSize : (if dwActualLocal > sizeofRequiredVendorDataOut then
      dwActualLocal - sizeofRequiredVendorDataOut else 0).toNat =
        dwActualLocal.toNat - sizeofRequiredVendorDataOut.toNat := by
    split
    · rename_i more
      exact UInt32.toNat_sub_of_le _ _ (UInt32.le_of_lt more)
    · rename_i fewer
      have order := UInt32.le_iff_toNat_le.mp (UInt32.not_lt.mp fewer)
      exact (Nat.sub_eq_zero_of_le order).symm
  rw [← payloadSize]
  rfl

theorem toNat_sizeofRequiredVendorDataOut (fits : VendorDataOut.vendorReadData < 2 ^ 32) :
    sizeofRequiredVendorDataOut.toNat = VendorDataOut.vendorReadData :=
  UInt32.toNat_ofNat_of_lt' fits

section ReplyArea

variable (replyArea : VendorDataOut.vendorReadData + 0x8000 < 2 ^ 32)
include replyArea

theorem toNat_header : sizeofRequiredVendorDataOut.toNat = VendorDataOut.vendorReadData :=
  toNat_sizeofRequiredVendorDataOut (Nat.lt_of_le_of_lt (Nat.le_add_right _ _) replyArea)

theorem toNat_dwOutSize : dwOutSize.toNat = VendorDataOut.vendorReadData + 0x8000 := by
  rw [dwOutSize, UInt32.toNat_add, toNat_header replyArea]
  exact Nat.mod_eq_of_lt replyArea

/-- The reply is read inside its buffer exactly when the size that the driver reports with a
success is at most that of the buffer. -/
theorem replyFits_iff :
    ReplyFits hrLocal dwActualLocal ↔
      (Commons.hrSucceeded hrLocal = true → dwActualLocal.toNat ≤ dwOutSize.toNat) := by
  have header := toNat_header replyArea
  have whole := toNat_dwOutSize replyArea
  rw [ReplyFits, replyLoads]
  cases Commons.hrSucceeded hrLocal with
  | false => simp
  | true =>
      simp only [if_true, List.forall_mem_cons, forall_const]
      split
      · rename_i more
        have order := UInt32.lt_iff_toNat_lt.mp more
        have payloadSize := UInt32.toNat_sub_of_le _ _ (UInt32.le_of_lt more)
        simp only [List.forall_mem_singleton, payloadSize, VendorDataOut.responseCode]
        omega
      · rename_i fewer
        have order := UInt32.le_iff_toNat_le.mp (UInt32.not_lt.mp fewer)
        simp only [List.not_mem_nil, false_imp_iff, implies_true, and_true,
          VendorDataOut.responseCode]
        omega

/-- Of a reply that is read inside its buffer, nothing behind the buffer matters. -/
theorem ReplyFits.readResult_eq (fits : ReplyFits hrLocal dwActualLocal)
    {pOut : List UInt8} (long : pOut.length = dwOutSize.toNat) (beyond other : List UInt8) :
    (readResult hrLocal dwActualLocal (pOut ++ beyond) : EscapeResult sizeT) =
      readResult hrLocal dwActualLocal (pOut ++ other) := by
  have whole := toNat_dwOutSize replyArea
  have inside (i : ℕ) (below : i < dwOutSize.toNat) :
      (pOut ++ beyond).getD i 0 = (pOut ++ other).getD i 0 := by
    rw [← long] at below
    rw [List.getD_append _ _ _ _ below, List.getD_append _ _ _ _ below]
  unfold readResult
  split
  · rename_i succeeded
    have reported := (replyFits_iff replyArea).mp fits succeeded
    have payload : (readPayload dwActualLocal (pOut ++ beyond) : ByteVector sizeT) =
        readPayload dwActualLocal (pOut ++ other) := by
      ext1
      rw [bytes_readPayload, bytes_readPayload]
      apply List.map_congr_left
      intro i below
      rw [List.mem_range] at below
      exact inside _ (by omega)
    rw [inside 0 (by omega), inside 1 (by omega), payload]
  · rfl

/-- Of any other reply the byte behind the buffer is part of the payload. -/
theorem payload_of_not_replyFits (overrun : ¬ReplyFits hrLocal dwActualLocal)
    {pOut : List UInt8} (long : pOut.length = dwOutSize.toNat) (next : UInt8)
    (beyond : List UInt8) :
    (readResult hrLocal dwActualLocal (pOut ++ next :: beyond) :
      EscapeResult sizeT).payload.bytes.getD 0x8000 0 = next := by
  have header := toNat_header replyArea
  have whole := toNat_dwOutSize replyArea
  rw [replyFits_iff replyArea, Classical.not_imp] at overrun
  rcases overrun with ⟨succeeded, above⟩
  have index : 0x8000 < dwActualLocal.toNat - sizeofRequiredVendorDataOut.toNat := by omega
  have behind : sizeofRequiredVendorDataOut.toNat + 0x8000 = pOut.length := by omega
  rw [readResult, if_pos succeeded, bytes_readPayload, List.getD_eq_getElem?_getD,
    List.getElem?_map, List.getElem?_range index]
  change (pOut ++ next :: beyond).getD (sizeofRequiredVendorDataOut.toNat + 0x8000) 0 = next
  rw [behind, List.getD_append_right _ _ _ _ (Nat.le_refl _), Nat.sub_self]
  rfl

/-- The reply is read inside its buffer exactly when nothing behind the buffer gets into the
result. -/
theorem replyFits_iff_readResult :
    ReplyFits hrLocal dwActualLocal ↔ ∀ pOut beyond other : List UInt8,
      pOut.length = dwOutSize.toNat →
        (readResult hrLocal dwActualLocal (pOut ++ beyond) : EscapeResult sizeT) =
          readResult hrLocal dwActualLocal (pOut ++ other) := by
  constructor
  · intro fits pOut beyond other long
    exact fits.readResult_eq replyArea long beyond other
  · intro same
    by_contra overrun
    have long : (List.replicate dwOutSize.toNat (0 : UInt8)).length = dwOutSize.toNat :=
      List.length_replicate
    have byte (next : UInt8) : (readResult hrLocal dwActualLocal
        (List.replicate dwOutSize.toNat 0 ++ [next]) : EscapeResult sizeT).payload.bytes.getD
          0x8000 0 = next :=
      payload_of_not_replyFits replyArea overrun long next []
    have equal := same _ [0] [1] long
    have zero := byte 0
    rw [equal, byte 1] at zero
    cases zero

end ReplyArea

end Reply

/-- Every copy into the request and out of the reply fits its buffer exactly when the size of
the request does not wrap around and the driver reports with a success no more than the size
of the reply buffer. -/
theorem framing_fits_iff (replyArea : 10 + 4 * Commons.ptpMaxParams + 0x8000 < 2 ^ 32)
    (call : EscapeCall sizeT) (hrLocal : Int32) (dwActualLocal : UInt32) :
    RequestFits call.task ∧ ReplyFits hrLocal dwActualLocal ↔
      18 + 4 * Commons.ptpMaxParams + call.data.length < 2 ^ 32 ∧
        (Commons.hrSucceeded hrLocal = true →
          dwActualLocal.toNat ≤ 10 + 4 * Commons.ptpMaxParams + 0x8000) := by
  have dataSize : call.task.writeData.size = call.data.length :=
    congrArg List.length call.bytes_task
  have outSize : dwOutSize.toNat = 10 + 4 * Commons.ptpMaxParams + 0x8000 :=
    toNat_dwOutSize replyArea
  rw [requestFits_iff, replyFits_iff replyArea, dataSize, outSize, VendorDataIn.vendorWriteData]

end Offsets

/-- A command that sets a property to a value of two bytes. -/
def setProperty : EscapeCall .bits64 :=
  ⟨0x9205, [0x5007], some ⟨[0x18, 0x01], by decide⟩⟩

theorem framing_fits_setProperty : RequestFits setProperty.task ∧ ReplyFits sOk 32798 :=
  (framing_fits_iff (by decide) setProperty sOk 32798).mpr ⟨by decide, by decide⟩

/-- Four gigabytes to be written. -/
def hugeWrite : EscapeCall .bits64 :=
  ⟨0x9205, [0x5007], some ⟨List.replicate (2 ^ 32) 0, by rw [List.length_replicate]; decide⟩⟩

theorem framing_overruns : ¬RequestFits hugeWrite.task ∧ ¬ReplyFits sOk 32799 := by
  constructor
  · intro fits
    have small := requestFits_iff.mp fits
    have size : hugeWrite.task.writeData.size = 2 ^ 32 :=
      (congrArg List.length hugeWrite.bytes_task).trans List.length_replicate
    rw [size] at small
    revert small
    decide
  · intro fits
    have inside := fits (30, 32769) (by decide)
    revert inside
    decide

end SimpleCamCtrl.Wia
