import SimpleCamCtrl.Wia.Framing
import SimpleCamCtrl.Wia.OwnerQueue

/-!
# Decoding undoes framing

A request is read back from the buffer that the copies into it leave, and the result of a
call from the reply that the driver writes.  The copies go to different places, so each
field holds what its own copy wrote, and a parameter slot without one is zero.
-/

namespace SimpleCamCtrl.Wia

open History Interaction

variable {sizeT : SizeT}

section RoundTrip

variable [Commons] {task : EscapeArguments sizeT}

/-- The copies go to different places. -/
theorem requestCopies_apart (task : EscapeArguments sizeT) :
    (requestCopies task).Pairwise Buffer.Copy.Apart := by
  have count := dwParamCount_le task
  have withData (front : Buffer.Copy UInt8)
      (order : front.stop ≤ 18 + 4 * Commons.ptpMaxParams) :
      ∀ copy ∈ (if task.writeData.bytes.isEmpty then [] else [writeDataCopy task]),
        front.Apart copy := by
    split
    · exact List.forall_mem_nil _
    · exact List.forall_mem_singleton.mpr (.inl order)
  rw [requestCopies, List.pairwise_cons, List.pairwise_cons, List.pairwise_append,
    List.pairwise_map, List.pairwise_cons]
  simp only [List.forall_mem_cons, List.forall_mem_append, List.forall_mem_map, List.mem_range]
  refine ⟨⟨?_, ?_, ?_, withData _ ?_⟩, ⟨?_, ?_, withData _ ?_⟩, ?_, ⟨withData _ ?_, ?_⟩, ?_⟩
  -- The opcode lies before everything else.
  · left
    simp only [stop_opCodeCopy, offset_nextPhaseCopy]
    omega
  · intro i _
    left
    simp only [stop_opCodeCopy, offset_paramCopy]
    omega
  · left
    simp only [stop_opCodeCopy, offset_numParamsCopy]
    omega
  · rw [stop_opCodeCopy]
    omega
  -- The next phase is written early, but lies behind the parameters and their number.
  · intro i below
    right
    simp only [stop_paramCopy, offset_nextPhaseCopy]
    omega
  · right
    simp only [stop_numParamsCopy, offset_nextPhaseCopy]
    omega
  · rw [stop_nextPhaseCopy]
  · apply List.pairwise_lt_range.imp
    intro i j order
    left
    simp only [stop_paramCopy, offset_paramCopy]
    omega
  · rw [stop_numParamsCopy]
    omega
  · split
    · exact List.Pairwise.nil
    · exact List.pairwise_singleton _ _
  · intro i below
    refine ⟨?_, withData _ ?_⟩
    · left
      simp only [stop_paramCopy, offset_numParamsCopy]
      omega
    · rw [stop_paramCopy]
      omega

section Stored

variable {frame : List UInt8} (stored : requestBuffer task = some frame)
include stored

/-- What a copy wrote stands in the frame. -/
theorem load_of_mem {copy : Buffer.Copy UInt8} {width : ℕ}
    (membership : copy ∈ requestCopies task) (length : copy.items.length = width) :
    Buffer.load frame copy.offset width = some copy.items := by
  rw [← length]
  exact Buffer.load_of_storeAll stored (requestCopies_apart task) membership

/-- Where no copy writes, the frame is zero. -/
theorem load_unwritten {offset width : ℕ} (inside : offset + width ≤ (dwInSize task).toNat)
    (avoid : ∀ copy ∈ requestCopies task, copy.Avoids offset (offset + width)) :
    Buffer.load frame offset width = some (List.replicate width 0) := by
  rw [Buffer.load_of_storeAll_avoids stored avoid]
  exact Buffer.load_replicate inside

theorem length_frame : frame.length = (dwInSize task).toNat := by
  rw [Buffer.length_of_storeAll stored, List.length_replicate]

theorem dwInSize_of_stored :
    VendorDataIn.vendorWriteData + task.writeData.size = (dwInSize task).toNat := by
  have small := requestCopies_within_iff.mp (exists_requestBuffer_iff.mp ⟨frame, stored⟩)
  rw [toNat_dwInSize, Nat.mod_eq_of_lt small]

theorem load_opCode :
    Buffer.load frame 0 2 = some (LittleEndian.ofNat 2 task.opcode.toNat) := by
  have written : opCodeCopy task ∈ requestCopies task := mem_requestCopies.mpr (.inl rfl)
  exact load_of_mem stored written (LittleEndian.length_ofNat _ _)

/-- Between the opcode and the number of parameters, four bytes that are not those of a used
parameter stay zero. -/
theorem load_gap {offset : ℕ} (behind : 2 ≤ offset)
    (before : offset + 4 ≤ 10 + 4 * Commons.ptpMaxParams)
    (free : offset + 4 ≤ 10 ∨ 10 + 4 * dwParamCount task ≤ offset) :
    Buffer.load frame offset 4 = some (LittleEndian.ofNat 4 0) := by
  apply load_unwritten stored
  · rw [← dwInSize_of_stored stored, VendorDataIn.vendorWriteData]
    omega
  · intro copy membership
    rcases mem_requestCopies.mp membership with rfl | rfl | ⟨i, below, rfl⟩ | rfl | ⟨_, rfl⟩
    · right
      rwa [stop_opCodeCopy]
    · left
      rw [offset_nextPhaseCopy]
      omega
    · rw [Buffer.Copy.Avoids, offset_paramCopy, stop_paramCopy]
      omega
    · left
      rwa [offset_numParamsCopy]
    · left
      rw [offset_writeDataCopy]
      omega

theorem load_params {i : ℕ} (slot : i < Commons.ptpMaxParams) :
    Buffer.load frame (10 + 4 * i) 4 =
      some (LittleEndian.ofNat 4
        ((task.params.take (dwParamCount task)).getD i 0).toNat) := by
  by_cases used : i < dwParamCount task
  · have written : paramCopy task i ∈ requestCopies task :=
      mem_requestCopies.mpr (.inr (.inr (.inl ⟨i, used, rfl⟩)))
    have value : (task.params.take (dwParamCount task)).getD i 0 = task.params.getD i 0 := by
      rw [List.getD_eq_getElem?_getD, List.getElem?_take_of_lt used,
        ← List.getD_eq_getElem?_getD]
    rw [value]
    exact load_of_mem stored written (LittleEndian.length_ofNat _ _)
  · have unused : dwParamCount task ≤ i := Nat.not_lt.mp used
    have value : (task.params.take (dwParamCount task)).getD i 0 = 0 := by
      apply List.getD_eq_default
      exact Nat.le_trans (List.length_take_le _ _) unused
    rw [value]
    exact load_gap stored (by omega) (by omega) (.inr (by omega))

theorem load_numParams :
    Buffer.load frame (10 + 4 * Commons.ptpMaxParams) 4 =
      some (LittleEndian.ofNat 4 (dwParamCount task)) := by
  have written : numParamsCopy task ∈ requestCopies task :=
    mem_requestCopies.mpr (.inr (.inr (.inr (.inl rfl))))
  exact load_of_mem stored written (LittleEndian.length_ofNat _ _)

theorem load_nextPhase :
    Buffer.load frame (14 + 4 * Commons.ptpMaxParams) 4 =
      some (LittleEndian.ofNat 4 (if task.writeData.bytes.isEmpty then Commons.nextPhaseReadData
        else Commons.nextPhaseWriteData).toNat) := by
  have written : nextPhaseCopy task ∈ requestCopies task := mem_requestCopies.mpr (.inr (.inl rfl))
  exact load_of_mem stored written (LittleEndian.length_ofNat _ _)

theorem load_vendorWriteData :
    Buffer.load frame (18 + 4 * Commons.ptpMaxParams) task.writeData.size =
      some task.writeData.bytes := by
  by_cases noData : task.writeData.bytes = []
  · have noBytes : task.writeData.size = 0 := by rw [ByteVector.size, noData, List.length_nil]
    have whole := dwInSize_of_stored stored
    rw [noBytes, noData]
    apply Buffer.load_nothing
    rw [length_frame stored, ← whole]
    exact Nat.le_add_right _ _
  · have written : writeDataCopy task ∈ requestCopies task :=
      mem_requestCopies.mpr (.inr (.inr (.inr (.inr ⟨noData, rfl⟩))))
    exact load_of_mem stored written rfl

/-- The copies leave the request frame in the buffer. -/
theorem frame_eq_vendorDataIn : frame = vendorDataIn task := by
  have length := length_frame stored
  rw [← dwInSize_of_stored stored, VendorDataIn.vendorWriteData] at length
  have slots : 10 + 4 * Commons.ptpMaxParams ≤ frame.length := by omega
  have session := load_gap stored (Nat.le_refl 2) (by omega) (.inl (by decide))
  have transaction := load_gap stored (by decide : 2 ≤ 6) (by omega) (.inl (by decide))
  have params := Buffer.load_flatMap slots fun i slot => load_params stored slot
  have header := Buffer.load_append (Buffer.load_append (load_opCode stored) rfl session) rfl
    transaction
  have withParams := Buffer.load_append header rfl params
  have withNumber := Buffer.load_append withParams (by omega) (load_numParams stored)
  have withPhase := Buffer.load_append withNumber (by omega) (load_nextPhase stored)
  have whole := Buffer.load_append withPhase (by omega) (load_vendorWriteData stored)
  have extent : 2 + 4 + 4 + 4 * Commons.ptpMaxParams + 4 + 4 + task.writeData.size =
      frame.length := by
    omega
  rw [extent, Buffer.load_whole] at whole
  exact Option.some.inj whole

end Stored

/-- The copies succeed, and leave the request frame, exactly when the size of the request does
not wrap around. -/
theorem requestBuffer_eq_iff :
    requestBuffer task = some (vendorDataIn task) ↔
      VendorDataIn.vendorWriteData + task.writeData.size < 2 ^ 32 := by
  rw [← requestCopies_within_iff, ← exists_requestBuffer_iff]
  constructor
  · intro stored
    exact ⟨_, stored⟩
  · intro stored
    rcases stored with ⟨frame, stored⟩
    rw [stored, frame_eq_vendorDataIn stored]

/-! ## Decoding -/

/-- What a driver finds in a request frame. -/
structure VendorRequest where
  opcode : UInt16
  slots : List UInt32
  numParams : UInt32
  nextPhase : UInt32
  data : List UInt8
  deriving DecidableEq

/-- The number at an offset of a frame. -/
def field (frame : List UInt8) (offset width : ℕ) : ℕ :=
  (Buffer.load frame offset width).elim 0 LittleEndian.toNat

/-- Reading a request frame at the packed offsets. -/
def decodeVendorDataIn (frame : List UInt8) : Option VendorRequest :=
  if VendorDataIn.vendorWriteData ≤ frame.length then
    some {
      opcode := .ofNat (field frame VendorDataIn.opCode 2)
      slots := (List.range Commons.ptpMaxParams).map fun i =>
        .ofNat (field frame (VendorDataIn.params i) 4)
      numParams := .ofNat (field frame VendorDataIn.numParams 4)
      nextPhase := .ofNat (field frame VendorDataIn.nextPhase 4)
      data := frame.drop VendorDataIn.vendorWriteData
    }
  else none

/-- The request is the one of the call. -/
structure VendorRequest.Carries (request : VendorRequest) (call : EscapeCall sizeT) : Prop where
  opcode : request.opcode = call.opcode
  params : request.slots.take request.numParams.toNat = call.params
  unused : ∀ slot ∈ request.slots.drop request.numParams.toNat, slot = 0
  writes : request.nextPhase = Commons.nextPhaseWriteData ↔ call.data ≠ []
  reads : request.nextPhase = Commons.nextPhaseReadData ↔ call.data = []
  data : request.data = call.data

omit [Commons] in
theorem field_of_load {frame bytes : List UInt8} {offset width : ℕ}
    (loaded : Buffer.load frame offset width = some bytes) :
    field frame offset width = LittleEndian.toNat bytes := by
  rw [field, loaded]
  rfl

omit [Commons] in
theorem ofNat_field {frame : List UInt8} {offset : ℕ} {value : UInt32}
    (loaded : Buffer.load frame offset 4 = some (LittleEndian.ofNat 4 value.toNat)) :
    UInt32.ofNat (field frame offset 4) = value := by
  rw [field_of_load loaded, LittleEndian.toNat_ofNat_of_lt value.toNat_lt, UInt32.ofNat_toNat]

omit [Commons] in
/-- Reading more slots than there are parameters gives zeros behind them. -/
theorem map_getD_range {params : List UInt32} {slots : ℕ} (enough : params.length ≤ slots) :
    ((List.range slots).map fun i => params.getD i 0) =
      params ++ List.replicate (slots - params.length) 0 := by
  apply List.ext_getElem
  · rw [List.length_map, List.length_range, List.length_append, List.length_replicate]
    omega
  · intro i _ _
    rw [List.getElem_map, List.getElem_range, List.getElem_append]
    split
    · rename_i below
      exact List.getD_eq_getElem _ _ below
    · rename_i above
      rw [List.getElem_replicate]
      exact List.getD_eq_default _ _ (Nat.not_lt.mp above)

section Decode

variable {call : EscapeCall sizeT} {frame : List UInt8}
variable (stored : requestBuffer call.task = some frame)
include stored

theorem decode_opCode : UInt16.ofNat (field frame VendorDataIn.opCode 2) = call.opcode := by
  have loaded := field_of_load (load_opCode stored)
  rw [LittleEndian.toNat_ofNat_of_lt call.task.opcode.toNat_lt] at loaded
  rw [VendorDataIn.opCode, loaded, UInt16.ofNat_toNat]
  rfl

theorem decode_slots (accepted : call.params.length ≤ Commons.ptpMaxParams) :
    ((List.range Commons.ptpMaxParams).map fun i =>
      UInt32.ofNat (field frame (VendorDataIn.params i) 4)) =
        call.params ++ List.replicate (Commons.ptpMaxParams - call.params.length) 0 := by
  rw [← map_getD_range accepted]
  apply List.map_congr_left
  intro i membership
  rw [List.mem_range] at membership
  have count : dwParamCount call.task = call.params.length := Nat.min_eq_left accepted
  have loaded := ofNat_field (load_params stored membership)
  rw [count] at loaded
  change _ = (call.params.take call.params.length).getD i 0 at loaded
  rwa [List.take_length] at loaded

theorem decode_numParams (accepted : call.params.length ≤ Commons.ptpMaxParams) :
    (UInt32.ofNat (field frame VendorDataIn.numParams 4)).toNat = call.params.length := by
  have count : dwParamCount call.task = call.params.length := Nat.min_eq_left accepted
  have loaded := field_of_load (load_numParams stored)
  have whole := dwInSize_of_stored stored
  have small : (dwInSize call.task).toNat < 2 ^ 32 := (dwInSize call.task).toNat_lt
  rw [VendorDataIn.vendorWriteData] at whole
  have fits : call.params.length < 2 ^ 32 := by omega
  rw [count, LittleEndian.toNat_ofNat_of_lt fits] at loaded
  rw [VendorDataIn.numParams, loaded]
  exact UInt32.toNat_ofNat_of_lt' fits

theorem decode_nextPhase :
    UInt32.ofNat (field frame VendorDataIn.nextPhase 4) =
      if call.data.isEmpty then Commons.nextPhaseReadData else Commons.nextPhaseWriteData := by
  rw [← call.bytes_task]
  exact ofNat_field (load_nextPhase stored)

theorem decode_data : frame.drop VendorDataIn.vendorWriteData = call.data := by
  rcases Buffer.load_eq_some (load_vendorWriteData stored) with ⟨_, bytes⟩
  have length : (frame.drop VendorDataIn.vendorWriteData).length =
      call.task.writeData.size := by
    rw [List.length_drop, length_frame stored, ← dwInSize_of_stored stored, Nat.add_sub_cancel_left]
  rw [← call.bytes_task, bytes, ← length]
  exact List.take_length.symm

/-- The frame of a call decodes to the call. -/
theorem decode_requestBuffer (accepted : call.params.length ≤ Commons.ptpMaxParams) :
    ∃ request, decodeVendorDataIn frame = some request ∧ request.Carries call := by
  have length := length_frame stored
  rw [← dwInSize_of_stored stored] at length
  have long : VendorDataIn.vendorWriteData ≤ frame.length := by omega
  have number := decode_numParams stored accepted
  rw [decodeVendorDataIn, if_pos long, decode_slots stored accepted, decode_nextPhase stored,
    decode_opCode stored, decode_data stored]
  refine ⟨_, rfl, rfl, ?_, ?_, ?_, ?_, rfl⟩
  · rw [number]
    exact List.take_left
  · rw [number, List.drop_left]
    exact fun slot membership => List.eq_of_mem_replicate membership
  · cases call.data with
    | nil => simpa using Commons.nextPhase_ne
    | cons byte bytes => simp
  · cases call.data with
    | nil => simp
    | cons byte bytes => simpa using Commons.nextPhase_ne.symm

end Decode

/-- The driver has written a reply frame, and reports its size. -/
structure ReplyFrame (reply : SystemReply) (responseCode : UInt16) (payload : List UInt8) :
    Prop where
  memory : ∃ header beyond, header.length = 8 + 4 * Commons.ptpMaxParams ∧
    reply.memory =
      LittleEndian.ofNat 2 responseCode.toNat ++ header ++ (payload ++ beyond)
  size : reply.actualDataSize.toNat = VendorDataOut.vendorReadData + payload.length
  short : payload.length ≤ 0x8000

omit [Commons] in
theorem map_getD_append (payload beyond : List UInt8) :
    ((List.range payload.length).map fun i => (payload ++ beyond).getD i 0) = payload := by
  apply List.ext_getElem
  · rw [List.length_map, List.length_range]
  · intro i _ below
    rw [List.getElem_map, List.getElem_range, List.getD_append _ _ _ _ below]
    exact List.getD_eq_getElem _ _ below

section ReplyFrame

variable {reply : SystemReply} {responseCode : UInt16} {payload : List UInt8}

theorem ReplyFrame.bytes_readPayload (written : ReplyFrame reply responseCode payload) :
    (readPayload reply.actualDataSize reply.memory : ByteVector sizeT).bytes = payload := by
  rcases written.memory with ⟨header, beyond, headerLength, memory⟩
  have size := written.size
  have small : reply.actualDataSize.toNat < 2 ^ 32 := reply.actualDataSize.toNat_lt
  have fits : VendorDataOut.vendorReadData < 2 ^ 32 := by omega
  have front : (LittleEndian.ofNat 2 responseCode.toNat ++ header).length =
      VendorDataOut.vendorReadData := by
    rw [List.length_append, LittleEndian.length_ofNat, headerLength, VendorDataOut.vendorReadData]
    omega
  rw [Wia.bytes_readPayload, toNat_sizeofRequiredVendorDataOut fits, size,
    Nat.add_sub_cancel_left, memory]
  refine (List.map_congr_left fun i _ => ?_).trans (map_getD_append payload beyond)
  rw [← front, List.getD_append_right _ _ _ _ (Nat.le_add_right _ _), Nat.add_sub_cancel_left]

theorem ReplyFrame.readResult_eq (written : ReplyFrame reply responseCode payload)
    (succeeded : Commons.hrSucceeded reply.hr = true) :
    ∃ vector : ByteVector sizeT, vector.bytes = payload ∧
      readResult reply.hr reply.actualDataSize reply.memory =
        ⟨reply.hr, responseCode, vector⟩ := by
  refine ⟨_, written.bytes_readPayload, ?_⟩
  rcases written.memory with ⟨header, beyond, headerLength, memory⟩
  have code : UInt16.ofNat (LittleEndian.toNat [reply.memory.getD 0 0, reply.memory.getD 1 0]) =
      responseCode := by
    rw [memory]
    change UInt16.ofNat (LittleEndian.toNat (LittleEndian.ofNat 2 responseCode.toNat)) = _
    rw [LittleEndian.toNat_ofNat_of_lt responseCode.toNat_lt, UInt16.ofNat_toNat]
  rw [readResult, if_pos succeeded, code]

end ReplyFrame

/-- The copies leave a frame that decodes to the request of the call. -/
structure FrameOf (call : EscapeCall sizeT) (frame : List UInt8) : Prop where
  built : requestBuffer call.task = some frame
  decodes : ∃ request, decodeVendorDataIn frame = some request ∧ request.Carries call

/-- The result holds what the driver has replied. -/
structure ResultOf (reply : SystemReply) (result : EscapeResult sizeT) : Prop where
  hr : result.hr = reply.hr
  replied : ∀ responseCode payload, Commons.hrSucceeded reply.hr = true →
    ReplyFrame reply responseCode payload →
      result.responseCode = responseCode ∧ result.payload.bytes = payload
  failed : Commons.hrSucceeded reply.hr = false →
    result.responseCode = 0 ∧ result.payload.bytes = []

theorem frameOf_task {call : EscapeCall sizeT}
    (accepted : call.params.length ≤ Commons.ptpMaxParams)
    (fits : 18 + 4 * Commons.ptpMaxParams + call.data.length < 2 ^ 32) :
    FrameOf call (vendorDataIn call.task) := by
  have dataSize : call.task.writeData.size = call.data.length :=
    congrArg List.length call.bytes_task
  have stored : requestBuffer call.task = some (vendorDataIn call.task) := by
    rw [requestBuffer_eq_iff, dataSize, VendorDataIn.vendorWriteData]
    exact fits
  exact ⟨stored, decode_requestBuffer stored accepted⟩

theorem resultOf_readResult (reply : SystemReply) :
    ResultOf reply
      (readResult reply.hr reply.actualDataSize reply.memory : EscapeResult sizeT) := by
  refine ⟨?_, ?_, ?_⟩
  · unfold readResult
    split
    · rfl
    · rfl
  · intro responseCode payload succeeded written
    have holds : ∃ vector : ByteVector sizeT, vector.bytes = payload ∧
        readResult reply.hr reply.actualDataSize reply.memory =
          ⟨reply.hr, responseCode, vector⟩ :=
      written.readResult_eq succeeded
    rcases holds with ⟨vector, bytes, taken⟩
    rw [taken]
    exact ⟨rfl, bytes⟩
  · intro failed
    rw [readResult, failed]
    exact ⟨rfl, rfl⟩

end RoundTrip

section Runs

variable {ι : Type} [DecidableEq ι] [Commons] {deviceId : String}
variable {arguments : ι → EscapeArguments sizeT} {labels : List (Label ι sizeT)}
variable {self : WiaTransport ι sizeT} {caller : ι}
variable {inData : List UInt8} {inDataSize outDataSize : UInt32} {reply : SystemReply}

omit [Commons] in
theorem mem_systemCalls {request : SystemCall} (made : .system caller request reply ∈ labels) :
    (request, reply) ∈ systemCalls caller labels :=
  List.mem_filterMap.mpr ⟨_, made, if_pos rfl⟩

/-- Any call of the device made for a call passes the frame of its task. -/
theorem WiaRun.escape_eq (run : WiaRun deviceId arguments labels self)
    (escapes : .system caller (.escape inData inDataSize outDataSize) reply ∈ labels) :
    inData = vendorDataIn (arguments caller) ∧ inDataSize = dwInSize (arguments caller) := by
  have made := mem_systemCalls escapes
  rcases WiaRun.exists_execution run caller with none | ⟨hrCom, later, result, execution⟩
  · rw [none] at made
    cases made
  · rcases (escapesOnce_of_executeTask execution).of_mem (List.mem_append_left _ made) with
      ⟨data, size, _⟩
    exact ⟨data, size⟩

/-- A call that the device has replied to returns what the reply holds, or times out. -/
theorem WiaRun.returned_eq (run : WiaRun deviceId arguments labels self)
    (accepted : (arguments caller).params.length ≤ Commons.ptpMaxParams)
    (escapes : .system caller (.escape inData inDataSize outDataSize) reply ∈ labels)
    {result : EscapeResult sizeT} (returned : self.caller caller = .returned result) :
    result = timeoutResult ∨
      result = readResult reply.hr reply.actualDataSize reply.memory := by
  rcases (WiaRun.resultInvariant run).returned caller result returned accepted with
    timedOut | ⟨_, hrCom, _, execution⟩
  · exact Or.inl timedOut
  · exact Or.inr
      ((escapesOnce_of_executeTask execution).of_mem (mem_systemCalls escapes)).2.2

/-- The frame of every accepted call decodes to its request.  In every run this is the frame
that the driver gets, with its size, and unless the call times out, it returns the response
code and the payload of the reply frame, or neither when the driver fails. -/
theorem escape_lossless {calls : ι → EscapeCall sizeT}
    (run : WiaRun deviceId (fun caller => (calls caller).task) labels self)
    (accepted : (calls caller).params.length ≤ Commons.ptpMaxParams)
    (fits : 18 + 4 * Commons.ptpMaxParams + (calls caller).data.length < 2 ^ 32) :
    ∃ frame, FrameOf (calls caller) frame ∧
      ∀ inData inDataSize outDataSize reply,
        .system caller (.escape inData inDataSize outDataSize) reply ∈ labels →
          inData = frame ∧ inDataSize.toNat = frame.length ∧
          ∀ result, self.caller caller = .returned result →
            result = timeoutResult ∨ ResultOf reply result := by
  have frameOf := frameOf_task accepted fits
  refine ⟨_, frameOf, ?_⟩
  intro inData inDataSize outDataSize reply escapes
  rcases WiaRun.escape_eq run escapes with ⟨data, size⟩
  rw [data, size]
  refine ⟨rfl, (length_frame frameOf.built).symm, ?_⟩
  intro result returned
  rcases WiaRun.returned_eq run accepted escapes returned with timedOut | taken
  · exact Or.inl timedOut
  · rw [taken]
    exact Or.inr (resultOf_readResult reply)

end Runs

/-- The reply "OK" with one byte of payload. -/
def okReply : SystemReply where
  actualDataSize := 31
  memory := LittleEndian.ofNat 2 0x2001 ++ List.replicate 28 0 ++ ([7] ++ [])

/-- The only call sets a property, and the driver replies. -/
def setPropertyLabels : List (Label Unit .bits64) :=
  [.call (), .spawn (), .enqueue (), .coInitialize sOk, .dequeue (),
    .system () (.coTaskMemAlloc (dwInSize setProperty.task)) {},
    .system () (.coTaskMemAlloc dwOutSize) {},
    .system () (.sysAllocStringLen 6) {},
    .system () .coCreateInstance {},
    .system () (.createDevice "camera") {},
    .system () .queryInterface {},
    .system () (.escape (vendorDataIn setProperty.task) (dwInSize setProperty.task) dwOutSize)
      okReply,
    .fulfil () (readResult okReply.hr okReply.actualDataSize okReply.memory),
    .collect () (readResult okReply.hr okReply.actualDataSize okReply.memory)]

theorem setPropertyLabels_run :
    ∃ object, WiaRun "camera" (fun _ : Unit => setProperty.task) setPropertyLabels object ∧
      object.caller () =
        .returned (readResult okReply.hr okReply.actualDataSize okReply.memory) := by
  have path : ∃ object, Path (Step "camera" fun _ : Unit => setProperty.task) {}
      setPropertyLabels object ∧ object.caller () =
        .returned (readResult okReply.hr okReply.actualDataSize okReply.memory) := by
    refine ⟨_, .cons (.call rfl (by decide)) <| .cons (.spawn rfl rfl) <| .cons (.enqueue rfl) <|
      .cons (.coInitialize rfl) <| .cons (.dequeue rfl rfl) <| .cons (.system rfl) <|
      .cons (.system rfl) <| .cons (.system rfl) <| .cons (.system rfl) <| .cons (.system rfl) <|
      .cons (.system rfl) <| .cons (.system rfl) <| .cons (.fulfil rfl) <|
      .cons (.collect rfl rfl) .nil, rfl⟩
  rcases path with ⟨object, path, returned⟩
  have start : WiaRun "camera" (fun _ : Unit => setProperty.task) [] {} := .start rfl
  exact ⟨object, start.append_path path, returned⟩

theorem setPropertyLabels_lossless :
    FrameOf setProperty (vendorDataIn setProperty.task) ∧
      ResultOf okReply
        (readResult okReply.hr okReply.actualDataSize okReply.memory : EscapeResult .bits64) := by
  rcases setPropertyLabels_run with ⟨object, run, returned⟩
  have escapes : Label.system () (.escape (vendorDataIn setProperty.task)
      (dwInSize setProperty.task) dwOutSize) okReply ∈ setPropertyLabels := by
    simp [setPropertyLabels]
  rcases escape_lossless run (by decide) (by decide) with ⟨frame, frameOf, passed⟩
  rcases passed _ _ _ _ escapes with ⟨rfl, _, results⟩
  refine ⟨frameOf, (results _ returned).resolve_left ?_⟩
  intro timedOut
  have codes := congrArg EscapeResult.responseCode timedOut
  revert codes
  decide

end SimpleCamCtrl.Wia
