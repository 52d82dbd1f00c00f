import LgeHardware.Camera.BufferLedger
import LgeHardware.Camera.ResultMetadata
import LgeHardware.Camera.ResultPipeline

/-! # Every buffer reaches the framework once

The result batcher takes for granted that the HAL returns the buffers of a stream in order, that
every request of a batch outputs to every stream to batch, and that these streams do not change
under a batch. The session does not check the first two. It sees to the third, because a
configuration is refused while a buffer is in flight. So what the HAL and the camera service
promise at the session's interfaces is enough for every buffer to come through to the framework,
once and in order.
-/

namespace LgeHardware.Camera

open LgeHardware.Foundation

namespace Session

theorem constructCaptureResult_halFrame (lib : MetadataLib) {s : Session}
    {hal : Camera3CaptureResult} (hinflight : s.ResultInflight hal) :
    ∃ result s', s.constructCaptureResult lib hal = (some result, s') ∧
      result.outputBuffers.map (·.halFrame) = hal.outputBuffers.map fun _ => hal.frameNumber :=
  ⟨_, _, if_neg (not_not_intro hinflight),
    map_outputBuffers _ (·.halFrame) hal.frameNumber (fun _ _ => rfl) hal.outputBuffers⟩

/-- The buffers of a result that is handed over are those of the frame it is for. -/
theorem acceptCaptureResult_halFrame {lib : MetadataLib} {s : Session}
    {hal : Camera3CaptureResult} {result : CaptureResult}
    (h : (s.acceptCaptureResult lib hal).1 = some result) :
    ∀ buffer ∈ result.outputBuffers, buffer.halFrame = result.frameNumber := by
  obtain ⟨hinflight, hcarries⟩ := acceptCaptureResult_carries lib h
  obtain ⟨taken, s', htaken, hframes⟩ :=
    @constructCaptureResult_halFrame lib s (sShrinkCaptureResult lib s.handlePhysCam hal) hinflight
  have houtputs : result.outputBuffers = taken.outputBuffers := by
    simp only [acceptCaptureResult, htaken] at h
    split at h
    next =>
      split at h
      next => cases h; rfl
      next => cases h
    next => cases h; rfl
  intro buffer hbuffer
  rw [houtputs] at hbuffer
  have hframe : buffer.halFrame ∈ taken.outputBuffers.map (·.halFrame) :=
    List.mem_map_of_mem hbuffer
  rw [hframes, List.mem_map] at hframe
  obtain ⟨-, -, heq⟩ := hframe
  exact heq.symm.trans hcarries.frame.symm

end Session

/-! ## What the HAL and the camera service promise -/

namespace DrainState

/-- Requests come with ascending frame numbers. The HAL returns the buffers of a stream in the
order of their frames, and as input only what it was given as input, with metadata of known
physical cameras. A batch is of requests that the HAL took and that output to all streams to
batch, later than the batches before. A configuration has no stream twice. -/
def InOrder (s : DrainState) : DrainOp → Prop
  | .submit _ request => ∀ frameNumber ∈ s.submitted, frameNumber < request.frameNumber
  | .result hal =>
      (∀ buffer ∈ hal.outputBuffers, ∀ frameNumber < hal.frameNumber,
        ¬s.OwesBuffer (buffer.stream, frameNumber)) ∧
      (∀ buffer ∈ hal.inputBuffer, ∃ request ∈ s.atHal, request.frameNumber = hal.frameNumber ∧
        request.hasInputBuf = true ∧ request.inputBuffer.streamId = buffer.stream) ∧
      (s.session.handlePhysCam = true → s.session.PhysicalMetadataValid hal)
  | .registerBatch frameNumber batchSize =>
      (0 < batchSize ∧ frameNumber + batchSize ≤ 2 ^ 32 ∧
        ∀ batch ∈ s.session.mResultBatcher.mInflightBatches, batch.mLastFrame < frameNumber) ∧
      ∀ i < batchSize, ∃ request ∈ s.accepted, request.frameNumber = frameNumber + i ∧
        ∀ streamId ∈ s.session.mResultBatcher.mStreamsToBatch,
          streamId ∈ request.outputBuffers.map (·.streamId)
  | .configureStreams config _ => (config.streams.map (·.id)).Nodup
  | _ => True

instance (s : DrainState) (op : DrainOp) : Decidable (s.InOrder op) :=
  match op with
  | .submit .. => inferInstanceAs (Decidable (∀ frameNumber ∈ _, _))
  | .result .. => inferInstanceAs (Decidable ((∀ buffer ∈ _, ∀ frameNumber < _, _) ∧
      (∀ buffer ∈ _, ∃ request ∈ _, _) ∧ (_ → _)))
  | .registerBatch .. => inferInstanceAs (Decidable ((_ ∧ _ ∧ _) ∧ ∀ i < _, _))
  | .configureStreams .. => inferInstanceAs (Decidable (List.Nodup _))
  | .halReturned .. | .notifyShutter .. | .notifyError .. | .updateBufferCaches _ | .disconnect
  | .close => isTrue trivial

instance (s : DrainState) (op : DrainOp) : Decidable (s.StreamsConfigured op) :=
  match op with
  | .submit .. => inferInstanceAs (Decidable (∀ buffer ∈ _, _))
  | .halReturned .. | .registerBatch .. | .result .. | .notifyShutter .. | .notifyError ..
  | .configureStreams .. | .updateBufferCaches _ | .disconnect | .close => isTrue trivial

def PipelineContract (s : DrainState) (op : DrainOp) : Prop :=
  s.Allowed op ∧ s.StreamsConfigured op ∧ s.InOrder op

instance (s : DrainState) (op : DrainOp) : Decidable (s.PipelineContract op) :=
  inferInstanceAs (Decidable (_ ∧ _ ∧ _))

/-! ## Results and requests -/

/-- The buffers that were returned are those of the results that were handed over, each of the
right frame, and no buffer that is still owed is of an earlier frame of its stream. -/
structure Handed (s : DrainState) (results : List CaptureResult) : Prop where
  distinct : ∀ request ∈ s.atHal, (request.buffers.map (·.streamId)).Nodup
  passed : (results.flatMap CaptureResult.bufferKeys).Perm s.returned
  once : s.returned.Nodup
  outputs : ∀ result ∈ results, ∀ buffer ∈ result.outputBuffers,
    buffer.halFrame = result.frameNumber
  inputs : ∀ result ∈ results, result.inputBuffer.streamId ≠ -1 →
    result.inputBuffer.halFrame = result.frameNumber ∧ ∃ request ∈ s.atHal,
      request.frameNumber = result.frameNumber ∧ request.hasInputBuf = true ∧
        request.inputBuffer.streamId = result.inputBuffer.streamId
  behind : ∀ result ∈ results, ∀ buffer ∈ result.outputBuffers,
    ∀ frameNumber < result.frameNumber, ¬s.OwesBuffer (buffer.streamId, frameNumber)

theorem mem_bufferKeys_output {result : CaptureResult} {buffer : StreamBuffer}
    (h : buffer ∈ result.outputBuffers) :
    (buffer.streamId, result.frameNumber) ∈ result.bufferKeys :=
  List.mem_append_right _ (List.mem_map_of_mem h)

theorem mem_bufferKeys_input {result : CaptureResult} (h : result.inputBuffer.streamId ≠ -1) :
    (result.inputBuffer.streamId, result.frameNumber) ∈ result.bufferKeys := by
  rw [CaptureResult.bufferKeys, if_pos h]
  exact List.mem_append_left _ List.mem_cons_self

theorem mem_bufferKeys_cases {result : CaptureResult} {key : Int × Nat}
    (h : key ∈ result.bufferKeys) : key.2 = result.frameNumber ∧
      ((∃ buffer ∈ result.outputBuffers, buffer.streamId = key.1) ∨
        result.inputBuffer.streamId ≠ -1 ∧ result.inputBuffer.streamId = key.1) := by
  rcases List.mem_append.mp h with hinput | houtput
  · split at hinput
    next hsome =>
      rw [List.mem_singleton.mp hinput]
      exact ⟨rfl, .inr ⟨hsome, rfl⟩⟩
    next => exact absurd hinput List.not_mem_nil
  · obtain ⟨buffer, hbuffer, rfl⟩ := List.mem_map.mp houtput
    exact ⟨rfl, .inl ⟨buffer, hbuffer, rfl⟩⟩

variable {s s' : DrainState} {results : List CaptureResult}

theorem Handed.returned (h : s.Handed results) {result : CaptureResult} (hresult : result ∈ results)
    {key : Int × Nat} (hkey : key ∈ result.bufferKeys) : key ∈ s.returned :=
  h.passed.mem_iff.mp (List.mem_flatMap.mpr ⟨result, hresult, hkey⟩)

/-- Requests come and go, but not those that the HAL has called back for, and a new one is later
than all before. -/
theorem Handed.change (h : s.Handed results) (htracks : s.Tracks)
    (hreturned : s'.returned = s.returned)
    (hkept : ∀ request ∈ s.atHal, request.frameNumber ∈ s.called → request ∈ s'.atHal)
    (hnew : ∀ request ∈ s'.atHal, request ∈ s.atHal ∨
      (request.buffers.map (·.streamId)).Nodup ∧
        ∀ frameNumber ∈ s.submitted, frameNumber < request.frameNumber) :
    s'.Handed results where
  distinct request hrequest := (hnew request hrequest).elim (h.distinct request) And.left
  passed := hreturned ▸ h.passed
  once := hreturned ▸ h.once
  outputs := h.outputs
  inputs result hresult hsome := by
    obtain ⟨hframe, request, hrequest, hsame, hrest⟩ := h.inputs result hresult hsome
    have hcalled := htracks.returned _ (h.returned hresult (mem_bufferKeys_input hsome))
    exact ⟨hframe, request, hkept request hrequest (hsame ▸ hcalled), hsame, hrest⟩
  behind result hresult buffer hbuffer frameNumber hlt := by
    rintro ⟨⟨request, hrequest, hkey⟩, hopen⟩
    have hcalled := htracks.returned _ (h.returned hresult (mem_bufferKeys_output hbuffer))
    have hframe : frameNumber = request.frameNumber :=
      CaptureRequest.frame_of_mem_inflightKeys hkey
    rcases hnew request hrequest with hold | ⟨-, hlater⟩
    · rw [hreturned] at hopen
      exact h.behind result hresult buffer hbuffer frameNumber hlt ⟨⟨request, hold, hkey⟩, hopen⟩
    · have hlast := hlater _ (htracks.called _ hcalled)
      dsimp only at hlast
      omega

/-- What a result of the HAL is handed over as. -/
structure Becomes (hal : Camera3CaptureResult) (result : CaptureResult) : Prop where
  frame : result.frameNumber = hal.frameNumber
  keys : result.bufferKeys = hal.inflightKeys
  streams : result.outputBuffers.map (·.streamId) = hal.outputBuffers.map (·.stream)
  outputs : ∀ buffer ∈ result.outputBuffers, buffer.halFrame = result.frameNumber
  input : result.inputBuffer.streamId ≠ -1 → result.inputBuffer.halFrame = result.frameNumber ∧
    ∃ buffer ∈ hal.inputBuffer, buffer.stream = result.inputBuffer.streamId

theorem resolve_eq_self {session : Session} {hal : Camera3CaptureResult}
    (hresolve : ∀ key ∈ hal.inflightKeys, session.streamId key.1 = key.1) :
    session.resolve hal = hal := by
  have hread : ∀ buffer ∈ hal.buffers,
      { buffer with stream := session.streamId buffer.stream } = buffer := by
    intro buffer hbuffer
    have hid := hresolve (buffer.stream, hal.frameNumber) (List.mem_map_of_mem hbuffer)
    exact congrArg (fun stream => { buffer with stream }) hid
  have hinput : hal.inputBuffer.map (fun buffer =>
      { buffer with stream := session.streamId buffer.stream }) = hal.inputBuffer := by
    cases hsome : hal.inputBuffer with
    | none => rfl
    | some buffer =>
        have hbuffer : buffer ∈ hal.buffers := by simp [Camera3CaptureResult.buffers, hsome]
        exact congrArg some (hread buffer hbuffer)
  have houtputs : hal.outputBuffers.map (fun buffer =>
      { buffer with stream := session.streamId buffer.stream }) = hal.outputBuffers := by
    rw [List.map_congr_left fun buffer hbuffer => hread buffer (List.mem_append_right _ hbuffer),
      List.map_id']
  rw [Session.resolve, hinput, houtputs]

theorem inputBuffer_of_hasInputBuf
    {request : CaptureRequest} (h : request.hasInputBuf = true) :
    request.inputBuffer.streamId ≠ -1 ∧
      request.buffers = request.outputBuffers ++ [request.inputBuffer] := by
  refine ⟨?_, by rw [CaptureRequest.buffers, if_pos h]⟩
  rw [CaptureRequest.hasInputBuf, Bool.and_eq_true] at h
  exact of_decide_eq_true h.1

/-- No promised result is stopped on its way to the result batcher. -/
theorem Tracks.accepts (lib : MetadataLib) (h : s.Tracks) (hnamed : Named s.session)
    {hal : Camera3CaptureResult} (hop : s.PipelineContract (.result hal)) :
    ∃ result, (s.session.acceptCaptureResult lib (s.session.resolve hal)).1 = some result ∧
      Becomes hal result := by
  obtain ⟨hallowed, -, -, hinputs, hvalid⟩ := hop
  have hresolve := hnamed.resolve h hallowed
  have hinflight := h.resultInflight hallowed.2.1 hresolve
  rw [resolve_eq_self hresolve] at hinflight ⊢
  obtain ⟨result, hresult⟩ := Option.isSome_iff_exists.mp
    (Session.acceptCaptureResult_isSome lib hinflight hvalid)
  obtain ⟨-, hcarries⟩ := Session.acceptCaptureResult_carries lib hresult
  refine ⟨result, hresult, hcarries.frame, hcarries.bufferKeys ?_, ?_,
    Session.acceptCaptureResult_halFrame hresult, ?_⟩
  · intro buffer hbuffer
    obtain ⟨request, -, -, hhas, hstream⟩ := hinputs buffer hbuffer
    exact hstream ▸ (inputBuffer_of_hasInputBuf hhas).1
  · have hstreams := congrArg (List.map Prod.fst) hcarries.outputs
    rwa [List.map_map, List.map_map] at hstreams
  · intro hsome
    have hinput := hcarries.input
    rw [show (sShrinkCaptureResult lib s.session.handlePhysCam hal).inputBuffer = hal.inputBuffer
      from rfl] at hinput
    cases hbuffer : hal.inputBuffer with
    | none =>
        rw [hbuffer] at hinput
        exact absurd hinput hsome
    | some buffer =>
        rw [hbuffer] at hinput
        dsimp only at hinput
        rw [hinput]
        exact ⟨hcarries.frame.symm, buffer, rfl, rfl⟩

/-- A result that is handed over takes its buffers with it. -/
theorem Handed.result (h : s.Handed results) {hal : Camera3CaptureResult} {result : CaptureResult}
    (hresult : Becomes hal result) (hop : s.PipelineContract (.result hal))
    (hatHal : s'.atHal = s.atHal) (hreturned : s'.returned = hal.inflightKeys ++ s.returned) :
    s'.Handed (results ++ [result]) := by
  obtain ⟨⟨-, howes, hnodup, -⟩, -, hbehind, hinputs, -⟩ := hop
  have hall : ∀ {good : CaptureResult → Prop}, (∀ other ∈ results, good other) → good result →
      ∀ other ∈ results ++ [result], good other := by
    intro good hold hnew other hmem
    rcases List.mem_append.mp hmem with hmem | hmem
    · exact hold other hmem
    · exact List.mem_singleton.mp hmem ▸ hnew
  have hsettled : ∀ key, s'.OwesBuffer key → s.OwesBuffer key := by
    intro key
    rw [OwesBuffer, hatHal, hreturned, owed_discharge]
    exact And.left
  refine ⟨?_, ?_, ?_, hall h.outputs hresult.outputs, hall ?_ ?_, hall ?_ ?_⟩
  · rw [hatHal]
    exact h.distinct
  · rw [List.flatMap_append, List.flatMap_singleton, hreturned, hresult.keys]
    exact List.perm_append_comm.trans (h.passed.append_left _)
  · rw [hreturned]
    exact hnodup.append h.once fun key hkey hold => (howes key hkey).2 hold
  · rw [hatHal]
    exact h.inputs
  · intro hsome
    obtain ⟨hframe, buffer, hbuffer, hstream⟩ := hresult.input hsome
    obtain ⟨request, hrequest, hsame, hhas, hinput⟩ := hinputs buffer hbuffer
    rw [hatHal]
    exact ⟨hframe, request, hrequest, hsame.trans hresult.frame.symm, hhas, hinput.trans hstream⟩
  · exact fun other hother buffer hbuffer frameNumber hlt howed =>
      h.behind other hother buffer hbuffer frameNumber hlt (hsettled _ howed)
  · intro buffer hbuffer frameNumber hlt howed
    have hstream : buffer.streamId ∈ hal.outputBuffers.map (·.stream) :=
      hresult.streams ▸ List.mem_map_of_mem hbuffer
    obtain ⟨halBuffer, hhal, heq⟩ := List.mem_map.mp hstream
    exact hbehind halBuffer hhal frameNumber (hresult.frame ▸ hlt) (heq ▸ hsettled _ howed)

/-! ## Steps of the session -/

/-- The operations that are neither requests nor results leave both to be as they are. -/
theorem next_bystander {lib : MetadataLib} {op : DrainOp}
    (hsubmit : ∀ world request, op ≠ .submit world request)
    (hreturned : ∀ pending ret, op ≠ .halReturned pending ret)
    (hresult : ∀ hal, op ≠ .result hal) :
    (s.next lib op).atHal = s.atHal ∧ (s.next lib op).returned = s.returned := by
  cases op with
  | submit world request => exact absurd rfl (hsubmit world request)
  | halReturned pending ret => exact absurd rfl (hreturned pending ret)
  | result hal => exact absurd rfl (hresult hal)
  | registerBatch frameNumber batchSize => exact ⟨rfl, rfl⟩
  | notifyShutter frameNumber timestamp =>
      simp only [next]
      split <;> exact ⟨rfl, rfl⟩
  | notifyError frameNumber errorStream errorCode =>
      simp only [next]
      split <;> exact ⟨rfl, rfl⟩
  | configureStreams config answer =>
      simp only [next]
      split <;> exact ⟨rfl, rfl⟩
  | updateBufferCaches cachesToRemove => exact ⟨rfl, rfl⟩
  | disconnect => exact ⟨rfl, rfl⟩
  | close => exact ⟨rfl, rfl⟩

/-- A request that the HAL took stays taken. -/
theorem mem_accepted_next {lib : MetadataLib} {op : DrainOp} {request : CaptureRequest}
    (h : request ∈ s.accepted) : request ∈ (s.next lib op).accepted := by
  cases op with
  | halReturned pending ret =>
      simp only [next]
      split
      next => exact List.mem_cons_of_mem _ h
      next => exact h
  | submit world request => simp only [next]; split <;> exact h
  | notifyShutter frameNumber timestamp => simp only [next]; split <;> exact h
  | notifyError frameNumber errorStream errorCode => simp only [next]; split <;> exact h
  | configureStreams config answer => simp only [next]; split <;> exact h
  | _ => exact h

/-! ## Batches -/

/-- For each frame of the batch, the HAL took a request that outputs to all its streams. -/
def BatchTaken (s : DrainState) (batch : InflightBatch) : Prop :=
  ∀ streamId ∈ batch.mBatchBufs, ∀ frameNumber, batch.mFirstFrame ≤ frameNumber →
    frameNumber ≤ batch.mLastFrame → ∃ request ∈ s.accepted,
      request.frameNumber = frameNumber ∧ streamId ∈ request.outputBuffers.map (·.streamId)

/-- A step of the session leaves the requests of a batch among those that were taken. -/
theorem BatchTaken.next {lib : MetadataLib} {batch : InflightBatch} (h : s.BatchTaken batch)
    (op : DrainOp) : (s.next lib op).BatchTaken batch := by
  intro streamId hstream frameNumber hfirst hlast
  obtain ⟨request, hrequest, hrest⟩ := h streamId hstream frameNumber hfirst hlast
  exact ⟨request, mem_accepted_next hrequest, hrest⟩

theorem BatchTaken.of_ends {batch after : InflightBatch} (h : s.BatchTaken batch)
    (hfirst : after.mFirstFrame = batch.mFirstFrame) (hlast : after.mLastFrame = batch.mLastFrame)
    (hstreams : ∀ streamId, streamId ∈ after.mBatchBufs ↔ streamId ∈ batch.mBatchBufs) :
    s.BatchTaken after := by
  intro streamId hstream
  rw [hfirst, hlast]
  exact h streamId ((hstreams streamId).mp hstream)

theorem batchTaken_newBatch {first batchSize : Nat}
    (hop : s.InOrder (.registerBatch first batchSize)) :
    s.BatchTaken (s.session.mResultBatcher.newBatch first batchSize) := by
  intro streamId hstream frameNumber hfirst hlast
  obtain ⟨hrange, hrequests⟩ := hop
  have hpos := hrange.1
  obtain ⟨hfrom, hto⟩ := @BatcherState.newBatch_ends { batcher := s.session.mResultBatcher } _ _
    hrange
  dsimp only at hfrom hto
  rw [hfrom] at hfirst
  rw [hto] at hlast
  obtain ⟨request, hrequest, hframe, houtputs⟩ := hrequests (frameNumber - first) (by omega)
  refine ⟨request, hrequest, by omega, houtputs streamId ?_⟩
  by_contra hnot
  rw [Std.ExtTreeMap.mem_iff_isSome_getElem?, ResultBatcher.newBatch_mBatchBufs,
    if_neg hnot] at hstream
  cases hstream

end DrainState

/-! ## The invariant -/

namespace PipelineState

open DrainState

/-- The records of the session, the requests at the HAL and the batches hang together. -/
structure Linked (p : PipelineState) : Prop where
  tracks : p.drain.Tracks
  named : Named p.drain.session
  handed : p.drain.Handed p.results
  ascending : ∀ streamId, ((p.batcherState.received streamId).map (·.halFrame)).Pairwise (· < ·)
  batched : ∀ batch ∈ p.drain.session.mResultBatcher.mInflightBatches, p.drain.BatchTaken batch
  delivery : p.batcherState.DeliveryInv
  inputs : ∀ streamId,
    p.batcherState.inputsDelivered streamId = p.batcherState.inputsReceived streamId

variable {lib : MetadataLib} {p : PipelineState}

theorem mem_received {streamId : Int} {buffer : StreamBuffer} :
    buffer ∈ p.batcherState.received streamId ↔
      ∃ result ∈ p.results, buffer ∈ result.outputBuffers ∧ buffer.streamId = streamId := by
  rw [BatcherState.received, List.mem_flatMap]
  simp only [InflightBatch.mem_outputsOn]
  rfl

/-- The HAL has returned the buffer of a stream for a frame if it has a request with that output
and does not owe it. -/
theorem Linked.returned_of_not_owed (h : p.Linked) {request : CaptureRequest}
    (hrequest : request ∈ p.drain.atHal) {streamId : Int}
    (hstream : streamId ∈ request.outputBuffers.map (·.streamId))
    (hnot : ¬p.drain.OwesBuffer (streamId, request.frameNumber)) :
    p.batcherState.Returned streamId request.frameNumber := by
  obtain ⟨output, houtput, rfl⟩ := List.mem_map.mp hstream
  have hkey : (output.streamId, request.frameNumber) ∈ request.inflightKeys :=
    List.mem_map_of_mem (List.mem_append_left _ houtput)
  have hreturned : (output.streamId, request.frameNumber) ∈ p.drain.returned := by
    by_contra hopen
    exact hnot ⟨⟨request, hrequest, hkey⟩, hopen⟩
  obtain ⟨result, hresult, hmem⟩ := List.mem_flatMap.mp (h.handed.passed.mem_iff.mpr hreturned)
  obtain ⟨hframe, ⟨buffer, hbuffer, heq⟩ | ⟨hsome, heq⟩⟩ := mem_bufferKeys_cases hmem
  · refine ⟨buffer, mem_received.mpr ⟨result, hresult, hbuffer, heq⟩, ?_⟩
    exact (h.handed.outputs result hresult buffer hbuffer).trans hframe.symm
  · -- what came back as input was the input of this request, and no output of it is on that stream
    obtain ⟨-, other, hother, hsame, hhas, hinput⟩ := h.handed.inputs result hresult hsome
    obtain rfl : other = request := List.inj_on_of_nodup_map h.tracks.frames hother hrequest
      (hsame.trans hframe.symm)
    have hdistinct := h.handed.distinct other hrequest
    rw [(inputBuffer_of_hasInputBuf hhas).2, List.map_append, List.nodup_append] at hdistinct
    exact absurd (heq.symm.trans hinput.symm)
      (hdistinct.2.2 _ (List.mem_map_of_mem houtput) _ (List.mem_singleton_self _))

theorem Linked.batch_returned (h : p.Linked) {batch : InflightBatch}
    (hbatch : batch ∈ p.drain.session.mResultBatcher.mInflightBatches) {streamId : Int}
    (hstream : streamId ∈ batch.mBatchBufs) {frameNumber : Nat}
    (hfirst : batch.mFirstFrame ≤ frameNumber) (hlast : frameNumber ≤ batch.mLastFrame)
    (hnot : ¬p.drain.OwesBuffer (streamId, frameNumber)) :
    p.batcherState.Returned streamId frameNumber := by
  obtain ⟨request, hrequest, rfl, houtput⟩ :=
    h.batched batch hbatch streamId hstream frameNumber hfirst hlast
  exact h.returned_of_not_owed (List.mem_append_right _ hrequest) houtput hnot

/-- The result of a promised HAL result is what the batcher expects. -/
theorem Linked.buffersInOrder (h : p.Linked) {hal : Camera3CaptureResult} {result : CaptureResult}
    (hresult : Becomes hal result) (hop : p.drain.PipelineContract (.result hal)) :
    p.batcherState.BuffersInOrder result := by
  obtain ⟨⟨-, howes, hnodup, -⟩, -, hbehind, -, -⟩ := hop
  have howed : ∀ buffer ∈ result.outputBuffers,
      p.drain.OwesBuffer (buffer.streamId, result.frameNumber) := fun buffer hbuffer =>
    howes _ (hresult.keys ▸ mem_bufferKeys_output hbuffer)
  refine ⟨hresult.outputs, ?_, ?_, ?_⟩
  · rw [hresult.streams]
    have hbuffers : (hal.buffers.map (·.stream)).Nodup := by
      apply List.Nodup.of_map fun stream => (stream, hal.frameNumber)
      rwa [List.map_map]
    exact hbuffers.sublist ((List.sublist_append_right _ _).map _)
  · intro buffer hbuffer earlier hearlier
    obtain ⟨other, hother, hmem, hsame⟩ := mem_received.mp hearlier
    rw [h.handed.outputs other hother earlier hmem]
    rcases lt_trichotomy other.frameNumber result.frameNumber with hlt | heq | hgt
    · exact hlt
    · -- the buffer of this frame would have been returned already
      have hreturned := h.handed.returned hother (mem_bufferKeys_output hmem)
      rw [hsame, heq] at hreturned
      exact absurd hreturned (howed buffer hbuffer).2
    · have hnot := h.handed.behind other hother earlier hmem result.frameNumber hgt
      rw [hsame] at hnot
      exact absurd (howed buffer hbuffer) hnot
  · intro buffer hbuffer batch hbatch hstream frameNumber hlt hfirst hlast
    obtain ⟨halBuffer, hhal, heq⟩ := List.mem_map.mp
      (hresult.streams ▸ List.mem_map_of_mem hbuffer :
        buffer.streamId ∈ hal.outputBuffers.map (·.stream))
    have hnot := hbehind halBuffer hhal frameNumber (hresult.frame ▸ hlt)
    rw [heq] at hnot
    exact h.batch_returned hbatch hstream hfirst hlast hnot

/-- The session asks nothing of its result batcher that breaks the batcher's contract. -/
theorem Linked.deliveryContract (h : p.Linked) {op : DrainOp} (hop : p.drain.PipelineContract op)
    {asked : BatcherOp} (hasked : p.drain.asks lib op = some asked) :
    p.batcherState.DeliveryContract asked := by
  cases op with
  | registerBatch frameNumber batchSize =>
      cases hasked
      exact hop.2.2.1
  | result hal =>
      obtain ⟨result, hresult, hbecomes⟩ := h.tracks.accepts lib h.named hop
      rw [asks, hresult] at hasked
      cases hasked
      exact h.buffersInOrder hbecomes hop
  | notifyShutter frameNumber timestamp =>
      rw [asks, message, Option.bind_some] at hasked
      · obtain ⟨-, -, rfl⟩ := Option.map_eq_some_iff.mp hasked
        trivial
      all_goals simp
  | notifyError frameNumber errorStream errorCode =>
      rw [asks, message, Option.bind_some] at hasked
      · obtain ⟨-, -, rfl⟩ := Option.map_eq_some_iff.mp hasked
        trivial
      all_goals simp
  | configureStreams config answer =>
      rw [asks] at hasked
      split at hasked
      next events session hconfigured =>
        cases hasked
        rcases Session.configureStreams_batches hconfigured with
          ⟨-, hidle, -, hstreams⟩ | ⟨hnot, -⟩
        · refine ⟨hop.2.2.sublist hstreams, fun batch hbatch streamId hstream => ?_⟩
          -- nothing is in flight, so nothing is owed
          have hnot : ¬p.drain.OwesBuffer (streamId, batch.mLastFrame) := fun howed =>
            (Session.nothingInflight_iff.mp hidle).1 _ ((h.tracks.buffers _).mpr howed)
          exact h.batch_returned hbatch (Std.ExtTreeMap.mem_keys.mp hstream)
            (h.delivery.ordered.nonempty batch hbatch) le_rfl hnot
        · exact absurd rfl hnot
      next => cases hasked
  | submit world request => cases hasked
  | halReturned pending ret => cases hasked
  | updateBufferCaches cachesToRemove => cases hasked
  | disconnect => cases hasked
  | close => cases hasked

/-- The batcher gets no more from the session than it relies on. -/
theorem Linked.delivery_next (h : p.Linked) {op : DrainOp} (hop : p.drain.PipelineContract op) :
    (p.next lib op).batcherState.DeliveryInv := by
  rw [batcherState_next]
  cases hasked : p.drain.asks lib op with
  | none => exact h.delivery
  | some asked => exact h.delivery.next (h.deliveryContract hop hasked)

/-- Input buffers are handed on at once. -/
theorem Linked.inputs_next (h : p.Linked) (op : DrainOp) (streamId : Int) :
    (p.next lib op).batcherState.inputsDelivered streamId =
      (p.next lib op).batcherState.inputsReceived streamId := by
  rw [batcherState_next]
  cases p.drain.asks lib op with
  | none => exact h.inputs streamId
  | some asked =>
      exact BatcherState.inputsDelivered_next h.delivery asked streamId (h.inputs streamId)

theorem eq_of_asks_registerBatch {s : DrainState} {op : DrainOp} {frameNumber batchSize : Nat}
    (h : s.asks lib op = some (.registerBatch frameNumber batchSize)) :
    op = .registerBatch frameNumber batchSize := by
  cases op with
  | registerBatch => cases h; rfl
  | result hal => simp [asks] at h
  | notifyShutter => simp [asks, message] at h
  | notifyError => simp [asks, message] at h
  | configureStreams config answer =>
      rw [asks] at h
      split at h <;> cases h
  | _ => cases h

/-- A batch keeps its frames and its streams, and a new one is of requests that the HAL took. -/
theorem Linked.batched_next (h : p.Linked) {op : DrainOp} (hop : p.drain.PipelineContract op) :
    ∀ batch ∈ (p.next lib op).drain.session.mResultBatcher.mInflightBatches,
      (p.next lib op).drain.BatchTaken batch := by
  have hold : ∀ batch ∈ p.batcherState.batcher.mInflightBatches,
      (p.next lib op).drain.BatchTaken batch := fun batch hbatch =>
    (h.batched batch hbatch).next op
  intro batch hbatch
  have hafter : batch ∈ (p.next lib op).batcherState.batcher.mInflightBatches := hbatch
  rw [batcherState_next] at hafter
  cases hasked : p.drain.asks lib op with
  | none =>
      rw [hasked] at hafter
      exact hold batch hafter
  | some asked =>
      rw [hasked] at hafter
      by_cases hregister : ∃ first batchSize, asked = .registerBatch first batchSize
      · obtain ⟨first, batchSize, rfl⟩ := hregister
        obtain rfl := eq_of_asks_registerBatch hasked
        rcases List.mem_append.mp hafter with hafter | hnew
        · exact hold batch hafter
        · rw [List.mem_singleton.mp hnew]
          exact (batchTaken_newBatch hop.2.2).next _
      · have hne : ∀ first batchSize, asked ≠ .registerBatch first batchSize :=
          fun first batchSize heq => hregister ⟨first, batchSize, heq⟩
        obtain ⟨before, hbefore, hfirst, hlast, hstreams⟩ :=
          h.delivery.ends_next (h.deliveryContract hop hasked) hne batch hafter
        exact (hold before hbefore).of_ends hfirst hlast hstreams

variable (lib) in
/-- Only a result of the HAL adds to the results. -/
theorem results_next_of_ne {op : DrainOp} (hresult : ∀ hal, op ≠ .result hal) :
    (p.next lib op).results = p.results := by
  have hnone : p.drain.handed lib op = [] := by
    cases op with
    | result hal => exact absurd rfl (hresult hal)
    | _ => rfl
  rw [next, hnone, List.append_nil]

variable (lib) in
/-- What a promised result adds. -/
theorem Linked.results_next (h : p.Linked) {hal : Camera3CaptureResult}
    (hop : p.drain.PipelineContract (.result hal)) : ∃ result, Becomes hal result ∧
      (p.next lib (.result hal)).results = p.results ++ [result] := by
  obtain ⟨result, hresult, hbecomes⟩ := h.tracks.accepts lib h.named hop
  refine ⟨result, hbecomes, ?_⟩
  rw [next, DrainState.handed, hresult]
  rfl

/-- What a stream gets is in the order of the frames. -/
theorem Linked.ascending_next (h : p.Linked) {op : DrainOp} (hop : p.drain.PipelineContract op)
    (streamId : Int) :
    (((p.next lib op).batcherState.received streamId).map (·.halFrame)).Pairwise (· < ·) := by
  by_cases hresult : ∃ hal, op = .result hal
  · obtain ⟨hal, rfl⟩ := hresult
    obtain ⟨result, hbecomes, hresults⟩ := h.results_next lib hop
    have horder := h.buffersInOrder hbecomes hop
    have hreceived : (p.next lib (.result hal)).batcherState.received streamId =
        p.batcherState.received streamId ++ result.outputsOn streamId := by
      simp only [BatcherState.received, batcherState, hresults, List.flatMap_append,
        List.flatMap_singleton]
    rw [hreceived, List.map_append, List.pairwise_append]
    rcases result.outputsOn_cases horder.streams streamId with
      hnone | ⟨buffer, hbuffer, rfl, hone⟩
    · rw [hnone]
      exact ⟨h.ascending streamId, List.Pairwise.nil, by simp⟩
    · rw [hone]
      refine ⟨h.ascending _, List.pairwise_singleton _ _, ?_⟩
      intro frameNumber hframe last hlast
      obtain ⟨earlier, hearlier, rfl⟩ := List.mem_map.mp hframe
      rw [List.map_singleton, List.mem_singleton] at hlast
      rw [hlast, horder.frames buffer hbuffer]
      exact horder.increasing buffer hbuffer earlier hearlier
  · have hsame := @results_next_of_ne lib p op fun hal heq => hresult ⟨hal, heq⟩
    rw [@BatcherState.received_congr p.batcherState (p.next lib op).batcherState hsame]
    exact h.ascending streamId

/-! ## Every step keeps it -/

variable (lib) in
theorem Linked.handed_submit (h : p.Linked) {world : RequestWorld} {request : CaptureRequest}
    (hop : p.drain.PipelineContract (.submit world request)) :
    (p.drain.next lib (.submit world request)).Handed p.results := by
  obtain ⟨⟨hphysical, hnodup, -⟩, -, hlater⟩ := hop
  rcases p.drain.next_submit_cases lib world hphysical with
    ⟨session, pending, hregistered, hnext⟩ | ⟨session, -, hnext⟩
  · obtain rfl := hregistered.sameRequest
    rw [hnext]
    refine h.handed.change h.tracks rfl (fun other hother _ => List.mem_cons_of_mem _ hother) ?_
    intro other hother
    rcases List.mem_cons.mp hother with heq | hother
    · rw [heq]
      exact .inr ⟨hnodup, hlater⟩
    · exact .inl hother
  · rw [hnext]
    exact h.handed.change h.tracks rfl (fun _ hother _ => hother) fun _ hother => .inl hother

variable (lib) in
/-- The HAL may refuse a request only if nothing of it came back. -/
theorem Linked.handed_halReturned (h : p.Linked) {pending : PendingRequest} {ret : Int}
    (hop : p.drain.PipelineContract (.halReturned pending ret)) :
    (p.drain.next lib (.halReturned pending ret)).Handed p.results := by
  obtain ⟨⟨hpending, hcalled⟩, -, -⟩ := hop
  have hperm := atHal_perm hpending
  refine h.handed.change h.tracks rfl ?_ ?_
  · intro other hother hback
    rcases List.mem_cons.mp (hperm.mem_iff.mp hother) with rfl | hother
    · have hret : ret = statusOk := by
        by_contra hret
        exact hcalled hret hback
      refine List.mem_append_right _ ?_
      simp only [DrainState.next, if_pos hret]
      exact List.mem_cons_self
    · rcases List.mem_append.mp hother with hother | hother
      · exact List.mem_append_left _ hother
      · exact List.mem_append_right _ (mem_accepted_next hother)
  · intro other hother
    left
    apply hperm.mem_iff.mpr
    rcases List.mem_append.mp hother with hother | hother
    · exact List.mem_cons_of_mem _ (List.mem_append_left _ hother)
    · simp only [DrainState.next] at hother
      split at hother
      next =>
        rcases List.mem_cons.mp hother with rfl | hother
        · exact List.mem_cons_self
        · exact List.mem_cons_of_mem _ (List.mem_append_right _ hother)
      next => exact List.mem_cons_of_mem _ (List.mem_append_right _ hother)

theorem Linked.handed_bystander (h : p.Linked) {op : DrainOp}
    (hsubmit : ∀ world request, op ≠ .submit world request)
    (hreturned : ∀ pending ret, op ≠ .halReturned pending ret)
    (hresult : ∀ hal, op ≠ .result hal) :
    (p.next lib op).drain.Handed (p.next lib op).results := by
  rw [results_next_of_ne lib hresult]
  obtain ⟨hatHal, hsame⟩ := @next_bystander p.drain lib op hsubmit hreturned hresult
  exact h.handed.change h.tracks hsame (fun _ hother _ => hatHal ▸ hother)
    fun _ hother => .inl (hatHal ▸ hother)

/-- What the HAL returns is what it owed, once and in the order of the frames. -/
theorem Linked.handed_next (h : p.Linked) {op : DrainOp} (hop : p.drain.PipelineContract op) :
    (p.next lib op).drain.Handed (p.next lib op).results := by
  cases op with
  | result hal =>
      obtain ⟨result, hbecomes, hresults⟩ := h.results_next lib hop
      rw [hresults]
      exact h.handed.result hbecomes hop rfl rfl
  | submit world request =>
      rw [results_next_of_ne lib (by simp)]
      exact h.handed_submit lib hop
  | halReturned pending ret =>
      rw [results_next_of_ne lib (by simp)]
      exact h.handed_halReturned lib hop
  | _ => exact h.handed_bystander (by simp) (by simp) (by simp)

/-- Every step within the contract keeps the session and the batcher in line. -/
theorem Linked.next (h : p.Linked) {op : DrainOp} (hop : p.drain.PipelineContract op) :
    (p.next lib op).Linked where
  tracks := h.tracks.next hop.1 (h.named.resolve h.tracks hop.1)
  named := h.named.next h.tracks hop.1 hop.2.1
  handed := h.handed_next hop
  ascending := h.ascending_next hop
  batched := h.batched_next hop
  delivery := h.delivery_next hop
  inputs := h.inputs_next op

/-- A session before its first operation. -/
def initial (session : Session) : PipelineState := { drain := { session } }

theorem linked_initial (deviceVersion numPartialResults queueSize : Nat)
    (freeBufEarly isAELockAvailable derivePostRawSensKey : Bool)
    (physicalCameraIds : Std.ExtTreeSet String) :
    (initial (.opened deviceVersion numPartialResults queueSize freeBufEarly isAELockAvailable
      derivePostRawSensKey physicalCameraIds)).Linked where
  tracks := Tracks.initial ⟨rfl, rfl, rfl⟩
  named := ⟨fun id hid => absurd hid Std.ExtTreeMap.not_mem_empty,
    fun key hkey => absurd hkey Std.ExtTreeMap.not_mem_empty⟩
  handed := ⟨by simp [initial, atHal], .refl _, List.nodup_nil, by simp [initial],
    by simp [initial], by simp [initial]⟩
  ascending _ := List.Pairwise.nil
  batched := by simp [initial, Session.opened]
  delivery := BatcherState.deliveryInv_initial numPartialResults
  inputs _ := rfl

/-! ## What the framework has -/

/-- The frames whose buffer of a stream the framework has, outputs first. -/
def reached (p : PipelineState) (streamId : Int) : List Nat :=
  ((p.batcherState.delivered streamId).map Prod.snd ++
    p.batcherState.inputsDelivered streamId).map (·.halFrame)

/-- The frames whose buffer of a stream waits in a batch. -/
def waiting (p : PipelineState) (streamId : Int) : List Nat :=
  (p.batcherState.queued streamId).map (·.halFrame)

/-- What is in flight is owed, and what was returned is with the framework or waits in a batch,
once. Outputs are in the order of their frames. -/
structure DeliversOnce (p : PipelineState) : Prop where
  inFlight : ∀ key, key ∈ p.drain.session.mInflightBuffers ↔ p.drain.OwesBuffer key
  all : ∀ streamId frameNumber, frameNumber ∈ p.reached streamId ++ p.waiting streamId ↔
    (streamId, frameNumber) ∈ p.drain.returned
  once : ∀ streamId, (p.reached streamId ++ p.waiting streamId).Nodup
  inOrder : ∀ streamId, (((p.batcherState.delivered streamId).map Prod.snd ++
    p.batcherState.queued streamId).map (·.halFrame)).Pairwise (· < ·)
  complete : p.drain.Complete → p.drain.session.mResultBatcher.mInflightBatches = [] →
    ∀ request ∈ p.drain.accepted, ∀ key ∈ request.inflightKeys, key.2 ∈ p.reached key.1

theorem filter_bufferKeys {result : CaptureResult}
    (houtputs : ∀ buffer ∈ result.outputBuffers, buffer.halFrame = result.frameNumber)
    (hinput : result.inputBuffer.streamId ≠ -1 →
      result.inputBuffer.halFrame = result.frameNumber) (streamId : Int) :
    result.bufferKeys.filter (·.1 = streamId) =
      (result.inputsOn streamId ++ result.outputsOn streamId).map fun buffer =>
        (streamId, buffer.halFrame) := by
  rw [CaptureResult.bufferKeys, List.filter_append, List.map_append]
  congr 1
  · rw [CaptureResult.inputsOn]
    by_cases hsome : result.inputBuffer.streamId = -1
    · simp [hsome]
    · rw [if_pos hsome]
      by_cases hstream : result.inputBuffer.streamId = streamId
      · simp [← hstream, hsome, hinput hsome]
      · simp [hstream]
  · rw [List.filter_map, CaptureResult.outputsOn]
    refine List.map_congr_left fun buffer hbuffer => ?_
    obtain ⟨hmem, hstream⟩ := List.mem_filter.mp hbuffer
    rw [houtputs buffer hmem]
    exact Prod.ext (of_decide_eq_true hstream) rfl

/-- Stream by stream, the buffers received are those of the results. -/
theorem received_perm {results : List CaptureResult}
    (houtputs : ∀ result ∈ results, ∀ buffer ∈ result.outputBuffers,
      buffer.halFrame = result.frameNumber)
    (hinputs : ∀ result ∈ results, result.inputBuffer.streamId ≠ -1 →
      result.inputBuffer.halFrame = result.frameNumber) (streamId : Int) :
    ((results.flatMap (·.outputsOn streamId) ++ results.flatMap (·.inputsOn streamId)).map
      fun buffer => (streamId, buffer.halFrame)).Perm
        ((results.flatMap CaptureResult.bufferKeys).filter (·.1 = streamId)) := by
  induction results with
  | nil => exact .refl _
  | cons result rest ih =>
      have hfirst := filter_bufferKeys (houtputs result List.mem_cons_self)
        (hinputs result List.mem_cons_self) streamId
      have hrest := ih (fun other hother => houtputs other (List.mem_cons_of_mem _ hother))
        fun other hother => hinputs other (List.mem_cons_of_mem _ hother)
      rw [List.flatMap_cons, List.flatMap_cons, List.flatMap_cons, List.filter_append, hfirst]
      refine List.Perm.trans ?_ (hrest.append_left _)
      rw [← List.map_append]
      refine (List.perm_iff_count.mpr fun buffer => ?_).map _
      simp only [List.count_append]
      omega

/-- What was handed over on a stream is with the framework or waits in a batch. -/
theorem Linked.reached_perm (h : p.Linked) (streamId : Int) :
    ((p.reached streamId ++ p.waiting streamId).map (streamId, ·)).Perm
      (p.drain.returned.filter (·.1 = streamId)) := by
  have hreceived := received_perm h.handed.outputs
    (fun result hresult hsome => (h.handed.inputs result hresult hsome).1) streamId
  have hbuffers : ((p.batcherState.delivered streamId).map Prod.snd ++
      p.batcherState.inputsDelivered streamId ++ p.batcherState.queued streamId).Perm
        (p.batcherState.received streamId ++ p.batcherState.inputsReceived streamId) := by
    rw [← h.inputs streamId, ← h.delivery.balance streamId, List.append_assoc, List.append_assoc]
    exact List.perm_append_comm.append_left _
  rw [reached, waiting, ← List.map_append, List.map_map]
  exact ((hbuffers.map _).trans hreceived).trans (h.handed.passed.filter _)

theorem Linked.mem_reached (h : p.Linked) (streamId : Int) (frameNumber : Nat) :
    frameNumber ∈ p.reached streamId ++ p.waiting streamId ↔
      (streamId, frameNumber) ∈ p.drain.returned := by
  have hmem := (h.reached_perm streamId).mem_iff (a := (streamId, frameNumber))
  simpa using hmem

/-- In a linked state every buffer that was returned has been delivered, or waits, once. -/
theorem Linked.deliversOnce (h : p.Linked) : p.DeliversOnce where
  inFlight := h.tracks.buffers
  all := h.mem_reached
  once streamId := by
    have hnodup := (h.reached_perm streamId).nodup_iff.mpr (h.handed.once.filter _)
    exact hnodup.of_map _
  inOrder streamId := by
    rw [h.delivery.balance streamId]
    exact h.ascending streamId
  complete := by
    intro hcomplete hempty request hrequest key hkey
    have hreturned := (hcomplete.2 request hrequest).1 key hkey
    have hreached := (h.mem_reached key.1 key.2).mpr hreturned
    have hnone : p.waiting key.1 = [] := by
      rw [waiting, BatcherState.queued, show p.batcherState.batcher.mInflightBatches = [] from
        hempty]
      rfl
    rwa [hnone, List.append_nil] at hreached

/-! ## Under the right frame number -/

/-- A batch is registered before any of its buffers are returned, or after all of them are. -/
def BatchInTime (p : PipelineState) : DrainOp → Prop
  | .registerBatch frameNumber batchSize => p.batcherState.InTime frameNumber batchSize
  | _ => True

instance (p : PipelineState) (op : DrainOp) : Decidable (p.BatchInTime op) :=
  match op with
  | .registerBatch .. => inferInstanceAs (Decidable
      (∀ streamId ∈ _, (∀ frame, _ ≤ frame → frame < _ → _) ∨ _))
  | .submit .. | .halReturned .. | .result .. | .notifyShutter .. | .notifyError ..
  | .configureStreams .. | .updateBufferCaches _ | .disconnect | .close => isTrue trivial

/-- With batches in time the buffers stay with their frames. -/
theorem Linked.attributed_next (h : p.Linked) (hinv : p.batcherState.AttributionInv)
    {op : DrainOp} (hop : p.drain.PipelineContract op) (htime : p.BatchInTime op) :
    (p.next lib op).batcherState.AttributionInv := by
  rw [batcherState_next]
  cases hasked : p.drain.asks lib op with
  | none => exact hinv
  | some asked =>
      refine hinv.next ⟨h.deliveryContract hop hasked, ?_⟩
      rintro frameNumber batchSize rfl
      obtain rfl := eq_of_asks_registerBatch hasked
      exact htime

/-! ## Runs -/

/-- A request to a video stream and a preview stream, at the HAL. -/
def recording (frameNumber : Nat) : PendingRequest :=
  let request : CaptureRequest :=
    { frameNumber
      settings := [3, 7]
      outputBuffers := [{ streamId := 7, bufferId := 1, buffer := some 4 },
        { streamId := 8, bufferId := 1, buffer := some 5 }] }
  let halRequest : Camera3CaptureRequest :=
    { frameNumber
      settings := some [3, 7]
      inputBuffer := none
      outputBuffers := [{ stream := 7, buffer := some 4, status := 0, acquireFence := -1 },
        { stream := 8, buffer := some 5, status := 0, acquireFence := -1 }]
      physcamId := []
      physcamSettings := [] }
  { request, halRequest, allFences := [-1, -1], aeCancelTriggerNeeded := false }

def recordingResult (frameNumber : Nat) : Camera3CaptureResult :=
  { frameNumber
    result := some [3, 7]
    outputBuffers := [{ stream := 7, buffer := some 4 }, { stream := 8, buffer := some 5 }]
    partialResult := 1 }

/-- A batch of two frames, and what the HAL makes of it. -/
def recordingBatch : List DrainOp :=
  [.configureStreams { streams := [{ id := 7, usage := 0x10000 }, { id := 8 }] }
      { ret := statusOk },
    .submit (.obliging statusOk) (recording 1).request, .halReturned (recording 1) statusOk,
    .submit (.obliging statusOk) (recording 2).request, .halReturned (recording 2) statusOk,
    .registerBatch 1 2, .notifyShutter 1 0, .result (recordingResult 1), .notifyShutter 2 0,
    .result (recordingResult 2)]

end PipelineState

end LgeHardware.Camera
