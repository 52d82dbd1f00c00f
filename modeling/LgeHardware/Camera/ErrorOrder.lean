import LgeHardware.Camera.ShutterDelivery
import LgeHardware.Camera.MetadataTransparency

/-! # An error goes up behind everything queued before it

Next to its shutters a batch holds buffers and metadata. None of them is lost: what the
HAL handed over is delivered or queued at every point, as long as nothing comes for a
stream or a frame that its batch has closed. An error for a batched frame empties its
own batch and all earlier ones before it goes up itself.
-/

namespace LgeHardware.Camera

open LgeHardware.Foundation

/-! ## Buffers of streams that may be listed twice -/

namespace InflightBatch

/-- What one stream has pending at a position is collected, also when the stream is listed
again later on. -/
theorem sublist_collect {batch : InflightBatch} (hkeyed : batch.Keyed) (i : Nat) {streamId : Int}
    {streams seen : List Int} (hmem : streamId ∈ streams) (hseen : streamId ∉ seen) :
    List.Sublist ((batch.pending streamId).bind (·[i]?)).toList
      ((batch.collect i seen streams).filter (·.streamId = streamId)) := by
  induction streams generalizing seen with
  | nil => simp at hmem
  | cons first rest ih =>
      rw [collect, List.filter_append]
      by_cases heq : first = streamId
      · subst heq
        have hown : ∀ buffer ∈ ((batch.pending first).bind (·[i]?)).toList,
            buffer.streamId = first := by
          intro buffer hbuffer
          rw [Option.mem_toList, Option.bind_eq_some_iff] at hbuffer
          obtain ⟨buffers, hbuffers, hget⟩ := hbuffer
          exact hkeyed.streamId_of_pending hbuffers buffer (List.mem_of_getElem? hget)
        simp only [hseen, if_false, Option.map_id']
        rw [List.filter_eq_self.mpr (by simpa using hown)]
        exact List.sublist_append_left _ _
      · have hrest := (List.mem_cons.mp hmem).resolve_left (Ne.symm heq)
        have hseen' : streamId ∉ first :: seen := by
          rw [List.mem_cons, not_or]
          exact ⟨Ne.symm heq, hseen⟩
        exact (ih hrest hseen').trans (List.sublist_append_right _ _)

/-- Sending the buffers of a list of streams delivers all that each of them has pending. -/
theorem sublist_sendBatchBuffersLocked {batch : InflightBatch} (hkeyed : batch.Keyed)
    {streams : List Int} (hbatched : ∀ s ∈ streams, s ∈ batch.mBatchBufs) {streamId : Int}
    (hmem : streamId ∈ streams) :
    List.Sublist ((batch.pending streamId).getD [])
      ((outputsDelivered streamId
        (resultsOf (batch.sendBatchBuffersLocked streams).1)).map Prod.snd) := by
  obtain ⟨size, hsize⟩ := exists_pendingSize hbatched
  obtain ⟨buffers, hbuffers, hlength⟩ := length_le_of_pendingSize hsize hmem
  have hsent : resultsOf (batch.sendBatchBuffersLocked streams).1 =
      batch.bufferResults streams size := by
    unfold sendBatchBuffersLocked
    rw [hsize]
    cases size with
    | zero => rfl
    | succ size => simp [resultsOf_moves]
  have hpositions : buffers =
      (List.range size).flatMap fun i => ((batch.pending streamId).bind (·[i]?)).toList := by
    have hvisit := congrArg (List.map Prod.snd) (flatMap_range_getElem?
      (fun i buffer => (uint32 (batch.mFirstFrame + i), buffer)) buffers hlength)
    rw [← numbered, map_snd_numbered] at hvisit
    simpa [hbuffers, List.map_flatMap, Function.comp_def] using hvisit.symm
  have hcollected : (outputsDelivered streamId (batch.bufferResults streams size)).map Prod.snd =
      (List.range size).flatMap fun i =>
        (batch.collect i [] streams).filter (·.streamId = streamId) := by
    simp [outputsDelivered, bufferResults, List.flatMap_map, List.map_flatMap,
      CaptureResult.outputsOn, Function.comp_def]
  rw [hsent, hcollected, hbuffers, Option.getD_some, hpositions]
  -- position by position
  induction List.range size with
  | nil => exact List.Sublist.refl _
  | cons i rest ih =>
      rw [List.flatMap_cons, List.flatMap_cons]
      exact (sublist_collect hkeyed i hmem List.not_mem_nil).append ih

/-- An error delivers all buffers of a batch, if its streams are those to batch. -/
theorem sublist_flush {batch : InflightBatch} (hkeyed : batch.Keyed) (hsettled : batch.Settled)
    {streamsToBatch : List Int} (hstreams : ∀ s, s ∈ streamsToBatch ↔ s ∈ batch.mBatchBufs)
    (numPartialResults : Nat) (streamId : Int) :
    List.Sublist (batch.queuedOn streamId)
      ((outputsDelivered streamId
        (resultsOf (batch.flush streamsToBatch numPartialResults).1)).map Prod.snd) := by
  have hbufs := batch.mBatchBufs_sendBatchShutterCbsLocked
  by_cases hmem : streamId ∈ streamsToBatch
  · have hsent := sublist_sendBatchBuffersLocked hkeyed.sendBatchShutterCbsLocked
      (fun s hs => by rw [hbufs]; exact (hstreams s).mp hs) hmem
    rw [pending_sendBatchShutterCbsLocked, hsettled.pending_getD] at hsent
    simpa [flush, outputsDelivered_sendBatchMetadataLocked] using hsent
  · have hnone : batch.mBatchBufs[streamId]? = none :=
      Std.ExtTreeMap.getElem?_eq_none (mt (hstreams streamId).mpr hmem)
    simp [queuedOn, hnone]

end InflightBatch

/-! ## Metadata of the camera itself -/

/-- A result without the metadata of physical cameras, which is never queued. -/
def CaptureResult.withoutPhysical (result : CaptureResult) : CaptureResult :=
  { result with physicalCameraMetadata := [] }

theorem map_withoutPhysical {results : List CaptureResult}
    (h : ∀ result ∈ results, result.physicalCameraMetadata = []) :
    results.map (·.withoutPhysical) = results := by
  induction results with
  | nil => rfl
  | cons result rest ih =>
      have hresult : result.withoutPhysical = result := by
        rw [CaptureResult.withoutPhysical, ← h result List.mem_cons_self]
      rw [List.map_cons, hresult, ih fun r hr => h r (List.mem_cons_of_mem _ hr)]

namespace InflightBatch

/-- The section does not look at the metadata of physical cameras. -/
theorem processCaptureResult_withoutPhysical {batch : InflightBatch}
    (hremoved : batch.mRemoved = false) (result : CaptureResult) :
    batch.processCaptureResult result.withoutPhysical = batch.processCaptureResult result := by
  simp only [processCaptureResult, hremoved, Bool.false_eq_true, if_false]
  rfl

theorem physical_of_mem_sendBatchMetadataLocked {batch : InflightBatch} {idx : Nat}
    {result : CaptureResult} (h : result ∈ resultsOf (batch.sendBatchMetadataLocked idx).1) :
    result.physicalCameraMetadata = [] := by
  unfold sendBatchMetadataLocked at h
  split at h
  next => simp at h
  next =>
    simp only [resultsOf_processCaptureResult, resultsOf_nil, List.append_nil, metadataResults,
      List.mem_flatMap, List.mem_map] at h
    obtain ⟨_, _, _, _, rfl⟩ := h
    rfl

/-- A batch sends no metadata of physical cameras. -/
theorem physical_of_mem_processCaptureResult {batch : InflightBatch}
    (hremoved : batch.mRemoved = false) {result sent : CaptureResult}
    (h : sent ∈ resultsOf (batch.processCaptureResult result).1) :
    sent.physicalCameraMetadata = [] := by
  rw [processCaptureResult_of_not_removed hremoved] at h
  simp only [resultsOf_append, resultsOf_queueResult_effects, resultsOf_residue, List.nil_append,
    List.append_nil, List.mem_append] at h
  rcases h with hnon | hlast
  · unfold sendNonBatched at hnon
    split at hnon
    · simp only [resultsOf_append, resultsOf_closeAll, resultsOf_processOneCaptureResult,
        List.nil_append, List.mem_singleton] at hnon
      rw [hnon]
    · simp at hnon
  · by_cases heq : result.frameNumber = (batch.queueResult result).batch.mLastFrame
    · have hmd : ∀ r ∈ resultsOf ((batch.queueResult result).batch.sendLastMetadata result).1,
          r.physicalCameraMetadata = [] := by
        intro r hr
        unfold sendLastMetadata at hr
        split at hr
        · exact physical_of_mem_sendBatchMetadataLocked hr
        · simp at hr
      rw [sendLastFrame_of_eq heq] at hlast
      split at hlast
      · exact hmd sent hlast
      · rw [resultsOf_append, List.mem_append] at hlast
        rcases hlast with hmeta | hbuf
        · exact hmd sent hmeta
        · exact (result_of_mem_sendBatchBuffersLocked hbuf).2.2
    · rw [sendLastFrame_of_ne heq] at hlast
      simp at hlast

/-- A flush sends no metadata of physical cameras. -/
theorem physical_of_mem_flush {batch : InflightBatch} {streamsToBatch : List Int}
    {numPartialResults : Nat} {result : CaptureResult}
    (h : result ∈ resultsOf (batch.flush streamsToBatch numPartialResults).1) :
    result.physicalCameraMetadata = [] := by
  simp only [flush, resultsOf_append, resultsOf_sendBatchShutterCbsLocked, List.nil_append,
    List.mem_append] at h
  rcases h with hbuf | hmeta
  · exact (result_of_mem_sendBatchBuffersLocked hbuf).2.2
  · exact physical_of_mem_sendBatchMetadataLocked hmeta

end InflightBatch

/-! ## Nothing is lost -/

namespace BatcherState

/-- The buffers of a result are on different streams, each of a later frame than all
buffers returned on its stream before. -/
structure BuffersIncrease (s : BatcherState) (result : CaptureResult) : Prop where
  frames : ∀ buffer ∈ result.outputBuffers, buffer.halFrame = result.frameNumber
  streams : (result.outputBuffers.map (·.streamId)).Nodup
  increasing : ∀ buffer ∈ result.outputBuffers, ∀ earlier ∈ s.received buffer.streamId,
    earlier.halFrame < result.frameNumber

instance (s : BatcherState) (result : CaptureResult) : Decidable (s.BuffersIncrease result) :=
  decidable_of_iff
    ((∀ buffer ∈ result.outputBuffers, buffer.halFrame = result.frameNumber) ∧
      (result.outputBuffers.map (·.streamId)).Nodup ∧
      ∀ buffer ∈ result.outputBuffers, ∀ earlier ∈ s.received buffer.streamId,
        earlier.halFrame < result.frameNumber)
    ⟨fun ⟨hframes, hstreams, hincreasing⟩ => ⟨hframes, hstreams, hincreasing⟩,
      fun h => ⟨h.frames, h.streams, h.increasing⟩⟩

/-- Every output buffer received is delivered or queued, and delivered or queued as often. -/
def BuffersKept (s : BatcherState) : Prop :=
  ∀ streamId, (s.received streamId : Multiset StreamBuffer) ≤
    ↑((s.delivered streamId).map Prod.snd ++ s.queued streamId)

/-- The metadata received of the camera itself is delivered or queued. -/
def MetadataKept (s : BatcherState) : Prop :=
  metadataOf ((resultsOf s.effects).map (·.withoutPhysical)) + s.queuedMetadata =
    metadataOf (s.results.map (·.withoutPhysical))

/-- A stream is marked delivered in a batch only when the buffer of its last frame came. -/
structure BatchBuffers (s : BatcherState) (batch : InflightBatch) : Prop where
  keyed : batch.Keyed
  settled : batch.Settled
  closed : ∀ (streamId : Int) (bb : BufferBatch), batch.mBatchBufs[streamId]? = some bb →
    bb.mDelivered = true → s.Returned streamId batch.mLastFrame
  streams : ∀ streamId, streamId ∈ s.batcher.mStreamsToBatch ↔ streamId ∈ batch.mBatchBufs

structure KeptInv (s : BatcherState) : Prop where
  buffers : ∀ batch ∈ s.batcher.mInflightBatches, s.BatchBuffers batch
  metadata : ∀ batch ∈ s.batcher.mInflightBatches, s.BatchMetadata batch
  buffersKept : s.BuffersKept
  metadataKept : s.MetadataKept

section

variable {s s' : BatcherState} {batch : InflightBatch} {result : CaptureResult}

theorem BatchBuffers.mono (h : s.BatchBuffers batch)
    (hreceived : ∀ streamId, ∀ buffer ∈ s.received streamId, buffer ∈ s'.received streamId)
    (hstreams : s'.batcher.mStreamsToBatch = s.batcher.mStreamsToBatch) :
    s'.BatchBuffers batch := by
  refine ⟨h.keyed, h.settled, ?_, by rw [hstreams]; exact h.streams⟩
  intro streamId bb hbb hdelivered
  obtain ⟨buffer, hbuffer, hframe⟩ := h.closed streamId bb hbb hdelivered
  exact ⟨buffer, hreceived streamId buffer hbuffer, hframe⟩

/-- The queues and the progress of a batch decide. -/
theorem BatchBuffers.congr {after : InflightBatch} (h : s.BatchBuffers batch)
    (hbufs : after.mBatchBufs = batch.mBatchBufs)
    (hlast : after.mLastFrame = batch.mLastFrame) : s.BatchBuffers after := by
  refine ⟨?_, ?_, ?_, ?_⟩
  · unfold InflightBatch.Keyed
    rw [hbufs]
    exact h.keyed
  · unfold InflightBatch.Settled
    rw [hbufs]
    exact h.settled
  · rw [hbufs, hlast]
    exact h.closed
  · rw [hbufs]
    exact h.streams

theorem mem_received_processCaptureResult {streamId : Int} {buffer : StreamBuffer}
    (h : buffer ∈ s.received streamId) :
    buffer ∈ (s.next (.processCaptureResult result)).received streamId := by
  rw [received_processCaptureResult]
  exact List.mem_append_left _ h

/-- The streams of a result are still open in the batch of its frame. -/
theorem BatchBuffers.isOpen (h : s.BatchBuffers batch) (hresult : s.BuffersIncrease result)
    (hlast : result.frameNumber ≤ batch.mLastFrame) : batch.Open result := by
  intro streamId bb hout hbb
  rw [← Bool.not_eq_true]
  intro hdelivered
  obtain ⟨earlier, hearlier, hframe⟩ := h.closed streamId bb hbb hdelivered
  obtain ⟨buffer, hbuffer⟩ := List.exists_mem_of_ne_nil _ hout
  obtain ⟨hmem, rfl⟩ := InflightBatch.mem_outputsOn.mp hbuffer
  have hlt := hresult.increasing buffer hmem earlier hearlier
  omega

/-- The batch of a result keeps its invariant through the section. -/
theorem BatchBuffers.processCaptureResult (h : s.BatchBuffers batch)
    (hpresent : batch.mRemoved = false) (hresult : s.BuffersIncrease result)
    (hlast : result.frameNumber ≤ batch.mLastFrame)
    (hstreams : (s.next (.processCaptureResult result)).batcher.mStreamsToBatch =
      s.batcher.mStreamsToBatch) :
    (s.next (.processCaptureResult result)).BatchBuffers
      (batch.processCaptureResult result).2 := by
  have hopen := h.isOpen hresult hlast
  have hend : (batch.processCaptureResult result).2.mLastFrame = batch.mLastFrame := by
    rw [InflightBatch.processCaptureResult_frame]
  refine ⟨h.keyed.processCaptureResult hpresent h.settled hopen,
    h.settled.processCaptureResult hpresent hopen, ?_, ?_⟩
  · intro streamId bb hbb hdelivered
    rw [hend]
    rw [InflightBatch.processCaptureResult_mBatchBufs hpresent h.settled hopen] at hbb
    split at hbb
    next hfilled =>
      obtain ⟨heq, -, hout⟩ := hfilled
      obtain ⟨buffer, hbuffer⟩ := List.exists_mem_of_ne_nil _ hout
      refine ⟨buffer, ?_, ?_⟩
      · rw [received_processCaptureResult]
        exact List.mem_append_right _ hbuffer
      · rw [hresult.frames buffer (InflightBatch.mem_outputsOn.mp hbuffer).1, heq]
    next =>
      obtain ⟨old, hold, rfl⟩ := Option.map_eq_some_iff.mp hbb
      obtain ⟨buffer, hbuffer, hframe⟩ := h.closed streamId old hold hdelivered
      exact ⟨buffer, mem_received_processCaptureResult hbuffer, hframe⟩
  · intro streamId
    rw [hstreams, InflightBatch.mem_processCaptureResult_mBatchBufs hpresent h.settled hopen]
    exact h.streams streamId

/-- A batch removed as complete takes nothing with it. -/
theorem KeptInv.of_removal {batches removed : List InflightBatch}
    (hsplit : batches = removed ++ s.batcher.mInflightBatches)
    (hcomplete : ∀ b ∈ removed, b.allDelivered = true)
    (hbuffers : ∀ b ∈ batches, s.BatchBuffers b) (hmetadata : ∀ b ∈ batches, s.BatchMetadata b)
    (hbuffersKept : ∀ streamId, (s.received streamId : Multiset StreamBuffer) ≤
      ↑((s.delivered streamId).map Prod.snd ++ batches.flatMap (·.queuedOn streamId)))
    (hmetadataKept : metadataOf ((resultsOf s.effects).map (·.withoutPhysical)) +
      queuedIn batches = metadataOf (s.results.map (·.withoutPhysical))) : s.KeptInv := by
  subst hsplit
  refine ⟨fun b hb => hbuffers b (List.mem_append_right _ hb),
    fun b hb => hmetadata b (List.mem_append_right _ hb), ?_, ?_⟩
  · intro streamId
    have hdropped : removed.flatMap (·.queuedOn streamId) = [] := by
      rw [List.flatMap_eq_nil_iff]
      exact fun b hb => ResultBatcher.queuedOn_of_allDelivered
        (hbuffers b (List.mem_append_left _ hb)).settled (hcomplete b hb) streamId
    have hkept := hbuffersKept streamId
    rw [List.flatMap_append, hdropped] at hkept
    exact hkept
  · have hdropped : queuedIn removed = 0 := queuedIn_eq_zero fun b hb =>
      (hmetadata b (List.mem_append_left _ hb)).queuedMetadata_eq_nil (hcomplete b hb)
    rw [queuedIn_append, hdropped, zero_add] at hmetadataKept
    exact hmetadataKept

/-! ### The operations -/

/-- A new batch holds nothing yet. -/
theorem KeptInv.registerBatch (hinv : s.KeptInv) (frameNumber batchSize : Nat) :
    (s.next (.registerBatch frameNumber batchSize)).KeptInv := by
  have hnew : ∀ (streamId : Int) (bb : BufferBatch),
      (s.batcher.newBatch frameNumber batchSize).mBatchBufs[streamId]? = some bb → bb = {} := by
    intro streamId bb hbb
    rw [ResultBatcher.newBatch_mBatchBufs] at hbb
    split at hbb
    · exact (Option.some.inj hbb).symm
    · cases hbb
  have hnone : ∀ streamId,
      (s.batcher.newBatch frameNumber batchSize).queuedOn streamId = [] := by
    intro streamId
    unfold InflightBatch.queuedOn
    cases hbb : (s.batcher.newBatch frameNumber batchSize).mBatchBufs[streamId]? with
    | none => rfl
    | some bb => rw [hnew streamId bb hbb]; rfl
  -- The new batch has empty entries for all streams and keeps no metadata.
  refine ⟨?_, ?_, ?_, ?_⟩
  · intro b hb
    rcases List.mem_append.mp hb with hold | hb
    · exact (hinv.buffers b hold).mono (fun _ _ h => h) rfl
    · rw [List.mem_singleton.mp hb]
      refine ⟨?_, ?_, ?_, ?_⟩
      · intro streamId bb hbb
        rw [hnew streamId bb hbb]
        simp
      · intro streamId bb hbb hdelivered
        rw [hnew streamId bb hbb]
      · intro streamId bb hbb hdelivered
        rw [hnew streamId bb hbb] at hdelivered
        cases hdelivered
      · intro streamId
        rw [Std.ExtTreeMap.mem_iff_isSome_getElem?, ResultBatcher.newBatch_mBatchBufs]
        show streamId ∈ s.batcher.mStreamsToBatch ↔ _
        split <;> simp [*]
  · intro b hb
    rcases List.mem_append.mp hb with hold | hb
    · exact (hinv.metadata b hold).congr rfl fun _ h => h
    · rw [List.mem_singleton.mp hb]
      exact batchMetadata_newBatch s frameNumber batchSize
  · intro streamId
    have hkept := hinv.buffersKept streamId
    have hqueued : (s.next (.registerBatch frameNumber batchSize)).queued streamId =
        s.queued streamId := by
      simp [queued, next, ResultBatcher.registerBatch, hnone]
    rw [hqueued]
    exact hkept
  · have hqueued : (s.next (.registerBatch frameNumber batchSize)).queuedMetadata =
        s.queuedMetadata := queuedMetadata_registerBatch s frameNumber batchSize
    rw [MetadataKept, hqueued]
    exact hinv.metadataKept

/-- A result outside of all batches is passed on as it is. -/
theorem KeptInv.processUnbatched (hinv : s.KeptInv)
    (heq : s.batcher.processCaptureResult result = (processOneCaptureResult result, s.batcher)) :
    (s.next (.processCaptureResult result)).KeptInv := by
  have hnext : s.next (.processCaptureResult result) =
      { s with
        effects := s.effects ++ processOneCaptureResult result
        results := s.results ++ [result] } := by
    simp only [next, heq]
  have hreceived : ∀ streamId, (s.next (.processCaptureResult result)).received streamId =
      s.received streamId ++ result.outputsOn streamId := fun _ => received_processCaptureResult _
  refine ⟨?_, ?_, ?_, ?_⟩
  · intro b hb
    have hold : b ∈ s.batcher.mInflightBatches := by rwa [hnext] at hb
    exact (hinv.buffers b hold).mono (fun _ _ h => mem_received_processCaptureResult h)
      (by rw [hnext])
  · intro b hb
    have hold : b ∈ s.batcher.mInflightBatches := by rwa [hnext] at hb
    exact (hinv.metadata b hold).congr (by rw [hnext]) fun _ h => List.mem_append_left _ h
  · intro streamId
    have hkept := hinv.buffersKept streamId
    have hdelivered : ((s.next (.processCaptureResult result)).delivered streamId).map Prod.snd =
        (s.delivered streamId).map Prod.snd ++ result.outputsOn streamId := by
      simp [delivered, hnext, outputsDelivered_singleton, Function.comp_def]
    have hqueued : (s.next (.processCaptureResult result)).queued streamId = s.queued streamId := by
      rw [hnext]
      rfl
    rw [hreceived, hdelivered, hqueued, List.append_assoc]
    simp only [← Multiset.coe_add] at hkept ⊢
    rw [add_left_comm, add_comm (_ : Multiset StreamBuffer) (↑(result.outputsOn streamId))]
    exact add_le_add_right hkept _
  · have hkept : metadataOf ((resultsOf s.effects).map (·.withoutPhysical)) +
        queuedIn s.batcher.mInflightBatches = metadataOf (s.results.map (·.withoutPhysical)) :=
      hinv.metadataKept
    rw [MetadataKept, hnext]
    simp only [queuedMetadata, resultsOf_append, resultsOf_processOneCaptureResult,
      List.map_append, metadataOf_append, ← hkept]
    exact add_right_comm _ _ _

/-- A result in a batch is queued or sent with what the batch holds, and only complete batches are
removed. -/
theorem KeptInv.processBatched (hinv : s.KeptInv) (hresult : s.BuffersIncrease result)
    (hordered : s.MetadataInOrder result) {before after removed : List InflightBatch}
    (hlist : s.batcher.mInflightBatches = before ++ batch :: after)
    (hlast : result.frameNumber ≤ batch.mLastFrame)
    (hsplit : before ++ (batch.processCaptureResult result).2 :: after =
      removed ++ (s.batcher.processCaptureResult result).2.mInflightBatches)
    (hcomplete : ∀ b ∈ removed, b.allDelivered = true)
    (hstreams : (s.batcher.processCaptureResult result).2.mStreamsToBatch =
      s.batcher.mStreamsToBatch)
    (hpartials : (s.batcher.processCaptureResult result).2.mNumPartialResults =
      s.batcher.mNumPartialResults)
    (heffects : resultsOf (s.batcher.processCaptureResult result).1 =
      resultsOf (batch.processCaptureResult result).1) :
    (s.next (.processCaptureResult result)).KeptInv := by
  have hmem : batch ∈ s.batcher.mInflightBatches := by simp [hlist]
  have hbuffers := hinv.buffers batch hmem
  have hmetadata := hinv.metadata batch hmem
  have hsent : resultsOf (s.next (.processCaptureResult result)).effects =
      resultsOf s.effects ++ resultsOf (batch.processCaptureResult result).1 := by
    simp only [next, resultsOf_append, heffects]
  -- One goal for each part of the invariant: the buffers and the metadata of the batches that are
  -- left, then the balance of the buffers and that of the metadata.
  apply KeptInv.of_removal hsplit hcomplete
  · refine ResultBatcher.forall_mem_replaced hlist ?_ ?_
    · exact fun b hb =>
        (hinv.buffers b hb).mono (fun _ _ h => mem_received_processCaptureResult h) hstreams
    · exact hbuffers.processCaptureResult hmetadata.present hresult hlast hstreams
  · refine ResultBatcher.forall_mem_replaced hlist ?_ ?_
    · exact fun b hb =>
        (hinv.metadata b hb).congr hpartials fun _ h => List.mem_append_left _ h
    · exact hmetadata.processCaptureResult hordered hlast hpartials
  · intro streamId
    have hkept : (s.received streamId : Multiset StreamBuffer) ≤
        ↑((s.delivered streamId).map Prod.snd ++
          s.batcher.mInflightBatches.flatMap (·.queuedOn streamId)) := hinv.buffersKept streamId
    have hconserves := InflightBatch.processCaptureResult_conserves hmetadata.present
      hbuffers.keyed hbuffers.settled hresult.streams (hbuffers.isOpen hresult hlast) streamId
    have hdelivered : ((s.next (.processCaptureResult result)).delivered streamId).map Prod.snd =
        (s.delivered streamId).map Prod.snd ++ (outputsDelivered streamId
          (resultsOf (batch.processCaptureResult result).1)).map Prod.snd := by
      simp only [delivered, hsent, outputsDelivered_append, List.map_append]
    have hmultiset := congrArg (Multiset.ofList) hconserves
    rw [hlist] at hkept
    rw [received_processCaptureResult, hdelivered]
    simp only [List.flatMap_append, List.flatMap_cons, ← Multiset.coe_add] at hkept hmultiset ⊢
    calc
      _ ≤ _ := add_le_add_left hkept _
      _ = ↑((s.delivered streamId).map Prod.snd) + (↑(before.flatMap (·.queuedOn streamId)) +
          ↑(after.flatMap (·.queuedOn streamId))) +
            (↑(batch.queuedOn streamId) + ↑(result.outputsOn streamId)) := by abel
      _ = _ := by
        rw [← hmultiset]
        abel
  · have hkept : metadataOf ((resultsOf s.effects).map (·.withoutPhysical)) +
        queuedIn s.batcher.mInflightBatches = metadataOf (s.results.map (·.withoutPhysical)) :=
      hinv.metadataKept
    have hphysical : result.withoutPhysical.physicalCameraMetadata = [] := rfl
    have hconserves := InflightBatch.processCaptureResult_conserves_metadata hmetadata.present
      hmetadata.substantial hphysical
    rw [InflightBatch.processCaptureResult_withoutPhysical hmetadata.present] at hconserves
    have hown : (resultsOf (batch.processCaptureResult result).1).map (·.withoutPhysical) =
        resultsOf (batch.processCaptureResult result).1 := map_withoutPhysical fun _ hr =>
      InflightBatch.physical_of_mem_processCaptureResult hmetadata.present hr
    have hreceived : metadataOf ((s.next (.processCaptureResult result)).results.map
        (·.withoutPhysical)) =
        metadataOf (s.results.map (·.withoutPhysical)) + metadataOf [result.withoutPhysical] := by
      simp only [next, List.map_append, List.map_cons, List.map_nil, metadataOf_append]
    rw [hlist, queuedIn_append, queuedIn_cons] at hkept
    rw [hsent, List.map_append, metadataOf_append, hown, hreceived, ← hkept, queuedIn_append,
      queuedIn_cons]
    calc
      _ = metadataOf ((resultsOf s.effects).map (·.withoutPhysical)) + queuedIn before +
          queuedIn after + (metadataOf (resultsOf (batch.processCaptureResult result).1) +
            ((batch.processCaptureResult result).2.queuedMetadata : Multiset MetadataItem)) := by
        abel
      _ = metadataOf ((resultsOf s.effects).map (·.withoutPhysical)) + queuedIn before +
          queuedIn after + ((batch.queuedMetadata : Multiset MetadataItem) +
            metadataOf [result.withoutPhysical]) := by rw [hconserves]
      _ = _ := by abel

/-- A shutter moves neither buffers nor metadata. -/
theorem KeptInv.notifyShutter (hinv : s.KeptInv) (frameNumber : Nat) (timestamp : Int) :
    (s.next (.notify (.shutter frameNumber timestamp))).KeptInv := by
  have hpresent := fun b hb => (hinv.metadata b hb).present
  obtain ⟨effects, batcher, heq, hsilent, hstreams, hpartials, hcases⟩ :=
    s.batcher.notify_shutter_cases hpresent frameNumber timestamp
  have hnext : s.next (.notify (.shutter frameNumber timestamp)) =
      { s with batcher, effects := s.effects ++ effects } := by
    simp only [next, heq]
  have hsent : resultsOf (s.effects ++ effects) = resultsOf s.effects := by
    rw [resultsOf_append, hsilent, List.append_nil]
  rw [hnext]
  have hbuffers : ∀ b ∈ s.batcher.mInflightBatches,
      ({ s with batcher, effects := s.effects ++ effects } : BatcherState).BatchBuffers b :=
    fun b hb => (hinv.buffers b hb).mono (fun _ _ h => h) hstreams
  have hmetadata : ∀ b ∈ s.batcher.mInflightBatches,
      ({ s with batcher, effects := s.effects ++ effects } : BatcherState).BatchMetadata b :=
    fun b hb => (hinv.metadata b hb).congr hpartials fun _ h => h
  rcases hcases with hsame | ⟨before, batch, after, removed, hlist, hsplit, hcomplete⟩
  · have hsplit : s.batcher.mInflightBatches = [] ++ batcher.mInflightBatches := hsame.symm
    refine KeptInv.of_removal hsplit (by simp) hbuffers hmetadata ?_ ?_
    · intro streamId
      simp only [delivered, hsent]
      exact hinv.buffersKept streamId
    · rw [hsent]
      exact hinv.metadataKept
  · -- the section touches only what the batch holds of shutters
    rw [InflightBatch.notifyShutter_frame] at hsplit
    refine KeptInv.of_removal hsplit hcomplete ?_ ?_ ?_ ?_
    · apply ResultBatcher.forall_mem_replaced hlist hbuffers
      exact (hbuffers batch (by simp [hlist])).congr rfl rfl
    · apply ResultBatcher.forall_mem_replaced hlist hmetadata
      have h := hmetadata batch (by simp [hlist])
      exact ⟨h.present, h.partials, h.substantial, h.indexes, h.swept, h.final⟩
    · intro streamId
      have hkept : (s.received streamId : Multiset StreamBuffer) ≤
          ↑((s.delivered streamId).map Prod.snd ++
            s.batcher.mInflightBatches.flatMap (·.queuedOn streamId)) := hinv.buffersKept streamId
      rw [hlist, List.flatMap_append, List.flatMap_cons] at hkept
      rw [List.flatMap_append, List.flatMap_cons]
      simp only [delivered, hsent]
      exact hkept
    · have hkept : metadataOf ((resultsOf s.effects).map (·.withoutPhysical)) +
          queuedIn s.batcher.mInflightBatches =
            metadataOf (s.results.map (·.withoutPhysical)) := hinv.metadataKept
      rw [hlist, queuedIn_append, queuedIn_cons] at hkept
      rw [hsent, queuedIn_append, queuedIn_cons]
      exact hkept

/-- The error loop delivers every buffer queued in the batches it removes. -/
theorem sublist_flatMap_flush {flushed : List InflightBatch}
    (hbuffers : ∀ b ∈ flushed, s.BatchBuffers b) (streamId : Int) :
    List.Sublist (flushed.flatMap (·.queuedOn streamId))
      ((outputsDelivered streamId (flushed.flatMap fun b => resultsOf
        (b.flush s.batcher.mStreamsToBatch s.batcher.mNumPartialResults).1)).map Prod.snd) := by
  induction flushed with
  | nil => exact List.Sublist.refl _
  | cons b rest ih =>
      have hb := hbuffers b List.mem_cons_self
      rw [List.flatMap_cons, List.flatMap_cons, outputsDelivered_append, List.map_append]
      exact (InflightBatch.sublist_flush hb.keyed hb.settled hb.streams _ streamId).append
        (ih fun b hb => hbuffers b (List.mem_cons_of_mem _ hb))

/-- What the error loop sends is all that the batches it removes held. -/
theorem KeptInv.flushes (hinv : s.KeptInv) {n : Nat} (hn : n ≤ s.batcher.mInflightBatches.length)
    {effects : List Effect} {removed : List InflightBatch} {batcher : ResultBatcher}
    (h : s.batcher.flushBatches n = some (effects, removed, batcher)) :
    (∀ streamId, ((s.batcher.mInflightBatches.take n).flatMap (·.queuedOn streamId)).Sublist
      ((outputsDelivered streamId (resultsOf effects)).map Prod.snd)) ∧
    metadataOf (resultsOf effects) = queuedIn (s.batcher.mInflightBatches.take n) ∧
    ∀ result ∈ resultsOf effects, result.physicalCameraMetadata = [] := by
  obtain ⟨_, _, _, heq, -, -, hresults⟩ := ResultBatcher.flushBatches_eq_some hn
  cases h.symm.trans heq
  have hmem : ∀ b ∈ s.batcher.mInflightBatches.take n, b ∈ s.batcher.mInflightBatches :=
    fun b hb => List.mem_of_mem_take hb
  rw [hresults]
  refine ⟨?_, ?_, ?_⟩
  · intro streamId
    exact sublist_flatMap_flush (fun b hb => hinv.buffers b (hmem b hb)) streamId
  · exact metadataOf_flatMap_flush hinv.metadata hmem
  · intro result hresult
    obtain ⟨b, -, hsent⟩ := List.mem_flatMap.mp hresult
    exact InflightBatch.physical_of_mem_flush hsent

/-- An error flushes what the batches up to its own hold. -/
theorem KeptInv.notifyError (hinv : s.KeptInv) (frameNumber : Nat) (errorStreamId : Int)
    (errorCode : ErrorCode) :
    (s.next (.notify (.error frameNumber errorStreamId errorCode))).KeptInv := by
  rcases s.batcher.notify_error_split frameNumber errorStreamId errorCode with
    ⟨-, heq⟩ | ⟨i, batch, effects, removed, fds, -, hlt, hflush, heq⟩
  · have hnext : s.next (.notify (.error frameNumber errorStreamId errorCode)) =
        { s with
          effects := s.effects ++
            notifySingleMsg (.error frameNumber errorStreamId errorCode) } := by
      simp only [next, heq]
    rw [hnext]
    refine ⟨?_, ?_, ?_, ?_⟩
    · exact fun b hb => (hinv.buffers b hb).mono (fun _ _ h => h) rfl
    · exact fun b hb => (hinv.metadata b hb).congr rfl fun _ h => h
    · intro streamId
      simp only [delivered, resultsOf_append, resultsOf_notifySingleMsg, List.append_nil]
      exact hinv.buffersKept streamId
    · simp only [MetadataKept, resultsOf_append, resultsOf_notifySingleMsg, List.append_nil]
      exact hinv.metadataKept
  · have hnext : s.next (.notify (.error frameNumber errorStreamId errorCode)) =
        { s with
          batcher := { s.batcher with
            mInflightBatches := s.batcher.mInflightBatches.drop (i + 1) }
          effects := s.effects ++ (effects ++
            notifySingleMsg (.error frameNumber errorStreamId errorCode) ++ closeAll fds) } := by
      simp only [next, heq]
    -- The batches up to that of the frame are flushed and leave the list. All the buffers and all
    -- the metadata that they have queued are sent.
    obtain ⟨hsublist, hmetadata, hphysical⟩ := hinv.flushes hlt hflush
    have hdeque := List.take_append_drop (i + 1) s.batcher.mInflightBatches
    rw [hnext]
    refine ⟨?_, ?_, ?_, ?_⟩
    · exact fun b hb =>
        (hinv.buffers b (List.mem_of_mem_drop hb)).mono (fun _ _ h => h) rfl
    · exact fun b hb => (hinv.metadata b (List.mem_of_mem_drop hb)).congr rfl fun _ h => h
    · intro streamId
      have hkept : (s.received streamId : Multiset StreamBuffer) ≤
          ↑((s.delivered streamId).map Prod.snd ++
            s.batcher.mInflightBatches.flatMap (·.queuedOn streamId)) := hinv.buffersKept streamId
      have hsent : ((s.batcher.mInflightBatches.take (i + 1)).flatMap (·.queuedOn streamId) :
          Multiset StreamBuffer) ≤
            ↑((outputsDelivered streamId (resultsOf effects)).map Prod.snd) :=
        Multiset.coe_le.mpr (hsublist streamId).subperm
      rw [← hdeque, List.flatMap_append] at hkept
      refine hkept.trans ?_
      simp only [delivered, queued, resultsOf_append, resultsOf_notifySingleMsg,
        resultsOf_closeAll, List.append_nil, outputsDelivered_append, List.map_append,
        ← Multiset.coe_add, add_assoc]
      exact add_le_add_right (add_le_add_left hsent _) _
    · have hkept : metadataOf ((resultsOf s.effects).map (·.withoutPhysical)) +
          queuedIn s.batcher.mInflightBatches =
            metadataOf (s.results.map (·.withoutPhysical)) := hinv.metadataKept
      rw [← hdeque, queuedIn_append, ← hmetadata] at hkept
      simp only [MetadataKept, queuedMetadata, resultsOf_append, resultsOf_notifySingleMsg,
        resultsOf_closeAll, List.append_nil, List.map_append, metadataOf_append,
        map_withoutPhysical hphysical]
      rw [← hkept, add_assoc]

end

end BatcherState

namespace NotifyState

/-- The HAL returns the buffers of each stream and the metadata in frame order, and sends a
shutter only when no batch of earlier frames still holds shutters. -/
def HalInOrder (s : NotifyState) : BatcherOp → Prop
  | .processCaptureResult result => s.BuffersIncrease result ∧ s.MetadataInOrder result
  | op => s.NoneHeldBack op

instance (s : NotifyState) (op : BatcherOp) : Decidable (s.ShuttersIncrease op) := by
  rcases op with _ | _ | _ | (_ | _) <;> unfold ShuttersIncrease <;> infer_instance

instance (s : NotifyState) (op : BatcherOp) : Decidable (s.HalInOrder op) := by
  rcases op with _ | _ | _ | (_ | _) <;> unfold HalInOrder <;> unfold NoneHeldBack <;>
    infer_instance

instance (s : NotifyState) : Decidable s.ShuttersInOrder := inferInstanceAs (Decidable (_ = _))

/-- An error for a batched frame goes up behind all shutters, buffers and metadata that are
queued in its batch and in all earlier ones, and takes these batches out of the deque. -/
def FlushesBeforeErrors (s : NotifyState) : Prop :=
  ∀ frameNumber errorStreamId errorCode i batch,
    s.batcher.getBatch frameNumber = some (i, batch) →
      ∃ effects fds batcher,
        s.batcher.notify (.error frameNumber errorStreamId errorCode) =
          some (effects ++ notifySingleMsg (.error frameNumber errorStreamId errorCode) ++
            closeAll fds, batcher) ∧
        shuttersOf effects =
          (s.batcher.mInflightBatches.take (i + 1)).flatMap (·.mShutterMsgs) ∧
        (∀ streamId,
          ((s.batcher.mInflightBatches.take (i + 1)).flatMap (·.queuedOn streamId)).Sublist
            ((outputsDelivered streamId (resultsOf effects)).map Prod.snd)) ∧
        metadataOf (resultsOf effects) = queuedIn (s.batcher.mInflightBatches.take (i + 1)) ∧
        batcher.mInflightBatches = s.batcher.mInflightBatches.drop (i + 1)

/-- Shutters are delivered once and in order, no buffer or metadata is lost, and errors go
up behind what was queued before them. -/
structure DeliversInOrder (s : NotifyState) : Prop where
  shutters : s.ShuttersInOrder
  buffers : s.BuffersKept
  metadata : s.MetadataKept
  errors : s.FlushesBeforeErrors

theorem DeliversInOrder.of_inv {s : NotifyState} (hshutters : s.ShutterInv)
    (hkept : s.KeptInv) : s.DeliversInOrder := by
  refine ⟨hshutters.balance, hkept.buffersKept, hkept.metadataKept, ?_⟩
  intro frameNumber errorStreamId errorCode i batch hget
  rcases s.batcher.notify_error_split frameNumber errorStreamId errorCode with
    ⟨hnone, -⟩ | ⟨j, found, effects, removed, fds, hfound, hlt, hflush, heq⟩
  · rw [hget] at hnone
    cases hnone
  · cases hget.symm.trans hfound
    obtain ⟨hbuffers, hmetadata, -⟩ := hkept.flushes hlt hflush
    exact ⟨effects, fds, _, heq, hshutters.flushes hflush, hbuffers, hmetadata, rfl⟩

/-- Every operation keeps the invariant as long as the HAL keeps its order. -/
theorem kept_next {s : NotifyState} (hinv : s.KeptInv) {op : BatcherOp}
    (hop : s.ShuttersIncrease op) (hhal : s.HalInOrder op) : (s.next op).KeptInv := by
  cases op with
  | setBatchedStreams streamsToBatch => exact hop.elim
  | registerBatch frameNumber batchSize => exact hinv.registerBatch frameNumber batchSize
  | processCaptureResult result =>
      have hpresent := fun b hb => (hinv.metadata b hb).present
      rcases s.batcher.processCaptureResult_cases hpresent result with
        ⟨-, heq⟩ | ⟨before, batch, after, removed, hlist, -, hlast, hsplit, hcomplete, hstreams,
          hpartials, heffects⟩
      · exact hinv.processUnbatched heq
      · exact hinv.processBatched hhal.1 hhal.2 hlist hlast hsplit hcomplete hstreams hpartials
          heffects
  | notify msg =>
      cases msg with
      | shutter frameNumber timestamp => exact hinv.notifyShutter frameNumber timestamp
      | error frameNumber errorStreamId errorCode =>
          exact hinv.notifyError frameNumber errorStreamId errorCode

theorem keptInv_initial (numPartialResults : Nat) (streamsToBatch : List Int) :
    (initial numPartialResults streamsToBatch).KeptInv :=
  ⟨by simp [initial], by simp [initial], fun _ => le_rfl, rfl⟩

/-- In every run in which the HAL keeps the order, shutters are delivered once and in order,
and every error for a batched frame goes up behind all that was queued until then in its
batch and in all earlier ones. -/
theorem deliversInOrder_run (numPartialResults : Nat) (streamsToBatch : List Int)
    (ops : List BatcherOp)
    (hops : Admits next (fun s op => s.ShuttersIncrease op ∧ s.HalInOrder op)
      (initial numPartialResults streamsToBatch) ops) :
    (run next (initial numPartialResults streamsToBatch) ops).DeliversInOrder := by
  have hinv : (run next (initial numPartialResults streamsToBatch) ops).ShutterInv ∧
      (run next (initial numPartialResults streamsToBatch) ops).KeptInv := by
    apply hops.invariant fun s => s.ShutterInv ∧ s.KeptInv
    · rintro s op ⟨hshutters, hkept⟩ ⟨hop, hhal⟩
      have hheld : s.NoneHeldBack op := by
        cases op with
        | processCaptureResult result => trivial
        | setBatchedStreams streamsToBatch => exact hhal
        | registerBatch frameNumber batchSize => exact hhal
        | notify msg => exact hhal
      exact ⟨hshutters.next hop hheld, kept_next hkept hop hhal⟩
    · exact ⟨shutterInv_initial numPartialResults streamsToBatch,
        keptInv_initial numPartialResults streamsToBatch⟩
  exact DeliversInOrder.of_inv hinv.1 hinv.2

/-- A result with one buffer on stream 7 and metadata. -/
def oneBuffer (frameNumber bufferId : Nat) : CaptureResult :=
  { frameNumber
    result := [UInt8.ofNat frameNumber]
    partialResult := 1
    outputBuffers := [{ streamId := 7, bufferId, halFrame := frameNumber }]
    inputBuffer := { streamId := -1 } }

/-- Two batches on stream 7; an error for the second one flushes what both hold. -/
def errorBehindTwoBatches : List BatcherOp :=
  [.registerBatch 1 2, .notify (.shutter 1 10), .processCaptureResult (oneBuffer 1 11),
    .registerBatch 3 2, .notify (.shutter 2 20), .processCaptureResult (oneBuffer 2 12),
    .notify (.shutter 3 30), .processCaptureResult (oneBuffer 3 13),
    .notify (.error 4 (-1) .errorRequest), .notify (.shutter 5 50)]

theorem deliversInOrder_run_errorBehindTwoBatches :
    Admits next (fun s op => s.ShuttersIncrease op ∧ s.HalInOrder op) (initial 1 [7])
        errorBehindTwoBatches ∧
      (run next (initial 1 [7]) errorBehindTwoBatches).DeliversInOrder := by
  have hops : Admits next (fun s op => s.ShuttersIncrease op ∧ s.HalInOrder op) (initial 1 [7])
      errorBehindTwoBatches := by decide
  exact ⟨hops, deliversInOrder_run 1 [7] errorBehindTwoBatches hops⟩

/-- Increasing shutters alone are not enough. A batch whose last shutter is skipped is
overtaken by a later one; and a buffer or metadata that comes behind the last frame of its
batch stays behind when an error goes up. -/
theorem shuttersIncrease_notInOrder :
    (Admits next ShuttersIncrease (initial 1 [])
        [.registerBatch 1 2, .notify (.shutter 1 10), .notify (.shutter 3 30)] ∧
      ¬ (run next (initial 1 [])
        [.registerBatch 1 2, .notify (.shutter 1 10), .notify (.shutter 3 30)]).ShuttersInOrder) ∧
    Admits next ShuttersIncrease (initial 1 [7])
        [.registerBatch 1 2, .processCaptureResult (oneBuffer 2 12),
          .processCaptureResult (oneBuffer 1 11), .notify (.error 1 (-1) .errorRequest)] ∧
      (∃ buffer ∈ (run next (initial 1 [7])
          [.registerBatch 1 2, .processCaptureResult (oneBuffer 2 12),
            .processCaptureResult (oneBuffer 1 11)]).queued 7,
        buffer ∉ ((run next (initial 1 [7])
          [.registerBatch 1 2, .processCaptureResult (oneBuffer 2 12),
            .processCaptureResult (oneBuffer 1 11),
            .notify (.error 1 (-1) .errorRequest)]).delivered 7).map Prod.snd) ∧
      ∃ item ∈ (run next (initial 1 [7])
          [.registerBatch 1 2, .processCaptureResult (oneBuffer 2 12),
            .processCaptureResult (oneBuffer 1 11)]).queuedMetadata,
        item ∉ metadataOf (resultsOf (run next (initial 1 [7])
          [.registerBatch 1 2, .processCaptureResult (oneBuffer 2 12),
            .processCaptureResult (oneBuffer 1 11),
            .notify (.error 1 (-1) .errorRequest)]).effects) := by
  refine ⟨by decide, by decide, by decide, ?_⟩
  exact ⟨⟨1, 1, [1], []⟩, by decide +kernel, by decide +kernel⟩

end NotifyState

end LgeHardware.Camera
