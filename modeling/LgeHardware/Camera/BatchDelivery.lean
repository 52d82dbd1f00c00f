import LgeHardware.Camera.BatcherRun

/-! # Batched buffers are delivered in order, once each

At every point of a run the buffers delivered on a stream, followed by the buffers
queued for it in deque order, are the buffers the HAL returned on it. The invariant
says when a batch may still hold a buffer: only as long as the buffer of its last
frame has not come on that stream. Then at most one batch holds buffers of a stream
in which the next buffer belongs, and whatever is sent directly overtakes nothing.
-/

namespace LgeHardware.Camera

open LgeHardware.Foundation

namespace BatcherState

/-- Operations as ordered delivery assumes them. Streams may be changed
once the HAL has returned, for every batch in the deque, the buffers of its last
frame. -/
def DeliveryContract (s : BatcherState) : BatcherOp → Prop
  | .setBatchedStreams streamsToBatch =>
      streamsToBatch.Nodup ∧ ∀ batch ∈ s.batcher.mInflightBatches,
        ∀ streamId ∈ batch.mBatchBufs.keys, s.Returned streamId batch.mLastFrame
  | .registerBatch frameNumber batchSize => s.RangeIncreasing frameNumber batchSize
  | .processCaptureResult result => s.BuffersInOrder result
  | .notify _ => True

instance (s : BatcherState) (op : BatcherOp) : Decidable (s.DeliveryContract op) := by
  cases op <;> unfold DeliveryContract <;> infer_instance

/-! ## The invariant -/

structure BatchInv (s : BatcherState) (batch : InflightBatch) : Prop where
  present : batch.mRemoved = false
  keyed : batch.Keyed
  settled : batch.Settled
  waiting : ∀ streamId, ∀ buffer ∈ batch.queuedOn streamId,
    batch.mFirstFrame ≤ buffer.halFrame ∧ buffer ∈ s.received streamId ∧
      ¬ s.Returned streamId batch.mLastFrame
  closed : ∀ (streamId : Int) (bb : BufferBatch), batch.mBatchBufs[streamId]? = some bb →
    bb.mDelivered = true → s.Returned streamId batch.mLastFrame
  streams : (∀ streamId, streamId ∈ s.batcher.mStreamsToBatch ↔ streamId ∈ batch.mBatchBufs) ∨
    ∀ streamId ∈ batch.mBatchBufs, s.Returned streamId batch.mLastFrame

structure DeliveryInv (s : BatcherState) : Prop where
  ordered : ResultBatcher.Ordered s.batcher.mInflightBatches
  nodup : s.batcher.mStreamsToBatch.Nodup
  batches : ∀ batch ∈ s.batcher.mInflightBatches, s.BatchInv batch
  balance : ∀ streamId,
    (s.delivered streamId).map Prod.snd ++ s.queued streamId = s.received streamId

/-- A batch depends on the results so far and on the streams to batch only. -/
theorem BatchInv.congr {s s' : BatcherState} {batch : InflightBatch} (h : s.BatchInv batch)
    (hresults : s'.results = s.results)
    (hstreams : s'.batcher.mStreamsToBatch = s.batcher.mStreamsToBatch) : s'.BatchInv batch := by
  have hreceived := received_congr hresults
  have hreturned := returned_congr hresults
  exact ⟨h.present, h.keyed, h.settled, by rw [hreceived, hreturned]; exact h.waiting,
    by rw [hreturned]; exact h.closed, by rw [hreturned, hstreams]; exact h.streams⟩

/-- The part of the invariant that concerns the batcher, before complete batches are
dropped from the head of the deque. Dropping them takes no buffer away. -/
theorem DeliveryInv.of_removal {s : BatcherState} {batches removed : List InflightBatch}
    (hsplit : batches = removed ++ s.batcher.mInflightBatches)
    (hcomplete : ∀ batch ∈ removed, batch.allDelivered = true)
    (hordered : ResultBatcher.Ordered batches) (hnodup : s.batcher.mStreamsToBatch.Nodup)
    (hbatches : ∀ batch ∈ batches, s.BatchInv batch)
    (hbalance : ∀ streamId, (s.delivered streamId).map Prod.snd ++
      batches.flatMap (·.queuedOn streamId) = s.received streamId) : s.DeliveryInv := by
  subst hsplit
  refine ⟨hordered.of_sublist (List.sublist_append_right _ _), hnodup,
    fun batch hmem => hbatches batch (List.mem_append_right _ hmem), ?_⟩
  intro streamId
  have hdropped : removed.flatMap (·.queuedOn streamId) = [] := by
    rw [List.flatMap_eq_nil_iff]
    exact fun batch hmem => ResultBatcher.queuedOn_of_allDelivered
      (hbatches batch (List.mem_append_left _ hmem)).settled (hcomplete batch hmem) streamId
  rw [← hbalance streamId, List.flatMap_append, hdropped]
  rfl

/-! ## A result arrives -/

section

variable {s : BatcherState} {result : CaptureResult}

/-- What has been returned stays so. -/
theorem Returned.next {streamId : Int} {frame : Nat} (h : s.Returned streamId frame) :
    (s.next (.processCaptureResult result)).Returned streamId frame := by
  obtain ⟨buffer, hbuffer, hframe⟩ := h
  refine ⟨buffer, ?_, hframe⟩
  rw [received_processCaptureResult]
  exact List.mem_append_left _ hbuffer

/-- A frame newly returned on a stream is the frame of the result. -/
theorem returned_next_iff
    (hframes : ∀ buffer ∈ result.outputBuffers, buffer.halFrame = result.frameNumber)
    {streamId : Int} {frame : Nat} :
    (s.next (.processCaptureResult result)).Returned streamId frame ↔
      s.Returned streamId frame ∨
        (frame = result.frameNumber ∧ result.outputsOn streamId ≠ []) := by
  simp only [Returned, received_processCaptureResult, List.mem_append, or_and_right, exists_or]
  apply or_congr_right
  constructor
  · rintro ⟨buffer, hnew, hframe⟩
    have hmem := (InflightBatch.mem_outputsOn.mp hnew).1
    exact ⟨hframe.symm.trans (hframes buffer hmem), List.ne_nil_of_mem hnew⟩
  · rintro ⟨rfl, hne⟩
    obtain ⟨buffer, hbuffer⟩ := List.exists_mem_of_ne_nil _ hne
    exact ⟨buffer, hbuffer, hframes buffer (InflightBatch.mem_outputsOn.mp hbuffer).1⟩

/-- A frame that has come back on a stream had come back before, or is that of the result. -/
theorem returned_next_cases (hresult : s.BuffersInOrder result) {streamId : Int} {frame : Nat}
    (h : (s.next (.processCaptureResult result)).Returned streamId frame) :
    s.Returned streamId frame ∨
      (frame = result.frameNumber ∧ result.outputsOn streamId ≠ []) :=
  (returned_next_iff hresult.frames).mp h

theorem returned_of_outputsOn (hresult : s.BuffersInOrder result) {streamId : Int}
    (h : result.outputsOn streamId ≠ []) :
    (s.next (.processCaptureResult result)).Returned streamId result.frameNumber :=
  (returned_next_iff hresult.frames).mpr (.inr ⟨rfl, h⟩)

/-- No frame at or above that of an arriving buffer was returned on its stream. -/
theorem BuffersInOrder.not_returned (hresult : s.BuffersInOrder result) {streamId : Int}
    (h : result.outputsOn streamId ≠ []) {frame : Nat} (hframe : result.frameNumber ≤ frame) :
    ¬ s.Returned streamId frame := by
  rintro ⟨earlier, hearlier, rfl⟩
  obtain ⟨buffer, hbuffer⟩ := List.exists_mem_of_ne_nil _ h
  obtain ⟨hmem, rfl⟩ := InflightBatch.mem_outputsOn.mp hbuffer
  have hlt := hresult.increasing buffer hmem earlier hearlier
  omega

/-- A batch that the frame of an arriving buffer does not belong to holds nothing for
the stream of the buffer. -/
theorem BatchInv.queuedOn_eq_nil {batch : InflightBatch} (hinv : s.BatchInv batch)
    (hdeque : batch ∈ s.batcher.mInflightBatches)
    (hordered : ResultBatcher.Ordered s.batcher.mInflightBatches)
    (hresult : s.BuffersInOrder result) {streamId : Int} (h : result.outputsOn streamId ≠ [])
    (houtside : result.frameNumber < batch.mFirstFrame ∨ batch.mLastFrame < result.frameNumber) :
    batch.queuedOn streamId = [] := by
  rw [List.eq_nil_iff_forall_not_mem]
  intro waiting hwaiting
  obtain ⟨hfirst, hreceived, hlast⟩ := hinv.waiting streamId waiting hwaiting
  obtain ⟨buffer, hbuffer⟩ := List.exists_mem_of_ne_nil _ h
  obtain ⟨hmem, rfl⟩ := InflightBatch.mem_outputsOn.mp hbuffer
  have hearlier := hresult.increasing buffer hmem waiting hreceived
  have hnonempty := hordered.nonempty batch hdeque
  have hbatched : buffer.streamId ∈ batch.mBatchBufs := by
    by_contra hnot
    simp [InflightBatch.queuedOn, Std.ExtTreeMap.getElem?_eq_none hnot] at hwaiting
  -- the frame lies behind the batch, so the last frame of the batch has been returned
  exact hlast (hresult.complete buffer hmem batch hdeque hbatched batch.mLastFrame
    (by omega) hnonempty le_rfl)

/-- The streams of an arriving result are open in the batch of its frame. -/
theorem BatchInv.isOpen {batch : InflightBatch} (hinv : s.BatchInv batch)
    (hresult : s.BuffersInOrder result) (hlast : result.frameNumber ≤ batch.mLastFrame) :
    batch.Open result := by
  intro streamId bb hout hbb
  cases hdelivered : bb.mDelivered with
  | false => rfl
  | true =>
      exact absurd (hinv.closed streamId bb hbb hdelivered) (hresult.not_returned hout hlast)

/-- A batch that the result does not belong to keeps its invariant. -/
theorem BatchInv.other {batch : InflightBatch} (hinv : s.BatchInv batch)
    (hordered : batch.mFirstFrame ≤ batch.mLastFrame) (hresult : s.BuffersInOrder result)
    (houtside : result.frameNumber < batch.mFirstFrame ∨ batch.mLastFrame < result.frameNumber)
    (hstreams : (s.next (.processCaptureResult result)).batcher.mStreamsToBatch =
      s.batcher.mStreamsToBatch) :
    (s.next (.processCaptureResult result)).BatchInv batch where
  present := hinv.present
  keyed := hinv.keyed
  settled := hinv.settled
  waiting := by
    intro streamId buffer hbuffer
    obtain ⟨hfirst, hreceived, hlast⟩ := hinv.waiting streamId buffer hbuffer
    refine ⟨hfirst, ?_, ?_⟩
    · rw [received_processCaptureResult]
      exact List.mem_append_left _ hreceived
    · intro hreturned
      rcases returned_next_cases hresult hreturned with hold | ⟨hframe, _⟩
      · exact hlast hold
      · omega
  closed := fun streamId bb hbb hdelivered => (hinv.closed streamId bb hbb hdelivered).next
  streams := by
    rw [hstreams]
    exact hinv.streams.imp_right fun h streamId hmem => (h streamId hmem).next

/-- The batch of the result keeps its invariant through the section. -/
theorem BatchInv.processCaptureResult {batch : InflightBatch} (hinv : s.BatchInv batch)
    (hresult : s.BuffersInOrder result) (hfirst : batch.mFirstFrame ≤ result.frameNumber)
    (hlast : result.frameNumber ≤ batch.mLastFrame)
    (hstreams : (s.next (.processCaptureResult result)).batcher.mStreamsToBatch =
      s.batcher.mStreamsToBatch) :
    (s.next (.processCaptureResult result)).BatchInv (batch.processCaptureResult result).2 := by
  have hopen := hinv.isOpen hresult hlast
  have hmem := InflightBatch.mem_processCaptureResult_mBatchBufs hinv.present hinv.settled hopen
  have hends : (batch.processCaptureResult result).2.mFirstFrame = batch.mFirstFrame ∧
      (batch.processCaptureResult result).2.mLastFrame = batch.mLastFrame ∧
      (batch.processCaptureResult result).2.mRemoved = batch.mRemoved := by
    rw [InflightBatch.processCaptureResult_frame]
    exact ⟨rfl, rfl, rfl⟩
  constructor
  · exact hends.2.2.trans hinv.present
  · exact hinv.keyed.processCaptureResult hinv.present hinv.settled hopen
  · exact hinv.settled.processCaptureResult hinv.present hopen
  · intro streamId buffer hbuffer
    rw [InflightBatch.queuedOn_processCaptureResult hinv.present hinv.settled hopen] at hbuffer
    rw [hends.1, hends.2.1, received_processCaptureResult]
    split at hbuffer
    next hbatched =>
      split at hbuffer
      next => simp at hbuffer
      next hnot =>
        rw [not_and_not_right] at hnot
        -- before the last frame of the batch, its last frame is not returned by this result
        have hreturned : ¬ s.Returned streamId batch.mLastFrame →
            ¬ (s.next (.processCaptureResult result)).Returned streamId batch.mLastFrame := by
          intro hnone hreturned
          rcases returned_next_cases hresult hreturned with hold | ⟨hframe, hout⟩
          · exact hnone hold
          · exact hout (hnot hframe.symm)
        rcases List.mem_append.mp hbuffer with hold | hnew
        · obtain ⟨h1, h2, h3⟩ := hinv.waiting streamId buffer hold
          exact ⟨h1, List.mem_append_left _ h2, hreturned h3⟩
        · have hmem := (InflightBatch.mem_outputsOn.mp hnew).1
          refine ⟨?_, List.mem_append_right _ hnew, hreturned ?_⟩
          · rw [hresult.frames buffer hmem]
            exact hfirst
          · exact hresult.not_returned (List.ne_nil_of_mem hnew) hlast
    next => simp at hbuffer
  · intro streamId bb hbb hdelivered
    rw [hends.2.1]
    rw [InflightBatch.processCaptureResult_mBatchBufs hinv.present hinv.settled hopen] at hbb
    split at hbb
    next h =>
      rw [← h.1]
      exact returned_of_outputsOn hresult h.2.2
    next =>
      obtain ⟨old, hold, rfl⟩ := Option.map_eq_some_iff.mp hbb
      exact (hinv.closed streamId old hold hdelivered).next
  · rw [hstreams, hends.2.1]
    simp only [hmem]
    exact hinv.streams.imp_right fun h streamId hbatched => (h streamId hbatched).next

/-- The streams to batch are changed by `setBatchedStreams` only. -/
theorem mStreamsToBatch_processCaptureResult (hinv : s.DeliveryInv) :
    (s.next (.processCaptureResult result)).batcher.mStreamsToBatch =
      s.batcher.mStreamsToBatch := by
  have hpresent := fun batch hmem => (hinv.batches batch hmem).present
  rcases s.batcher.processCaptureResult_cases hpresent result with
    ⟨-, heq⟩ | ⟨_, _, _, _, -, -, -, -, -, hstreams, -⟩
  · simp only [next, heq]
  · exact hstreams

/-- A batch that the result lies outside of holds nothing the result could overtake. -/
theorem DeliveryInv.queuedOn_outside (hinv : s.DeliveryInv) (hresult : s.BuffersInOrder result)
    {streamId : Int} (hout : result.outputsOn streamId ≠ []) {batches : List InflightBatch}
    (hmem : ∀ batch ∈ batches, batch ∈ s.batcher.mInflightBatches)
    (houtside : ∀ batch ∈ batches,
      result.frameNumber < batch.mFirstFrame ∨ batch.mLastFrame < result.frameNumber) :
    batches.flatMap (·.queuedOn streamId) = [] := by
  rw [List.flatMap_eq_nil_iff]
  intro batch hbatch
  have hinvBatch := hinv.batches batch (hmem batch hbatch)
  exact hinvBatch.queuedOn_eq_nil (hmem batch hbatch) hinv.ordered hresult hout
    (houtside batch hbatch)

/-- A result outside all batches is delivered at once. -/
theorem DeliveryInv.processUnbatched (hinv : s.DeliveryInv) (hresult : s.BuffersInOrder result)
    (hnone : s.batcher.getBatch result.frameNumber = none)
    (heq : s.batcher.processCaptureResult result = (processOneCaptureResult result, s.batcher)) :
    (s.next (.processCaptureResult result)).DeliveryInv := by
  have houtside := ResultBatcher.not_contains_of_getBatch_eq_none hinv.ordered hnone
  have hbatcher : (s.next (.processCaptureResult result)).batcher = s.batcher := by
    simp only [next, heq]
  refine ⟨by rw [hbatcher]; exact hinv.ordered, by rw [hbatcher]; exact hinv.nodup, ?_, ?_⟩
  · rw [hbatcher]
    intro batch hmem
    exact (hinv.batches batch hmem).other (hinv.ordered.nonempty batch hmem) hresult
      (houtside batch hmem) (by rw [hbatcher])
  · intro streamId
    have hdelivered : (s.next (.processCaptureResult result)).delivered streamId =
        s.delivered streamId ++
          (result.outputsOn streamId).map fun buffer => (result.frameNumber, buffer) := by
      simp [delivered, next, heq, outputsDelivered_singleton]
    have hqueued : (s.next (.processCaptureResult result)).queued streamId =
        s.queued streamId := by
      simp only [queued, hbatcher]
    rw [hdelivered, hqueued, received_processCaptureResult, ← hinv.balance streamId]
    -- what the result overtakes is empty: a batch behind it is complete, one ahead not begun
    by_cases hout : result.outputsOn streamId = []
    · simp [hout]
    · have hempty : s.queued streamId = [] :=
        hinv.queuedOn_outside hresult hout (fun _ hmem => hmem) houtside
      simp [hempty, Function.comp_def]

/-- A result inside a batch is queued there, and what the section sends up comes from
the only queue of the stream that holds anything. -/
theorem DeliveryInv.processBatched (hinv : s.DeliveryInv) (hresult : s.BuffersInOrder result)
    {before after removed : List InflightBatch} {batch : InflightBatch}
    (hlist : s.batcher.mInflightBatches = before ++ batch :: after)
    (hfirst : batch.mFirstFrame ≤ result.frameNumber)
    (hlast : result.frameNumber ≤ batch.mLastFrame)
    (hsplit : before ++ (batch.processCaptureResult result).2 :: after =
      removed ++ (s.batcher.processCaptureResult result).2.mInflightBatches)
    (hcomplete : ∀ b ∈ removed, b.allDelivered = true)
    (heffects : resultsOf (s.batcher.processCaptureResult result).1 =
      resultsOf (batch.processCaptureResult result).1) :
    (s.next (.processCaptureResult result)).DeliveryInv := by
  have hstreams : (s.next (.processCaptureResult result)).batcher.mStreamsToBatch =
      s.batcher.mStreamsToBatch := mStreamsToBatch_processCaptureResult hinv
  have hbatch := hinv.batches batch (by simp [hlist])
  have hopen := hbatch.isOpen hresult hlast
  have hmem : ∀ other ∈ before ++ after, other ∈ s.batcher.mInflightBatches := by
    intro other hother
    rw [hlist]
    simp only [List.mem_append, List.mem_cons] at hother ⊢
    tauto
  have houtside : ∀ other ∈ before ++ after,
      result.frameNumber < other.mFirstFrame ∨ other.mLastFrame < result.frameNumber :=
    (hlist ▸ hinv.ordered).outside hfirst hlast
  have hothers : ∀ other ∈ before ++ after,
      (s.next (.processCaptureResult result)).BatchInv other := fun other hother =>
    (hinv.batches other (hmem other hother)).other
      (hinv.ordered.nonempty other (hmem other hother)) hresult (houtside other hother) hstreams
  have hordered : ResultBatcher.Ordered
      (before ++ (batch.processCaptureResult result).2 :: after) := by
    -- the section keeps both ends of the batch, so the order of the deque
    apply hinv.ordered.of_map_eq
    rw [hlist, InflightBatch.processCaptureResult_frame]
    simp
  apply DeliveryInv.of_removal hsplit hcomplete hordered (by rw [hstreams]; exact hinv.nodup)
  · intro b hb
    rw [List.mem_append, List.mem_cons] at hb
    rcases hb with hb | rfl | hb
    · exact hothers b (List.mem_append_left _ hb)
    · exact hbatch.processCaptureResult hresult hfirst hlast hstreams
    · exact hothers b (List.mem_append_right _ hb)
  · intro streamId
    have hdelivered : (s.next (.processCaptureResult result)).delivered streamId =
        s.delivered streamId ++
          outputsDelivered streamId (resultsOf (batch.processCaptureResult result).1) := by
      simp only [delivered, next, resultsOf_append, outputsDelivered_append, heffects]
    have hqueued : s.queued streamId = before.flatMap (·.queuedOn streamId) ++
        (batch.queuedOn streamId ++ after.flatMap (·.queuedOn streamId)) := by
      simp [queued, hlist]
    have hconserves := InflightBatch.processCaptureResult_conserves hbatch.present hbatch.keyed
      hbatch.settled hresult.streams hopen streamId
    rw [hdelivered, received_processCaptureResult, ← hinv.balance streamId, hqueued,
      List.flatMap_append, List.flatMap_cons]
    -- either the section moves nothing on the stream, or every other queue of it is empty
    by_cases hout : result.outputsOn streamId = []
    · have hsilent := InflightBatch.processCaptureResult_delivers_nothing hbatch.present
        hbatch.keyed hbatch.settled hresult.streams hopen hout
      rw [hsilent, List.map_nil, List.nil_append, hout, List.append_nil] at hconserves
      rw [hsilent, hconserves, hout]
      simp
    · have hempty := hinv.queuedOn_outside hresult hout hmem houtside
      rw [List.flatMap_append, List.append_eq_nil_iff] at hempty
      simp only [hempty.1, hempty.2, List.map_append, List.nil_append, List.append_nil,
        List.append_assoc, hconserves]

/-- A result in order keeps the invariant, in a batch or in none. -/
theorem DeliveryInv.processCaptureResult (hinv : s.DeliveryInv)
    (hresult : s.BuffersInOrder result) :
    (s.next (.processCaptureResult result)).DeliveryInv := by
  have hpresent := fun batch hmem => (hinv.batches batch hmem).present
  rcases s.batcher.processCaptureResult_cases hpresent result with
    ⟨hnone, heq⟩ | ⟨_, _, _, _, hlist, hfirst, hlast, hsplit, hcomplete, -, -, heffects⟩
  · exact hinv.processUnbatched hresult hnone heq
  · exact hinv.processBatched hresult hlist hfirst hlast hsplit hcomplete heffects

end

/-! ## The other operations -/

section

variable {s : BatcherState}

/-- A shutter delivers no buffer and moves none. -/
theorem DeliveryInv.notifyShutter (hinv : s.DeliveryInv) (frameNumber : Nat) (timestamp : Int) :
    (s.next (.notify (.shutter frameNumber timestamp))).DeliveryInv := by
  have hpresent := fun batch hmem => (hinv.batches batch hmem).present
  obtain ⟨effects, batcher, heq, hsilent, hstreams, -, hcases⟩ :=
    s.batcher.notify_shutter_cases hpresent frameNumber timestamp
  have hnext : s.next (.notify (.shutter frameNumber timestamp)) =
      { s with batcher, effects := s.effects ++ effects } := by
    simp only [next, heq]
  have hdelivered : ({ s with batcher, effects := s.effects ++ effects } :
      BatcherState).delivered = s.delivered := by
    funext streamId
    simp only [delivered, resultsOf_append, hsilent, List.append_nil]
  have hkeep : ∀ batch ∈ s.batcher.mInflightBatches,
      ({ s with batcher, effects := s.effects ++ effects } : BatcherState).BatchInv batch :=
    fun batch hmem => (hinv.batches batch hmem).congr rfl hstreams
  rw [hnext]
  rcases hcases with hsame | ⟨before, batch, after, removed, hlist, hsplit, hcomplete⟩
  · have hsplit : s.batcher.mInflightBatches = [] ++ batcher.mInflightBatches := hsame.symm
    apply DeliveryInv.of_removal hsplit (by simp) hinv.ordered
      (by simpa only [hstreams] using hinv.nodup) hkeep
    intro streamId
    rw [hdelivered]
    exact hinv.balance streamId
  · rw [InflightBatch.notifyShutter_frame] at hsplit
    refine DeliveryInv.of_removal hsplit hcomplete (hinv.ordered.of_map_eq (by simp [hlist]))
      (by simpa only [hstreams] using hinv.nodup) ?_ ?_
    · apply ResultBatcher.forall_mem_replaced hlist hkeep
      have h := hkeep batch (by simp [hlist])
      exact ⟨h.present, h.keyed, h.settled, h.waiting, h.closed, h.streams⟩
    · intro streamId
      have hbalance := hinv.balance streamId
      rw [queued, hlist, List.flatMap_append, List.flatMap_cons] at hbalance
      rw [hdelivered, List.flatMap_append, List.flatMap_cons]
      exact hbalance

/-- A batch whose last frame is back on all streams holds nothing. -/
theorem BatchInv.queuedOn_of_returned {batch : InflightBatch} (hinv : s.BatchInv batch)
    (hreturned : ∀ streamId ∈ batch.mBatchBufs, s.Returned streamId batch.mLastFrame)
    (streamId : Int) : batch.queuedOn streamId = [] := by
  rw [List.eq_nil_iff_forall_not_mem]
  intro buffer hbuffer
  apply (hinv.waiting streamId buffer hbuffer).2.2
  apply hreturned
  by_contra hnot
  simp [InflightBatch.queuedOn, Std.ExtTreeMap.getElem?_eq_none hnot] at hbuffer

/-- An error delivers what a batch holds: if the streams to batch have changed since
it was registered, nothing is left to hold. -/
theorem BatchInv.flush_delivers {batch : InflightBatch} (hinv : s.BatchInv batch)
    (hnodup : s.batcher.mStreamsToBatch.Nodup) (numPartialResults : Nat) (streamId : Int) :
    (outputsDelivered streamId (resultsOf
      (batch.flush s.batcher.mStreamsToBatch numPartialResults).1)).map Prod.snd =
      batch.queuedOn streamId := by
  rcases hinv.streams with hstreams | hreturned
  · rw [InflightBatch.flush_delivers hinv.keyed hinv.settled hnodup hstreams, map_snd_numbered]
  · have hempty := hinv.queuedOn_of_returned hreturned
    rw [InflightBatch.flush_delivers_nothing hempty, hempty]
    rfl

/-- An error flushes batches as a whole, which keeps the invariant. -/
theorem DeliveryInv.notifyError (hinv : s.DeliveryInv) (frameNumber : Nat) (errorStreamId : Int)
    (errorCode : ErrorCode) :
    (s.next (.notify (.error frameNumber errorStreamId errorCode))).DeliveryInv := by
  obtain ⟨effects, batcher, heq, hstreams, -, flushed, hlist, -, hresults⟩ :=
    s.batcher.notify_error_cases frameNumber errorStreamId errorCode
  have hnext : s.next (.notify (.error frameNumber errorStreamId errorCode)) =
      { s with batcher, effects := s.effects ++ effects } := by
    simp only [next, heq]
  rw [hnext]
  have hordered := hinv.ordered
  rw [hlist] at hordered
  refine ⟨hordered.of_sublist (List.sublist_append_right _ _),
    by simpa only [hstreams] using hinv.nodup, ?_, ?_⟩
  · intro batch hmem
    have hold : batch ∈ s.batcher.mInflightBatches := by
      rw [hlist]
      exact List.mem_append_right _ hmem
    exact (hinv.batches batch hold).congr rfl hstreams
  · intro streamId
    -- each flushed batch delivers its own queue, and the queues stand in deque order
    have hflushed : (outputsDelivered streamId (resultsOf effects)).map Prod.snd =
        flushed.flatMap (·.queuedOn streamId) := by
      rw [hresults, outputsDelivered, List.flatMap_assoc, List.map_flatMap]
      apply List.flatMap_congr
      intro batch hmem
      exact (hinv.batches batch (by simp [hlist, hmem])).flush_delivers hinv.nodup _ streamId
    have hbalance := hinv.balance streamId
    rw [queued, hlist, List.flatMap_append] at hbalance
    rw [← show s.received streamId =
      ({ s with batcher, effects := s.effects ++ effects } : BatcherState).received streamId
      from rfl, ← hbalance]
    simp only [delivered, resultsOf_append, outputsDelivered_append, List.map_append, hflushed,
      List.append_assoc]
    rfl

/-- A batch behind all others keeps the invariant. -/
theorem DeliveryInv.registerBatch (hinv : s.DeliveryInv) {frameNumber batchSize : Nat}
    (hrange : s.RangeIncreasing frameNumber batchSize) :
    (s.next (.registerBatch frameNumber batchSize)).DeliveryInv := by
  have hnew := s.batcher.newBatch_mBatchBufs frameNumber batchSize
  have hempty : ∀ streamId, (s.batcher.newBatch frameNumber batchSize).queuedOn streamId = [] := by
    intro streamId
    rw [InflightBatch.queuedOn, hnew]
    split <;> rfl
  refine ⟨ordered_registerBatch hinv.ordered hrange, hinv.nodup, ?_, ?_⟩
  · intro batch hmem
    rcases List.mem_append.mp hmem with hmem | hmem
    · exact (hinv.batches batch hmem).congr rfl rfl
    · rw [List.mem_singleton.mp hmem]
      -- the new batch has an entry for each stream to batch, all of them empty
      have hfresh : ∀ (streamId : Int) (bb : BufferBatch),
          (s.batcher.newBatch frameNumber batchSize).mBatchBufs[streamId]? = some bb →
          bb = {} := by
        intro streamId bb hbb
        rw [hnew] at hbb
        split at hbb
        · exact (Option.some.inj hbb).symm
        · cases hbb
      refine ⟨rfl, ?_, ?_, ?_, ?_, .inl ?_⟩
      · intro streamId bb hbb
        simp [hfresh streamId bb hbb]
      · intro streamId bb hbb _
        rw [hfresh streamId bb hbb]
      · intro streamId buffer hbuffer
        simp [hempty streamId] at hbuffer
      · intro streamId bb hbb hdelivered
        simp [hfresh streamId bb hbb] at hdelivered
      · intro streamId
        rw [Std.ExtTreeMap.mem_iff_isSome_getElem?, hnew]
        by_cases hid : streamId ∈ s.batcher.mStreamsToBatch <;>
          simp [hid, next, ResultBatcher.registerBatch]
  · intro streamId
    rw [← show s.received streamId =
      (s.next (.registerBatch frameNumber batchSize)).received streamId from rfl,
      ← hinv.balance streamId]
    simp [queued, next, ResultBatcher.registerBatch, hempty, delivered]

/-- The streams can change while nothing is owed to the batches. -/
theorem DeliveryInv.setBatchedStreams (hinv : s.DeliveryInv) {streamsToBatch : List Int}
    (hnodup : streamsToBatch.Nodup)
    (hreturned : ∀ batch ∈ s.batcher.mInflightBatches,
      ∀ streamId ∈ batch.mBatchBufs.keys, s.Returned streamId batch.mLastFrame) :
    (s.next (.setBatchedStreams streamsToBatch)).DeliveryInv := by
  refine ⟨hinv.ordered, hnodup, ?_, hinv.balance⟩
  intro batch hmem
  have h := hinv.batches batch hmem
  refine ⟨h.present, h.keyed, h.settled, h.waiting, h.closed, .inr ?_⟩
  intro streamId hbatched
  exact hreturned batch hmem streamId (Std.ExtTreeMap.mem_keys.mpr hbatched)

/-- No operation but `registerBatch` adds a batch, and none changes the frames or the
streams of one. -/
theorem DeliveryInv.ends_next (hinv : s.DeliveryInv) {op : BatcherOp}
    (hop : s.DeliveryContract op)
    (hne : ∀ frameNumber batchSize, op ≠ .registerBatch frameNumber batchSize)
    (after : InflightBatch) (hmem : after ∈ (s.next op).batcher.mInflightBatches) :
    ∃ batch ∈ s.batcher.mInflightBatches, after.mFirstFrame = batch.mFirstFrame ∧
      after.mLastFrame = batch.mLastFrame ∧
      ∀ streamId, streamId ∈ after.mBatchBufs ↔ streamId ∈ batch.mBatchBufs := by
  have hpresent := fun batch hmem => (hinv.batches batch hmem).present
  cases op with
  | setBatchedStreams streamsToBatch => exact ⟨after, hmem, rfl, rfl, fun _ => Iff.rfl⟩
  | registerBatch frameNumber batchSize => exact absurd rfl (hne frameNumber batchSize)
  | processCaptureResult result =>
      rcases ResultBatcher.mem_processCaptureResult hpresent hinv.ordered hmem with
        ⟨hold, -⟩ | ⟨batch, hbatch, -, hlast, rfl⟩
      · exact ⟨after, hold, rfl, rfl, fun _ => Iff.rfl⟩
      · have hbatchInv := hinv.batches batch hbatch
        refine ⟨batch, hbatch, ?_, ?_, ?_⟩
        · rw [InflightBatch.processCaptureResult_frame]
        · rw [InflightBatch.processCaptureResult_frame]
        · exact InflightBatch.mem_processCaptureResult_mBatchBufs hbatchInv.present
            hbatchInv.settled (hbatchInv.isOpen hop hlast)
  | notify msg =>
      cases msg with
      | shutter frameNumber timestamp =>
          obtain ⟨effects, batcher, heq, -⟩ :=
            s.batcher.notify_shutter_cases hpresent frameNumber timestamp
          simp only [BatcherState.next, heq] at hmem
          obtain ⟨batch, hbatch, hafter⟩ := ResultBatcher.mem_notify_shutter hpresent heq hmem
          rw [hafter]
          exact ⟨batch, hbatch, rfl, rfl, fun _ => Iff.rfl⟩
      | error frameNumber errorStreamId errorCode =>
          obtain ⟨effects, batcher, heq, -, -, flushed, hlist, -⟩ :=
            s.batcher.notify_error_cases frameNumber errorStreamId errorCode
          simp only [BatcherState.next, heq] at hmem
          have hold : after ∈ s.batcher.mInflightBatches := by
            rw [hlist]
            exact List.mem_append_right _ hmem
          exact ⟨after, hold, rfl, rfl, fun _ => Iff.rfl⟩

/-- Every operation of the contract keeps the invariant. -/
theorem DeliveryInv.next (hinv : s.DeliveryInv) {op : BatcherOp} (hop : s.DeliveryContract op) :
    (s.next op).DeliveryInv := by
  cases op with
  | setBatchedStreams streamsToBatch => exact hinv.setBatchedStreams hop.1 hop.2
  | registerBatch frameNumber batchSize => exact hinv.registerBatch hop
  | processCaptureResult result => exact hinv.processCaptureResult hop
  | notify msg =>
      cases msg with
      | shutter frameNumber timestamp => exact hinv.notifyShutter frameNumber timestamp
      | error frameNumber errorStreamId errorCode =>
          exact hinv.notifyError frameNumber errorStreamId errorCode

/-- Input buffers are never held back. -/
theorem inputsDelivered_next (hinv : s.DeliveryInv) (op : BatcherOp) (streamId : Int)
    (hinputs : s.inputsDelivered streamId = s.inputsReceived streamId) :
    (s.next op).inputsDelivered streamId = (s.next op).inputsReceived streamId := by
  have hpresent := fun batch hmem => (hinv.batches batch hmem).present
  cases op with
  | setBatchedStreams streamsToBatch => exact hinputs
  | registerBatch frameNumber batchSize => exact hinputs
  | processCaptureResult result =>
      have hsent : Camera.inputsDelivered streamId
          (resultsOf (s.batcher.processCaptureResult result).1) = result.inputsOn streamId := by
        rcases s.batcher.processCaptureResult_cases hpresent result with
          ⟨-, heq⟩ | ⟨_, batch, _, _, -, -, -, -, -, -, -, heffects⟩
        · rw [heq]
          simp [Camera.inputsDelivered]
        · rw [heffects]
          exact batch.inputsDelivered_processCaptureResult result streamId
      simp only [inputsDelivered, inputsReceived] at hinputs
      simp [BatcherState.next, inputsDelivered, inputsReceived, hsent, hinputs]
  | notify msg =>
      have hsent : ∃ effects batcher, s.batcher.notify msg = some (effects, batcher) ∧
          Camera.inputsDelivered streamId (resultsOf effects) = [] := by
        cases msg with
        | shutter frameNumber timestamp =>
            obtain ⟨effects, batcher, heq, hsilent, -⟩ :=
              s.batcher.notify_shutter_cases hpresent frameNumber timestamp
            exact ⟨effects, batcher, heq, by rw [hsilent]; rfl⟩
        | error frameNumber errorStreamId errorCode =>
            obtain ⟨effects, batcher, heq, -, -, flushed, -, -, hresults⟩ :=
              s.batcher.notify_error_cases frameNumber errorStreamId errorCode
            refine ⟨effects, batcher, heq, ?_⟩
            rw [hresults, Camera.inputsDelivered, List.flatMap_assoc, List.flatMap_eq_nil_iff]
            exact fun batch _ => batch.inputsDelivered_flush _ _ streamId
      obtain ⟨effects, batcher, heq, hnone⟩ := hsent
      simp only [inputsDelivered, inputsReceived] at hinputs
      simp [BatcherState.next, heq, inputsDelivered, inputsReceived, hnone, hinputs]

end

theorem deliveryInv_initial (numPartialResults : Nat) :
    (initial numPartialResults).DeliveryInv :=
  ⟨OrderedIntervals.nil, List.nodup_nil, by simp [initial], fun _ => rfl⟩

/-- At every point of a run, the output buffers delivered on a stream and then those
queued for it are those received on it, in order; input buffers are all delivered. -/
theorem delivered_append_queued (numPartialResults : Nat) (ops : List BatcherOp)
    (hops : Admits next DeliveryContract (initial numPartialResults) ops) (streamId : Int) :
    let s := run next (initial numPartialResults) ops
    (s.delivered streamId).map Prod.snd ++ s.queued streamId = s.received streamId ∧
      s.inputsDelivered streamId = s.inputsReceived streamId := by
  have hrun := hops.invariant
    (fun s => s.DeliveryInv ∧ s.inputsDelivered streamId = s.inputsReceived streamId)
    (fun s op hinv hop => ⟨hinv.1.next hop, inputsDelivered_next hinv.1 op streamId hinv.2⟩)
    ⟨deliveryInv_initial numPartialResults, rfl⟩
  exact ⟨hrun.1.balance streamId, hrun.2⟩

/-- A batch of two frames on stream 7, a frame returned before an error stops the
batch, and the other one after it. -/
def errorInBatch : List BatcherOp :=
  [.setBatchedStreams [7], .registerBatch 1 2,
    .processCaptureResult { frameNumber := 1, inputBuffer := { streamId := -1 }
                            outputBuffers := [{ streamId := 7, halFrame := 1 },
                              { streamId := 8, halFrame := 1 }] },
    .notify (.error 2 (-1) .errorResult),
    .processCaptureResult { frameNumber := 2, inputBuffer := { streamId := -1 }
                            outputBuffers := [{ streamId := 7, halFrame := 2 }] },
    .setBatchedStreams []]

theorem delivered_append_queued_errorInBatch :
    Admits next DeliveryContract (initial 1) errorInBatch ∧
      ((run next (initial 1) errorInBatch).delivered 7).map Prod.snd ++
          (run next (initial 1) errorInBatch).queued 7 =
        (run next (initial 1) errorInBatch).received 7 := by
  have hops : Admits next DeliveryContract (initial 1) errorInBatch := by decide
  exact ⟨hops, (delivered_append_queued 1 errorInBatch hops 7).1⟩

/-! ## Streams changed under a batch -/

/-- The contract with a weaker condition on `setBatchedStreams`: no batch holds queued
buffers at that moment. -/
def QueueContract (s : BatcherState) : BatcherOp → Prop
  | .setBatchedStreams _ => ∀ batch ∈ s.batcher.mInflightBatches,
      ∀ pair ∈ batch.mBatchBufs.toList, pair.2.mBuffers = []
  | .registerBatch frameNumber batchSize => s.RangeIncreasing frameNumber batchSize
  | .processCaptureResult result => s.BuffersInOrder result
  | .notify _ => True

instance (s : BatcherState) (op : BatcherOp) : Decidable (s.QueueContract op) := by
  cases op <;> unfold QueueContract <;> infer_instance

/-- The property of a run: nothing is lost, duplicated or reordered. -/
def DeliversInOrder (ops : List BatcherOp) (streamId : Int) : Prop :=
  ((run next (initial 1) ops).delivered streamId).map Prod.snd ++
      (run next (initial 1) ops).queued streamId = (run next (initial 1) ops).received streamId

instance (ops : List BatcherOp) (streamId : Int) : Decidable (DeliversInOrder ops streamId) :=
  inferInstanceAs (Decidable (_ = _))

def frameOneOn (streamId : Int) : CaptureResult :=
  { frameNumber := 1
    inputBuffer := { streamId := -1 }
    outputBuffers := [{ streamId, halFrame := 1 }] }

/-- A batch that is still empty is flushed for streams it was not registered with, and
loses what came in between. -/
def streamsChangedUnderBatch : List BatcherOp :=
  [.setBatchedStreams [7], .registerBatch 1 2, .setBatchedStreams [8],
    .processCaptureResult (frameOneOn 7), .notify (.error 1 (-1) .errorResult)]

/-- A stream listed twice has its buffers sent twice by an error. -/
def streamListedTwice : List BatcherOp :=
  [.setBatchedStreams [7, 7], .registerBatch 1 2, .processCaptureResult (frameOneOn 7),
    .notify (.error 1 (-1) .errorResult)]

theorem not_queueContract_delivers :
    (Admits next QueueContract (initial 1) streamsChangedUnderBatch ∧
      ¬ DeliversInOrder streamsChangedUnderBatch 7) ∧
    (Admits next QueueContract (initial 1) streamListedTwice ∧
      ¬ DeliversInOrder streamListedTwice 7) := by
  decide

end BatcherState

end LgeHardware.Camera
