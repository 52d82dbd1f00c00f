import LgeHardware.Camera.BatchDelivery

/-! # The frame numbers of batched buffers

Buffers queued in a batch carry no frame number. What sends them up numbers them
from the first frame of the batch, so the `i`-th buffer of a queue has to be the
buffer of the `i`-th frame. This holds for a batch that was registered before any of
its frames came back on a stream, or after all of them did.
-/

namespace LgeHardware.Camera

open LgeHardware.Foundation

/-- Each buffer is delivered under the frame number it came with. -/
def Attributed (pairs : List (Nat × StreamBuffer)) : Prop :=
  ∀ pair ∈ pairs, pair.1 = pair.2.halFrame

instance (pairs : List (Nat × StreamBuffer)) : Decidable (Attributed pairs) :=
  inferInstanceAs (Decidable (∀ pair ∈ pairs, pair.1 = pair.2.halFrame))

theorem Attributed.append {first second : List (Nat × StreamBuffer)} (hfirst : Attributed first)
    (hsecond : Attributed second) : Attributed (first ++ second) := by
  intro pair hmem
  rcases List.mem_append.mp hmem with hmem | hmem
  · exact hfirst pair hmem
  · exact hsecond pair hmem

/-- Numbering buffers of consecutive frames from the first of them is right. -/
theorem attributed_numbered {firstFrame : Nat} {buffers : List StreamBuffer}
    (hframes : buffers.map (·.halFrame) = List.range' firstFrame buffers.length)
    (hbounded : ∀ buffer ∈ buffers, buffer.halFrame < 2 ^ 32) :
    Attributed (numbered firstFrame buffers) := by
  intro pair hmem
  obtain ⟨i, hi, rfl⟩ := List.mem_mapIdx.mp hmem
  have hframe : buffers[i].halFrame = firstFrame + i := by
    have hget : (buffers.map (·.halFrame))[i]? = (List.range' firstFrame buffers.length)[i]? := by
      rw [hframes]
    simpa [hi] using hget
  have hlt := hbounded buffers[i] (List.getElem_mem hi)
  rw [hframe] at hlt
  show uint32 (firstFrame + i) = buffers[i].halFrame
  rw [hframe, uint32, Nat.mod_eq_of_lt hlt]

/-- A result has at most one buffer for a stream. -/
theorem CaptureResult.outputsOn_cases {result : CaptureResult}
    (hstreams : (result.outputBuffers.map (·.streamId)).Nodup) (streamId : Int) :
    result.outputsOn streamId = [] ∨
      ∃ buffer ∈ result.outputBuffers, buffer.streamId = streamId ∧
        result.outputsOn streamId = [buffer] := by
  have hsame : ∀ buffer ∈ result.outputsOn streamId,
      buffer ∈ result.outputBuffers ∧ buffer.streamId = streamId :=
    fun buffer hmem => InflightBatch.mem_outputsOn.mp hmem
  have hnodup : ((result.outputsOn streamId).map (·.streamId)).Nodup :=
    hstreams.sublist (List.filter_sublist.map _)
  cases hout : result.outputsOn streamId with
  | nil => exact .inl rfl
  | cons buffer rest =>
      rw [hout] at hsame hnodup
      cases rest with
      | nil => exact .inr ⟨buffer, (hsame buffer (by simp)).1, (hsame buffer (by simp)).2, rfl⟩
      | cons other rest =>
          have heq : buffer.streamId = other.streamId :=
            (hsame buffer (by simp)).2.trans (hsame other (by simp)).2.symm
          simp [heq] at hnodup

namespace BatcherState

/-- The queue of each stream holds the frames from the first one of the batch on, and
as long as the last frame is out, these are all that came back. -/
structure BatchFrames (s : BatcherState) (batch : InflightBatch) : Prop where
  bounded : batch.mLastFrame < 2 ^ 32
  numberedFrom : ∀ streamId, (batch.queuedOn streamId).map (·.halFrame) =
    List.range' batch.mFirstFrame (batch.queuedOn streamId).length
  inside : ∀ streamId, ∀ buffer ∈ batch.queuedOn streamId, buffer.halFrame ≤ batch.mLastFrame
  caughtUp : ∀ streamId ∈ batch.mBatchBufs, ¬ s.Returned streamId batch.mLastFrame →
    ∀ frame, batch.mFirstFrame ≤ frame → frame ≤ batch.mLastFrame → s.Returned streamId frame →
      frame < batch.mFirstFrame + (batch.queuedOn streamId).length

theorem BatchFrames.congr {s s' : BatcherState} {batch : InflightBatch}
    (h : s.BatchFrames batch) (hresults : s'.results = s.results) : s'.BatchFrames batch := by
  have hreturned := returned_congr hresults
  exact ⟨h.bounded, h.numberedFrom, h.inside, by rw [hreturned]; exact h.caughtUp⟩

theorem BatchFrames.attributed {s : BatcherState} {batch : InflightBatch}
    (h : s.BatchFrames batch) (streamId : Int) :
    Attributed (numbered batch.mFirstFrame (batch.queuedOn streamId)) :=
  attributed_numbered (h.numberedFrom streamId)
    fun buffer hmem => (h.inside streamId buffer hmem).trans_lt h.bounded

/-! ## A result arrives -/

section

variable {s : BatcherState} {result : CaptureResult} {batch : InflightBatch}

theorem BuffersInOrder.attributed (hresult : s.BuffersInOrder result) (streamId : Int) :
    Attributed ((result.outputsOn streamId).map fun buffer => (result.frameNumber, buffer)) := by
  intro pair hmem
  obtain ⟨buffer, hbuffer, rfl⟩ := List.mem_map.mp hmem
  exact (hresult.frames buffer (InflightBatch.mem_outputsOn.mp hbuffer).1).symm

/-- The next frame on a batched stream is the one the queue waits for. -/
theorem BatchFrames.next_frame (hframes : s.BatchFrames batch) (hinv : s.BatchInv batch)
    (hdeque : batch ∈ s.batcher.mInflightBatches) (hresult : s.BuffersInOrder result)
    (hfirst : batch.mFirstFrame ≤ result.frameNumber)
    (hlast : result.frameNumber ≤ batch.mLastFrame) {streamId : Int}
    (hbatched : streamId ∈ batch.mBatchBufs) (hout : result.outputsOn streamId ≠ []) :
    result.frameNumber = batch.mFirstFrame + (batch.queuedOn streamId).length := by
  obtain ⟨buffer, hbuffer⟩ := List.exists_mem_of_ne_nil _ hout
  obtain ⟨hmem, rfl⟩ := InflightBatch.mem_outputsOn.mp hbuffer
  rcases lt_trichotomy result.frameNumber
    (batch.mFirstFrame + (batch.queuedOn buffer.streamId).length) with hlt | heq | hgt
  · -- the queue would hold the frame already, but the frame comes after all received ones
    have hqueued : result.frameNumber ∈ (batch.queuedOn buffer.streamId).map (·.halFrame) := by
      rw [hframes.numberedFrom, List.mem_range'_1]
      omega
    obtain ⟨earlier, hearlier, hframe⟩ := List.mem_map.mp hqueued
    have hreceived := (hinv.waiting buffer.streamId earlier hearlier).2.1
    have := hresult.increasing buffer hmem earlier hreceived
    omega
  · exact heq
  · -- the frame the queue waits for is skipped, but no frame of a batch is
    have hskipped := hresult.complete buffer hmem batch hdeque hbatched _ hgt (by omega) (by omega)
    have hopen := hresult.not_returned hout hlast
    have := hframes.caughtUp buffer.streamId hbatched hopen _ (by omega) (by omega) hskipped
    omega

/-- The queue with an arriving buffer appended is still numbered from the first frame. -/
theorem BatchFrames.numberedFrom_append (hframes : s.BatchFrames batch)
    (hinv : s.BatchInv batch) (hdeque : batch ∈ s.batcher.mInflightBatches)
    (hresult : s.BuffersInOrder result) (hfirst : batch.mFirstFrame ≤ result.frameNumber)
    (hlast : result.frameNumber ≤ batch.mLastFrame) {streamId : Int}
    (hbatched : streamId ∈ batch.mBatchBufs) :
    (batch.queuedOn streamId ++ result.outputsOn streamId).map (·.halFrame) =
      List.range' batch.mFirstFrame
        (batch.queuedOn streamId ++ result.outputsOn streamId).length := by
  rcases CaptureResult.outputsOn_cases hresult.streams streamId with
    hnil | ⟨buffer, hmem, rfl, hout⟩
  · rw [hnil, List.append_nil]
    exact hframes.numberedFrom streamId
  · have hnext := hframes.next_frame hinv hdeque hresult hfirst hlast hbatched (by simp [hout])
    rw [hout, List.map_append, hframes.numberedFrom, List.length_append, List.length_singleton,
      List.range'_concat, List.map_singleton, hresult.frames buffer hmem, hnext, Nat.one_mul]

theorem BatchFrames.inside_append (hframes : s.BatchFrames batch)
    (hresult : s.BuffersInOrder result) (hlast : result.frameNumber ≤ batch.mLastFrame)
    (streamId : Int) :
    ∀ buffer ∈ batch.queuedOn streamId ++ result.outputsOn streamId,
      buffer.halFrame ≤ batch.mLastFrame := by
  intro buffer hmem
  rcases List.mem_append.mp hmem with hmem | hmem
  · exact hframes.inside streamId buffer hmem
  · rw [hresult.frames buffer (InflightBatch.mem_outputsOn.mp hmem).1]
    exact hlast

/-- The batch of the result keeps its queues numbered through the section. -/
theorem BatchFrames.processCaptureResult (hframes : s.BatchFrames batch)
    (hinv : s.BatchInv batch) (hdeque : batch ∈ s.batcher.mInflightBatches)
    (hresult : s.BuffersInOrder result) (hfirst : batch.mFirstFrame ≤ result.frameNumber)
    (hlast : result.frameNumber ≤ batch.mLastFrame) :
    (s.next (.processCaptureResult result)).BatchFrames (batch.processCaptureResult result).2 := by
  have hopen := hinv.isOpen hresult hlast
  have hends : (batch.processCaptureResult result).2.mFirstFrame = batch.mFirstFrame ∧
      (batch.processCaptureResult result).2.mLastFrame = batch.mLastFrame := by
    rw [InflightBatch.processCaptureResult_frame]
    exact ⟨rfl, rfl⟩
  have hqueue := fun streamId => InflightBatch.queuedOn_processCaptureResult hinv.present
    hinv.settled hopen streamId
  refine ⟨by rw [hends.2]; exact hframes.bounded, ?_, ?_, ?_⟩
  · intro streamId
    rw [hqueue, hends.1]
    split
    next hbatched =>
      split
      next => rfl
      next => exact hframes.numberedFrom_append hinv hdeque hresult hfirst hlast hbatched
    next => rfl
  · intro streamId buffer hmem
    rw [hqueue] at hmem
    rw [hends.2]
    split at hmem
    next =>
      split at hmem
      next => simp at hmem
      next => exact hframes.inside_append hresult hlast streamId buffer hmem
    next => simp at hmem
  · intro streamId hbatched hnot frame hlo hhi hreturned
    rw [InflightBatch.mem_processCaptureResult_mBatchBufs hinv.present hinv.settled hopen]
      at hbatched
    rw [hends.1] at hlo ⊢
    rw [hends.2] at hnot hhi
    -- after the last frame the queue is gone, and so is what there is to show
    have hnotLast : ¬ (result.frameNumber = batch.mLastFrame ∧ result.outputsOn streamId ≠ []) :=
      fun h => hnot (h.1 ▸ returned_of_outputsOn hresult h.2)
    rw [hqueue, if_pos hbatched, if_neg hnotLast, List.length_append]
    rcases returned_next_cases hresult hreturned with hold | ⟨rfl, hout⟩
    · have := hframes.caughtUp streamId hbatched (fun h => hnot h.next) frame hlo hhi hold
      omega
    · have hnext := hframes.next_frame hinv hdeque hresult hfirst hlast hbatched hout
      have hpos := List.length_pos_iff.mpr hout
      omega

/-- A batch that the result lies outside of sees none of its frames return. -/
theorem BatchFrames.other (hframes : s.BatchFrames batch) (hresult : s.BuffersInOrder result)
    (houtside : result.frameNumber < batch.mFirstFrame ∨ batch.mLastFrame < result.frameNumber) :
    (s.next (.processCaptureResult result)).BatchFrames batch := by
  refine ⟨hframes.bounded, hframes.numberedFrom, hframes.inside, ?_⟩
  intro streamId hbatched hnot frame hlo hhi hreturned
  rcases returned_next_cases hresult hreturned with hold | ⟨rfl, _⟩
  · exact hframes.caughtUp streamId hbatched (fun h => hnot h.next) frame hlo hhi hold
  · omega

/-- What the section delivers is attributed to the right frames. -/
theorem BatchFrames.delivers_attributed (hframes : s.BatchFrames batch)
    (hinv : s.BatchInv batch) (hdeque : batch ∈ s.batcher.mInflightBatches)
    (hresult : s.BuffersInOrder result) (hfirst : batch.mFirstFrame ≤ result.frameNumber)
    (hlast : result.frameNumber ≤ batch.mLastFrame) (streamId : Int) :
    Attributed (outputsDelivered streamId (resultsOf (batch.processCaptureResult result).1)) := by
  rw [InflightBatch.processCaptureResult_delivers hinv.present hinv.keyed hinv.settled
    hresult.streams (hinv.isOpen hresult hlast)]
  split
  next hbatched =>
    split
    next =>
      apply attributed_numbered
      · exact hframes.numberedFrom_append hinv hdeque hresult hfirst hlast hbatched
      · exact fun buffer hmem => (hframes.inside_append hresult hlast streamId buffer hmem).trans_lt
          hframes.bounded
    next => simp [Attributed]
  next => exact hresult.attributed streamId

end

/-! ## All operations -/

/-- A batch is registered in time for a stream: none of its frames has come back on the
stream yet, or the last one already has. -/
def InTime (s : BatcherState) (frameNumber batchSize : Nat) : Prop :=
  ∀ streamId ∈ s.batcher.mStreamsToBatch,
    (∀ frame, frameNumber ≤ frame → frame < frameNumber + batchSize →
      ¬ s.Returned streamId frame) ∨ s.Returned streamId (frameNumber + batchSize - 1)

def AttributionContract (s : BatcherState) (op : BatcherOp) : Prop :=
  s.DeliveryContract op ∧
    ∀ frameNumber batchSize, op = .registerBatch frameNumber batchSize →
      s.InTime frameNumber batchSize

structure AttributionInv (s : BatcherState) : Prop where
  delivery : s.DeliveryInv
  batches : ∀ batch ∈ s.batcher.mInflightBatches, s.BatchFrames batch
  attributed : ∀ streamId, Attributed (s.delivered streamId)

section

variable {s : BatcherState}

/-- A result in order keeps the invariant, in a batch or in none. -/
theorem AttributionInv.processCaptureResult (hinv : s.AttributionInv) {result : CaptureResult}
    (hresult : s.BuffersInOrder result) :
    (s.next (.processCaptureResult result)).AttributionInv := by
  have hpresent := fun batch hmem => (hinv.delivery.batches batch hmem).present
  refine ⟨hinv.delivery.processCaptureResult hresult, ?_, ?_⟩
  · intro after hmem
    rcases ResultBatcher.mem_processCaptureResult hpresent hinv.delivery.ordered hmem with
      ⟨hold, houtside⟩ | ⟨batch, hbatch, hfirst, hlast, rfl⟩
    · exact (hinv.batches after hold).other hresult houtside
    · exact (hinv.batches batch hbatch).processCaptureResult (hinv.delivery.batches batch hbatch)
        hbatch hresult hfirst hlast
  · intro streamId
    have hdelivered : (s.next (.processCaptureResult result)).delivered streamId =
        s.delivered streamId ++ outputsDelivered streamId
          (resultsOf (s.batcher.processCaptureResult result).1) := by
      simp only [delivered, next, resultsOf_append, outputsDelivered_append]
    rw [hdelivered]
    apply (hinv.attributed streamId).append
    rcases s.batcher.processCaptureResult_cases hpresent result with
      ⟨-, heq⟩ | ⟨before, batch, rest, removed, hlist, hfirst, hlast, -, -, -, -, heffects⟩
    · rw [heq, resultsOf_processOneCaptureResult, outputsDelivered_singleton]
      exact hresult.attributed streamId
    · have hbatch : batch ∈ s.batcher.mInflightBatches := by simp [hlist]
      rw [heffects]
      exact (hinv.batches batch hbatch).delivers_attributed (hinv.delivery.batches batch hbatch)
        hbatch hresult hfirst hlast streamId

/-- A shutter moves no buffers. -/
theorem AttributionInv.notifyShutter (hinv : s.AttributionInv) (frameNumber : Nat)
    (timestamp : Int) : (s.next (.notify (.shutter frameNumber timestamp))).AttributionInv := by
  have hpresent := fun batch hmem => (hinv.delivery.batches batch hmem).present
  obtain ⟨effects, batcher, heq, hsilent, -⟩ :=
    s.batcher.notify_shutter_cases hpresent frameNumber timestamp
  have hdelivery := hinv.delivery.notifyShutter frameNumber timestamp
  have hnext : s.next (.notify (.shutter frameNumber timestamp)) =
      { s with batcher, effects := s.effects ++ effects } := by
    simp only [next, heq]
  rw [hnext] at hdelivery ⊢
  refine ⟨hdelivery, ?_, ?_⟩
  · intro after hmem
    obtain ⟨batch, hbatch, hafter⟩ := ResultBatcher.mem_notify_shutter hpresent heq hmem
    have hframes : ({ s with batcher, effects := s.effects ++ effects } : BatcherState).BatchFrames
        batch := (hinv.batches batch hbatch).congr rfl
    rw [hafter]
    exact ⟨hframes.bounded, hframes.numberedFrom, hframes.inside, hframes.caughtUp⟩
  · intro streamId
    simp only [delivered, resultsOf_append, hsilent, List.append_nil]
    exact hinv.attributed streamId

/-- An error sends up queues that are numbered, or nothing. -/
theorem AttributionInv.flush_attributed (hinv : s.AttributionInv) {batch : InflightBatch}
    (hbatch : batch ∈ s.batcher.mInflightBatches) (numPartialResults : Nat) (streamId : Int) :
    Attributed (outputsDelivered streamId (resultsOf
      (batch.flush s.batcher.mStreamsToBatch numPartialResults).1)) := by
  have hbatchInv := hinv.delivery.batches batch hbatch
  have hflush := hbatchInv.flush_delivers hinv.delivery.nodup numPartialResults streamId
  rcases hbatchInv.streams with hstreams | hreturned
  · rw [InflightBatch.flush_delivers hbatchInv.keyed hbatchInv.settled hinv.delivery.nodup
      hstreams]
    exact (hinv.batches batch hbatch).attributed streamId
  · rw [hbatchInv.queuedOn_of_returned hreturned, List.map_eq_nil_iff] at hflush
    simp [hflush, Attributed]

/-- An error delivers what the batches up to its own hold, under their frames. -/
theorem AttributionInv.notifyError (hinv : s.AttributionInv) (frameNumber : Nat)
    (errorStreamId : Int) (errorCode : ErrorCode) :
    (s.next (.notify (.error frameNumber errorStreamId errorCode))).AttributionInv := by
  obtain ⟨effects, batcher, heq, -, -, flushed, hlist, -, hresults⟩ :=
    s.batcher.notify_error_cases frameNumber errorStreamId errorCode
  have hdelivery := hinv.delivery.notifyError frameNumber errorStreamId errorCode
  have hnext : s.next (.notify (.error frameNumber errorStreamId errorCode)) =
      { s with batcher, effects := s.effects ++ effects } := by
    simp only [next, heq]
  rw [hnext] at hdelivery ⊢
  refine ⟨hdelivery, ?_, ?_⟩
  · intro batch hmem
    exact (hinv.batches batch (by rw [hlist]; exact List.mem_append_right _ hmem)).congr rfl
  · intro streamId
    simp only [delivered, resultsOf_append, outputsDelivered_append]
    apply (hinv.attributed streamId).append
    intro pair hpair
    rw [hresults, outputsDelivered, List.flatMap_assoc, List.mem_flatMap] at hpair
    obtain ⟨batch, hbatch, hpair⟩ := hpair
    exact hinv.flush_attributed (by simp [hlist, hbatch]) _ streamId pair hpair

/-- A batch that is registered in time keeps the invariant. -/
theorem AttributionInv.registerBatch (hinv : s.AttributionInv) {frameNumber batchSize : Nat}
    (hrange : s.RangeIncreasing frameNumber batchSize) (htime : s.InTime frameNumber batchSize) :
    (s.next (.registerBatch frameNumber batchSize)).AttributionInv := by
  have hnew := s.batcher.newBatch_mBatchBufs frameNumber batchSize
  obtain ⟨hfirst, hlast⟩ := newBatch_ends hrange
  have hempty : ∀ streamId,
      (s.batcher.newBatch frameNumber batchSize).queuedOn streamId = [] := by
    intro streamId
    rw [InflightBatch.queuedOn, hnew]
    split <;> rfl
  refine ⟨hinv.delivery.registerBatch hrange, ?_, hinv.attributed⟩
  intro batch hmem
  rcases List.mem_append.mp hmem with hmem | hmem
  · exact (hinv.batches batch hmem).congr rfl
  · rw [List.mem_singleton.mp hmem]
    have hpos := hrange.1
    refine ⟨Nat.mod_lt _ (by decide), ?_, ?_, ?_⟩
    · intro streamId
      rw [hempty]
      rfl
    · intro streamId buffer hbuffer
      simp [hempty] at hbuffer
    · intro streamId hbatched hnot frame hlo hhi hreturned
      rw [Std.ExtTreeMap.mem_iff_isSome_getElem?, hnew] at hbatched
      rw [hlast] at hnot hhi
      rw [hfirst] at hlo
      have hmember : streamId ∈ s.batcher.mStreamsToBatch := by
        by_contra hnotMember
        simp [hnotMember] at hbatched
      -- with none of the frames returned the queue starts at the first, with all it stays empty
      rcases htime streamId hmember with hnone | hall
      · exact absurd hreturned (hnone frame hlo (by omega))
      · exact absurd hall hnot

/-- Every operation within the contract keeps the invariant. -/
theorem AttributionInv.next (hinv : s.AttributionInv) {op : BatcherOp}
    (hop : s.AttributionContract op) : (s.next op).AttributionInv := by
  cases op with
  | setBatchedStreams streamsToBatch =>
      exact ⟨hinv.delivery.setBatchedStreams hop.1.1 hop.1.2,
        fun batch hmem => (hinv.batches batch hmem).congr rfl, hinv.attributed⟩
  | registerBatch frameNumber batchSize =>
      exact hinv.registerBatch hop.1 (hop.2 frameNumber batchSize rfl)
  | processCaptureResult result => exact hinv.processCaptureResult hop.1
  | notify msg =>
      cases msg with
      | shutter frameNumber timestamp => exact hinv.notifyShutter frameNumber timestamp
      | error frameNumber errorStreamId errorCode =>
          exact hinv.notifyError frameNumber errorStreamId errorCode

end

theorem attributionInv_initial (numPartialResults : Nat) :
    (initial numPartialResults).AttributionInv :=
  ⟨deliveryInv_initial numPartialResults, by simp [initial],
    fun _ => by simp [initial, delivered, Attributed]⟩

end BatcherState

end LgeHardware.Camera
