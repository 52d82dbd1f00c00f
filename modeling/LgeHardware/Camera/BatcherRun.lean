import LgeHardware.Foundation.Run
import LgeHardware.Camera.BatcherLaws

/-! # Runs of the result batcher

A run is a sequence of operations, each taken as one step. The state keeps, next
to the batcher, what the framework was sent and what the HAL handed over, so that
the two can be compared at every point.
-/

namespace LgeHardware.Camera

open LgeHardware.Foundation

inductive BatcherOp
  | setBatchedStreams (streamsToBatch : List Int)
  | registerBatch (frameNumber batchSize : Nat)
  | processCaptureResult (result : CaptureResult)
  | notify (msg : NotifyMsg)

structure BatcherState where
  batcher : ResultBatcher
  /-- What the batcher did to the outside. -/
  effects : List Effect := []
  /-- The results the HAL gave to `processCaptureResult`. -/
  results : List CaptureResult := []

namespace BatcherState

/-- A new batcher for a device with the given number of partial results. -/
def initial (numPartialResults : Nat) : BatcherState :=
  { batcher := { mNumPartialResults := numPartialResults } }

def next (s : BatcherState) : BatcherOp → BatcherState
  | .setBatchedStreams streamsToBatch =>
      { s with batcher := s.batcher.setBatchedStreams streamsToBatch }
  | .registerBatch frameNumber batchSize =>
      { s with batcher := s.batcher.registerBatch frameNumber batchSize }
  | .processCaptureResult result =>
      let (effects, batcher) := s.batcher.processCaptureResult result
      { batcher, effects := s.effects ++ effects, results := s.results ++ [result] }
  | .notify msg =>
      match s.batcher.notify msg with
      | some (effects, batcher) => { s with batcher, effects := s.effects ++ effects }
      | none => s

/-- The output buffers received on a stream, in order. -/
def received (s : BatcherState) (streamId : Int) : List StreamBuffer :=
  s.results.flatMap (·.outputsOn streamId)

/-- A result adds its buffers of the stream. -/
theorem received_processCaptureResult {s : BatcherState} {result : CaptureResult}
    (streamId : Int) :
    (s.next (.processCaptureResult result)).received streamId =
      s.received streamId ++ result.outputsOn streamId := by
  simp [next, received]

/-- The output buffers delivered on a stream, in order, with their frame numbers. -/
def delivered (s : BatcherState) (streamId : Int) : List (Nat × StreamBuffer) :=
  outputsDelivered streamId (resultsOf s.effects)

/-- The output buffers queued for a stream, in deque order. -/
def queued (s : BatcherState) (streamId : Int) : List StreamBuffer :=
  s.batcher.mInflightBatches.flatMap (·.queuedOn streamId)

/-- The input buffers received and delivered on a stream, in order. -/
def inputsReceived (s : BatcherState) (streamId : Int) : List StreamBuffer :=
  s.results.flatMap (·.inputsOn streamId)

def inputsDelivered (s : BatcherState) (streamId : Int) : List StreamBuffer :=
  Camera.inputsDelivered streamId (resultsOf s.effects)

/-- The HAL has returned the buffer of a stream for a frame. -/
def Returned (s : BatcherState) (streamId : Int) (frameNumber : Nat) : Prop :=
  ∃ buffer ∈ s.received streamId, buffer.halFrame = frameNumber

instance (s : BatcherState) (streamId : Int) (frameNumber : Nat) :
    Decidable (s.Returned streamId frameNumber) :=
  inferInstanceAs (Decidable (∃ buffer ∈ s.received streamId, buffer.halFrame = frameNumber))

/-- A frame has come back on a stream with one of the buffers received there. -/
theorem returned_iff (s : BatcherState) (streamId : Int) (frame : Nat) :
    s.Returned streamId frame ↔ frame ∈ (s.received streamId).map (·.halFrame) := by
  simp only [Returned, List.mem_map]

theorem received_congr {s s' : BatcherState} (hresults : s'.results = s.results) :
    s'.received = s.received := by
  funext streamId
  rw [received, received, hresults]

theorem returned_congr {s s' : BatcherState} (hresults : s'.results = s.results) :
    s'.Returned = s.Returned := by
  funext streamId frame
  rw [Returned, Returned, received_congr hresults]

/-- What is assumed of a HAL result: its buffers are on different streams, each
later than all buffers returned on its stream before; and since every request of a
batch outputs to every stream of the batch, no frame of a batch is skipped. -/
structure BuffersInOrder (s : BatcherState) (result : CaptureResult) : Prop where
  frames : ∀ buffer ∈ result.outputBuffers, buffer.halFrame = result.frameNumber
  streams : (result.outputBuffers.map (·.streamId)).Nodup
  increasing : ∀ buffer ∈ result.outputBuffers, ∀ earlier ∈ s.received buffer.streamId,
    earlier.halFrame < result.frameNumber
  complete : ∀ buffer ∈ result.outputBuffers, ∀ batch ∈ s.batcher.mInflightBatches,
    buffer.streamId ∈ batch.mBatchBufs → ∀ frame < result.frameNumber,
      batch.mFirstFrame ≤ frame → frame ≤ batch.mLastFrame → s.Returned buffer.streamId frame

instance (s : BatcherState) (result : CaptureResult) : Decidable (s.BuffersInOrder result) :=
  decidable_of_iff
    ((∀ buffer ∈ result.outputBuffers, buffer.halFrame = result.frameNumber) ∧
      (result.outputBuffers.map (·.streamId)).Nodup ∧
      (∀ buffer ∈ result.outputBuffers, ∀ earlier ∈ s.received buffer.streamId,
        earlier.halFrame < result.frameNumber) ∧
      ∀ buffer ∈ result.outputBuffers, ∀ batch ∈ s.batcher.mInflightBatches,
        buffer.streamId ∈ batch.mBatchBufs → ∀ frame < result.frameNumber,
          batch.mFirstFrame ≤ frame → frame ≤ batch.mLastFrame →
            s.Returned buffer.streamId frame)
    ⟨fun ⟨hframes, hstreams, hincreasing, hcomplete⟩ =>
        ⟨hframes, hstreams, hincreasing, hcomplete⟩,
      fun h => ⟨h.frames, h.streams, h.increasing, h.complete⟩⟩

/-- A batch is registered for frames above those of all batches in the deque. -/
def RangeIncreasing (s : BatcherState) (frameNumber batchSize : Nat) : Prop :=
  0 < batchSize ∧ frameNumber + batchSize ≤ 2 ^ 32 ∧
    ∀ batch ∈ s.batcher.mInflightBatches, batch.mLastFrame < frameNumber

instance (s : BatcherState) (frameNumber batchSize : Nat) :
    Decidable (s.RangeIncreasing frameNumber batchSize) :=
  inferInstanceAs (Decidable (_ ∧ _ ∧ _))

theorem newBatch_ends {s : BatcherState} {frameNumber batchSize : Nat}
    (h : s.RangeIncreasing frameNumber batchSize) :
    (s.batcher.newBatch frameNumber batchSize).mFirstFrame = frameNumber ∧
      (s.batcher.newBatch frameNumber batchSize).mLastFrame = frameNumber + batchSize - 1 := by
  refine ⟨rfl, ?_⟩
  obtain ⟨hpos, hfit, _⟩ := h
  simp only [ResultBatcher.newBatch, uint32]
  omega

/-- A batch behind all others keeps the batches in order. -/
theorem ordered_registerBatch {s : BatcherState}
    (hordered : ResultBatcher.Ordered s.batcher.mInflightBatches) {frameNumber batchSize : Nat}
    (h : s.RangeIncreasing frameNumber batchSize) :
    ResultBatcher.Ordered (s.batcher.registerBatch frameNumber batchSize).mInflightBatches := by
  obtain ⟨hfirst, hlast⟩ := newBatch_ends h
  apply hordered.concat
  · rw [hfirst, hlast]
    have hpos := h.1
    omega
  · rw [hfirst]
    exact h.2.2

end BatcherState

end LgeHardware.Camera
