import Mathlib.Algebra.Group.Int.Defs
import Mathlib.Algebra.Group.Nat.Defs
import LgeHardware.Camera.Types

/-! # The result batcher

`CameraDeviceSession::ResultBatcher` collects the shutters, buffers and metadata
of a batch of requests and forwards them when the last frame of the batch has
come, or earlier when an error is notified. Each locked section of the source is
one function on an `InflightBatch` or on the deque. What a section does to the
outside is the list of its effects, in order: the calls of the framework
callbacks and the closing of file descriptors.

Moving a `StreamBuffer` by way of `makeFromAidl` and `makeToAidl` overwrites the
old owner of its release fence, which closes the descriptors, while the new owner
keeps their numbers.
-/

namespace LgeHardware.Camera

/-- Arithmetic on `uint32_t` frame numbers wraps around. -/
def uint32 (n : Nat) : Nat := n % 2 ^ 32

inductive Effect
  | notify (msgs : List NotifyMsg)
  /-- A call of `invokeProcessCaptureResultCallback`. -/
  | processCaptureResult (results : List CaptureResult) (tryWriteFmq : Bool)
  | close (fd : Int)
  deriving DecidableEq, Repr

def closeAll (fds : List Int) : List Effect := fds.map .close

/-- The descriptors owned by the release fences of a buffer list. -/
def releaseFences (buffers : List StreamBuffer) : List Int := buffers.flatMap (·.releaseFence)

/-- The descriptors owned by the release fences of a result, as `freeReleaseFences`
and the destructor of the result visit them. -/
def CaptureResult.releaseFences (result : CaptureResult) : List Int :=
  result.inputBuffer.releaseFence ++ Camera.releaseFences result.outputBuffers

structure BufferBatch where
  mDelivered : Bool := false
  mBuffers : List StreamBuffer := []
  deriving DecidableEq

structure InflightBatch where
  mFirstFrame : Nat
  mLastFrame : Nat
  mBatchSize : Nat
  mShutterDelivered : Bool := false
  mShutterMsgs : List NotifyMsg := []
  /-- Stream id to the buffers batched for it. -/
  mBatchBufs : Std.ExtTreeMap Int BufferBatch
  mNumPartialResults : Nat
  mPartialResultProgress : Nat := 0
  /-- Partial result index to the pairs of frame number and metadata. -/
  mResultMds : Std.ExtTreeMap Nat (List (Nat × Blob)) := ∅
  mRemoved : Bool := false
  deriving DecidableEq

structure ResultBatcher where
  mInflightBatches : List InflightBatch := []
  mNumPartialResults : Nat := 1
  mStreamsToBatch : List Int := []
  deriving DecidableEq

/-! ## Sending what a batch holds -/

namespace InflightBatch

def allDelivered (batch : InflightBatch) : Bool :=
  batch.mShutterDelivered && decide (batch.mNumPartialResults ≤ batch.mPartialResultProgress) &&
    batch.mBatchBufs.toList.all fun pair => pair.2.mDelivered

def sendBatchShutterCbsLocked (batch : InflightBatch) : List Effect × InflightBatch :=
  if batch.mShutterDelivered then ([], batch)
  else ([.notify batch.mShutterMsgs], { batch with mShutterDelivered := true, mShutterMsgs := [] })

/-- The buffers a stream still has to deliver; `none` for a stream that is not batched. -/
def pending (batch : InflightBatch) (streamId : Int) : Option (List StreamBuffer) :=
  batch.mBatchBufs[streamId]?.map fun bb => if bb.mDelivered then [] else bb.mBuffers

/-- The largest number of buffers pending on one of the streams; `none` when one of
them is not batched. -/
def pendingSize (batch : InflightBatch) (streams : List Int) : Option Nat :=
  streams.foldlM
    (fun size streamId => (batch.pending streamId).map fun bufs => max size bufs.length) 0

/-- The buffers collected for the `i`-th result. A stream listed twice yields its
buffer twice, the second time with the handle that the first move left behind. -/
def collect (batch : InflightBatch) (i : Nat) (seen : List Int) : List Int → List StreamBuffer
  | [] => []
  | streamId :: rest =>
      let buffer := (batch.pending streamId).bind (·[i]?)
      let taken := buffer.map fun b => if streamId ∈ seen then { b with releaseFence := [] } else b
      taken.toList ++ batch.collect i (streamId :: seen) rest

/-- Mark streams delivered and drop what is left in their queues. -/
def markDelivered (batch : InflightBatch) (streams : List Int) : InflightBatch :=
  { batch with
    mBatchBufs := streams.foldl (fun bufs streamId =>
      bufs.insert streamId { mDelivered := true, mBuffers := [] }) batch.mBatchBufs }

/-- The buffers that clearing the queues of the streams destroys: those of streams
that were delivered before and hence are not collected. -/
def leftover (batch : InflightBatch) (streams : List Int) : List StreamBuffer :=
  streams.dedup.flatMap fun streamId =>
    (batch.mBatchBufs[streamId]?.map fun bb => if bb.mDelivered then bb.mBuffers else []).getD []

def bufferResults (batch : InflightBatch) (streams : List Int) (size : Nat) :
    List CaptureResult :=
  (List.range size).map fun i =>
    { frameNumber := uint32 (batch.mFirstFrame + i)
      inputBuffer := { streamId := -1 }
      outputBuffers := batch.collect i [] streams }

/-- `sendBatchBuffersLocked` for the given streams. -/
def sendBatchBuffersLocked (batch : InflightBatch) (streams : List Int) :
    List Effect × InflightBatch :=
  match batch.pendingSize streams with
  | none => ([], batch)
  | some 0 =>
      -- nothing to send: the streams are marked delivered and keep their queues
      ([], { batch with
        mBatchBufs := streams.foldl (fun bufs streamId =>
          bufs.alter streamId (Option.map fun bb => { bb with mDelivered := true }))
          batch.mBatchBufs })
  | some size =>
      let results := batch.bufferResults streams size
      let fences := results.flatMap CaptureResult.releaseFences
      -- each buffer is pushed once and moved once, and its fence is closed at both; afterwards
      -- `freeReleaseFences` and the destructors of the results close it again
      let moves := results.flatMap fun result =>
        closeAll result.releaseFences ++ closeAll result.releaseFences
      (moves ++ [.processCaptureResult results false] ++ closeAll fences ++
          closeAll (releaseFences (batch.leftover streams)) ++ closeAll fences,
        batch.markDelivered streams)

/-- The results made of the metadata queued up to a partial result index. -/
def metadataResults (batch : InflightBatch) (lastPartialResultIdx : Nat) : List CaptureResult :=
  (batch.mResultMds.toList.filter fun pair => pair.1 ≤ lastPartialResultIdx).flatMap fun pair =>
    pair.2.map fun md =>
      { frameNumber := md.1
        result := md.2
        inputBuffer := { streamId := -1 }
        partialResult := pair.1 }

def sendBatchMetadataLocked (batch : InflightBatch) (lastPartialResultIdx : Nat) :
    List Effect × InflightBatch :=
  if lastPartialResultIdx ≤ batch.mPartialResultProgress then ([], batch)
  else
    ([.processCaptureResult (batch.metadataResults lastPartialResultIdx) true],
      { batch with
        mPartialResultProgress := lastPartialResultIdx
        mResultMds := batch.mResultMds.filter fun idx _ => !decide (idx ≤ lastPartialResultIdx) })

/-- What the destructor of a batch closes. -/
def destroy (batch : InflightBatch) : List Effect :=
  closeAll (batch.mBatchBufs.toList.flatMap fun pair => releaseFences pair.2.mBuffers)

end InflightBatch

/-! ## Results and shutters of single frames -/

/-- `processOneCaptureResult`: the callback, then `freeReleaseFences`, then the
destructor of the results vector. -/
def processOneCaptureResult (result : CaptureResult) : List Effect :=
  .processCaptureResult [result] true ::
    (closeAll result.releaseFences ++ closeAll result.releaseFences)

def notifySingleMsg (msg : NotifyMsg) : List Effect := [.notify [msg]]

namespace InflightBatch

/-- Save the metadata of a result for the sweep of its partial index. -/
def queueMetadata (batch : InflightBatch) (result : CaptureResult) : InflightBatch :=
  if result.result = [] then batch
  else
    { batch with
      mResultMds := batch.mResultMds.insert result.partialResult
        ((batch.mResultMds[result.partialResult]?).getD [] ++
          [(result.frameNumber, result.result)]) }

/-- The locals of `processCaptureResult` while it distributes the output buffers. -/
structure Queued where
  effects : List Effect := []
  batch : InflightBatch
  filledStreams : List Int := []
  nonBatchedBuffers : List StreamBuffer := []

/-- Queue one output buffer, or set it aside when its stream is not batched. Either
way `pushStreamBuffer` closes its release fence. -/
def queueBuffer (queued : Queued) (buffer : StreamBuffer) : Queued :=
  match queued.batch.mBatchBufs[buffer.streamId]? with
  | some bb =>
      { queued with
        effects := queued.effects ++ closeAll buffer.releaseFence
        batch := { queued.batch with
          mBatchBufs := queued.batch.mBatchBufs.insert buffer.streamId
            { bb with mBuffers := bb.mBuffers ++ [buffer] } }
        filledStreams := queued.filledStreams ++ [buffer.streamId] }
  | none =>
      { queued with
        effects := queued.effects ++ closeAll buffer.releaseFence
        nonBatchedBuffers := queued.nonBatchedBuffers ++ [buffer] }

/-- The result with the buffers that are not batched, sent up at once. -/
def sendNonBatched (result : CaptureResult) (nonBatchedBuffers : List StreamBuffer) :
    List Effect :=
  if nonBatchedBuffers ≠ [] ∨ result.inputBuffer.streamId ≠ -1 then
    closeAll (releaseFences nonBatchedBuffers) ++ closeAll result.inputBuffer.releaseFence ++
      processOneCaptureResult
        { frameNumber := result.frameNumber
          outputBuffers := nonBatchedBuffers
          inputBuffer := result.inputBuffer }
  else []

/-- What the caller's destructor of the result still finds to close: its input
buffer, unless that was moved into the result sent up at once. -/
def residue (result : CaptureResult) (nonBatchedBuffers : List StreamBuffer) : List Effect :=
  if nonBatchedBuffers ≠ [] ∨ result.inputBuffer.streamId ≠ -1 then []
  else closeAll result.inputBuffer.releaseFence

/-- What the last frame of a batch sends up. -/
def sendLastFrame (batch : InflightBatch) (result : CaptureResult) (filledStreams : List Int) :
    List Effect × InflightBatch :=
  if result.frameNumber = batch.mLastFrame then
    let (mdEffects, batch) :=
      if 0 < result.partialResult then batch.sendBatchMetadataLocked result.partialResult
      else ([], batch)
    let (bufEffects, batch) :=
      if filledStreams ≠ [] then batch.sendBatchBuffersLocked filledStreams else ([], batch)
    (mdEffects ++ bufEffects, batch)
  else ([], batch)

/-- The section of `processCaptureResult` under the lock of the batch. -/
def processCaptureResult (batch : InflightBatch) (result : CaptureResult) :
    List Effect × InflightBatch :=
  if batch.mRemoved then (processOneCaptureResult result, batch)
  else
    let queued := result.outputBuffers.foldl queueBuffer { batch := batch.queueMetadata result }
    let (lastEffects, last) := queued.batch.sendLastFrame result queued.filledStreams
    (queued.effects ++ sendNonBatched result queued.nonBatchedBuffers ++ lastEffects ++
      residue result queued.nonBatchedBuffers, last)

/-- The section of `notify` for a shutter under the lock of the batch. -/
def notifyShutter (batch : InflightBatch) (msg : NotifyMsg) : List Effect × InflightBatch :=
  if batch.mRemoved then (notifySingleMsg msg, batch)
  else
    let queued := { batch with mShutterMsgs := batch.mShutterMsgs ++ [msg] }
    if msg.frameNumber = batch.mLastFrame then queued.sendBatchShutterCbsLocked else ([], queued)

/-- What an error notification sends up for one batch before it removes it. -/
def flush (batch : InflightBatch) (streamsToBatch : List Int) (numPartialResults : Nat) :
    List Effect × InflightBatch :=
  let (shutterEffects, batch) := batch.sendBatchShutterCbsLocked
  let (bufEffects, batch) := batch.sendBatchBuffersLocked streamsToBatch
  let (mdEffects, batch) := batch.sendBatchMetadataLocked numPartialResults
  (shutterEffects ++ bufEffects ++ mdEffects, { batch with mRemoved := true })

end InflightBatch

/-! ## The deque of batches -/

namespace ResultBatcher

def setBatchedStreams (s : ResultBatcher) (streamsToBatch : List Int) : ResultBatcher :=
  { s with mStreamsToBatch := streamsToBatch }

/-- The batch that `registerBatch` builds. -/
def newBatch (s : ResultBatcher) (frameNumber batchSize : Nat) : InflightBatch :=
  { mFirstFrame := frameNumber
    mBatchSize := batchSize
    mLastFrame := uint32 (frameNumber + batchSize + (2 ^ 32 - 1))
    mNumPartialResults := s.mNumPartialResults
    mBatchBufs := s.mStreamsToBatch.foldl (fun bufs id => bufs.insertIfNew id {}) ∅ }

def registerBatch (s : ResultBatcher) (frameNumber batchSize : Nat) : ResultBatcher :=
  { s with mInflightBatches := s.mInflightBatches ++ [s.newBatch frameNumber batchSize] }

end ResultBatcher

def InflightBatch.contains (batch : InflightBatch) (frameNumber : Nat) : Bool :=
  batch.mFirstFrame ≤ frameNumber && frameNumber ≤ batch.mLastFrame

namespace ResultBatcher

/-- The position of the batch a frame belongs to, and the batch; `none` stands for
`NOT_BATCHED`. -/
def getBatch (s : ResultBatcher) (frameNumber : Nat) : Option (Nat × InflightBatch) :=
  match s.mInflightBatches.head?, s.mInflightBatches.getLast? with
  | some first, some last =>
      if frameNumber < first.mFirstFrame ∨ last.mLastFrame < frameNumber then none
      else
        (s.mInflightBatches.findIdx? (·.contains frameNumber)).bind fun i =>
          s.mInflightBatches[i]?.map fun batch => (i, batch)
  | _, _ => none

/-- `checkAndRemoveFirstBatch`, with the batch it removes. -/
def checkAndRemoveFirstBatch (s : ResultBatcher) : Option InflightBatch × ResultBatcher :=
  match s.mInflightBatches with
  | [] => (none, s)
  | batch :: rest =>
      if batch.allDelivered then
        (some { batch with mRemoved := true }, { s with mInflightBatches := rest })
      else (none, s)

/-- The loop of the error path: `n` times, flush and remove the first batch. The
result is `none` where `mInflightBatches[0]` is read of an empty deque. A batch is
destroyed at the end of its iteration, the last one at the end of `notify`. -/
def flushBatches : Nat → ResultBatcher → Option (List Effect × List InflightBatch × ResultBatcher)
  | 0, s => some ([], [], s)
  | n + 1, s =>
      match s.mInflightBatches with
      | [] => none
      | batch :: rest =>
          let (effects, flushed) := batch.flush s.mStreamsToBatch s.mNumPartialResults
          let destroyed := if n = 0 then [] else flushed.destroy
          (flushBatches n { s with mInflightBatches := rest }).map fun (more, removed, s) =>
            (effects ++ destroyed ++ more, flushed :: removed, s)

/-- The check for a complete batch after the last frame of a batch. -/
def finishLastFrame (s : ResultBatcher) (batch : InflightBatch) (frameNumber : Nat) :
    List Effect × ResultBatcher :=
  if frameNumber = batch.mLastFrame then
    let (removed, s) := s.checkAndRemoveFirstBatch
    (removed.elim [] InflightBatch.destroy, s)
  else ([], s)

def setBatch (s : ResultBatcher) (i : Nat) (batch : InflightBatch) : ResultBatcher :=
  { s with mInflightBatches := s.mInflightBatches.set i batch }

/-- `notify`, with no other thread in between. -/
def notify (s : ResultBatcher) (msg : NotifyMsg) : Option (List Effect × ResultBatcher) :=
  match s.getBatch msg.frameNumber with
  | none => some (notifySingleMsg msg, s)
  | some (batchIdx, batch) =>
      match msg with
      | .error .. =>
          (s.flushBatches (batchIdx + 1)).map fun (effects, removed, s) =>
            (effects ++ notifySingleMsg msg ++
              (removed.getLast?.map InflightBatch.destroy).getD [], s)
      | .shutter .. =>
          let (effects, queued) := batch.notifyShutter msg
          let (more, s) :=
            if batch.mRemoved then ([], s)
            else (s.setBatch batchIdx queued).finishLastFrame batch msg.frameNumber
          some (effects ++ more, s)

/-- `processCaptureResult`, with no other thread in between. -/
def processCaptureResult (s : ResultBatcher) (result : CaptureResult) :
    List Effect × ResultBatcher :=
  match s.getBatch result.frameNumber with
  | none => (processOneCaptureResult result, s)
  | some (batchIdx, batch) =>
      let (effects, queued) := batch.processCaptureResult result
      let (more, s) :=
        if batch.mRemoved then ([], s)
        else (s.setBatch batchIdx queued).finishLastFrame batch result.frameNumber
      (effects ++ more, s)

end ResultBatcher

end LgeHardware.Camera
