import LgeHardware.Foundation.Lifecycle
import LgeHardware.Camera.BatcherRun

/-! # Who closes a release fence

A release fence has one owner. `makeFromAidl` only looks at the descriptors of a
`NativeHandle`, yet `moveStreamBuffer` and `pushStreamBuffer` overwrite the owner they
looked at, which closes the descriptors, and hand the closed numbers on; and
`freeReleaseFences` closes descriptors that the destructors of the results close
again. So the life of a fence that the HAL hands over is in order in no run.
-/

namespace LgeHardware.Camera

open LgeHardware.Foundation

/-- What effects do to descriptors: a callback uses the release fences of its results. -/
def fenceLog (effects : List Effect) : List (LifeEvent Int) :=
  effects.flatMap fun
    | .notify _ => []
    | .processCaptureResult results _ => (results.flatMap (·.releaseFences)).map .use
    | .close fd => [.release fd]

@[simp] theorem fenceLog_nil : fenceLog [] = [] := rfl

@[simp] theorem fenceLog_append (first second : List Effect) :
    fenceLog (first ++ second) = fenceLog first ++ fenceLog second := List.flatMap_append

@[simp] theorem fenceLog_notify (msgs : List NotifyMsg) (rest : List Effect) :
    fenceLog (.notify msgs :: rest) = fenceLog rest := rfl

@[simp] theorem fenceLog_processCaptureResult (results : List CaptureResult) (tryWriteFmq : Bool)
    (rest : List Effect) : fenceLog (.processCaptureResult results tryWriteFmq :: rest) =
      (results.flatMap (·.releaseFences)).map .use ++ fenceLog rest := rfl

@[simp] theorem fenceLog_closeAll (fds : List Int) :
    fenceLog (closeAll fds) = fds.map .release := by
  induction fds with
  | nil => rfl
  | cons fd rest ih => exact congrArg (LifeEvent.release fd :: ·) ih

/-- No event of the log is about the descriptor. -/
def Untouched (fd : Int) (log : List (LifeEvent Int)) : Prop :=
  ∀ event ∈ log, event.resource ≠ fd

section

variable {fd : Int}

@[simp] theorem untouched_nil : Untouched fd [] := by simp [Untouched]

@[simp] theorem untouched_append {first second : List (LifeEvent Int)} :
    Untouched fd (first ++ second) ↔ Untouched fd first ∧ Untouched fd second := by
  simp [Untouched, or_imp, forall_and]

@[simp] theorem untouched_release {fds : List Int} :
    Untouched fd (fds.map .release) ↔ fd ∉ fds := by
  simp only [Untouched, List.forall_mem_map, LifeEvent.resource]
  exact ⟨fun h hmem => h fd hmem rfl, fun h other hmem heq => h (heq ▸ hmem)⟩

@[simp] theorem untouched_use {fds : List Int} : Untouched fd (fds.map .use) ↔ fd ∉ fds := by
  simp only [Untouched, List.forall_mem_map, LifeEvent.resource]
  exact ⟨fun h hmem => h fd hmem rfl, fun h other hmem heq => h (heq ▸ hmem)⟩

theorem mem_releaseFences {buffers : List StreamBuffer} :
    fd ∈ releaseFences buffers ↔ ∃ buffer ∈ buffers, fd ∈ buffer.releaseFence := List.mem_flatMap

theorem CaptureResult.mem_releaseFences {result : CaptureResult} :
    fd ∈ result.releaseFences ↔
      fd ∈ result.inputBuffer.releaseFence ∨ fd ∈ Camera.releaseFences result.outputBuffers :=
  List.mem_append

namespace InflightBatch

variable {batch : InflightBatch}

/-- No buffer of the batch carries the descriptor. -/
def Avoids (fd : Int) (batch : InflightBatch) : Prop :=
  ∀ (streamId : Int) (bb : BufferBatch), batch.mBatchBufs[streamId]? = some bb →
    fd ∉ releaseFences bb.mBuffers

theorem Avoids.collect (h : batch.Avoids fd) (i : Nat) (seen streams : List Int) :
    fd ∉ releaseFences (batch.collect i seen streams) := by
  induction streams generalizing seen with
  | nil => simp [InflightBatch.collect, releaseFences]
  | cons streamId rest ih =>
      rw [InflightBatch.collect, releaseFences, List.flatMap_append, List.mem_append, not_or]
      refine ⟨?_, ih _⟩
      cases hbuffer : (batch.pending streamId).bind (·[i]?) with
      | none => simp
      | some buffer =>
          have hnot : fd ∉ buffer.releaseFence := by
            obtain ⟨buffers, hpending, hget⟩ := Option.bind_eq_some_iff.mp hbuffer
            obtain ⟨bb, hbb, rfl⟩ := Option.map_eq_some_iff.mp hpending
            have hmem := List.mem_of_getElem? hget
            split at hmem
            next => simp at hmem
            next =>
              exact fun hfd => h streamId bb hbb (mem_releaseFences.mpr ⟨buffer, hmem, hfd⟩)
          by_cases hseen : streamId ∈ seen
          · simp [hseen]
          · simpa [hseen] using hnot

theorem Avoids.bufferResults (h : batch.Avoids fd) (streams : List Int) (size : Nat) :
    fd ∉ (batch.bufferResults streams size).flatMap (·.releaseFences) := by
  rw [List.mem_flatMap]
  rintro ⟨result, hmem, hfd⟩
  obtain ⟨i, -, rfl⟩ := List.mem_map.mp hmem
  rcases CaptureResult.mem_releaseFences.mp hfd with hinput | houtput
  · simp at hinput
  · exact h.collect i [] streams houtput

theorem Avoids.leftover (h : batch.Avoids fd) (streams : List Int) :
    fd ∉ releaseFences (batch.leftover streams) := by
  rw [mem_releaseFences]
  rintro ⟨buffer, hmem, hfd⟩
  obtain ⟨streamId, -, hmem⟩ := List.mem_flatMap.mp hmem
  cases hbb : batch.mBatchBufs[streamId]? with
  | none => simp [hbb] at hmem
  | some bb =>
      rw [hbb, Option.map_some, Option.getD_some] at hmem
      split at hmem
      · exact h streamId bb hbb (mem_releaseFences.mpr ⟨buffer, hmem, hfd⟩)
      · simp at hmem

/-- Marking streams delivered moves no buffer. -/
theorem foldl_delivered_avoids (streams : List Int) {bufs : Std.ExtTreeMap Int BufferBatch}
    (h : ∀ (streamId : Int) (bb : BufferBatch), bufs[streamId]? = some bb →
      fd ∉ releaseFences bb.mBuffers) :
    ∀ (streamId : Int) (bb : BufferBatch), (streams.foldl (fun bufs streamId =>
      bufs.alter streamId (Option.map fun bb => { bb with mDelivered := true }))
        bufs)[streamId]? = some bb → fd ∉ releaseFences bb.mBuffers := by
  induction streams generalizing bufs with
  | nil => exact h
  | cons first rest ih =>
      refine ih fun streamId bb hbb => ?_
      rw [Std.ExtTreeMap.getElem?_alter] at hbb
      split at hbb
      · obtain ⟨old, hold, rfl⟩ := Option.map_eq_some_iff.mp hbb
        exact h first old hold
      · exact h streamId bb hbb

theorem Avoids.sendBatchBuffersLocked (h : batch.Avoids fd) (streams : List Int) :
    Untouched fd (fenceLog (batch.sendBatchBuffersLocked streams).1) ∧
      (batch.sendBatchBuffersLocked streams).2.Avoids fd := by
  unfold InflightBatch.sendBatchBuffersLocked
  split
  next => exact ⟨untouched_nil, h⟩
  next =>
    exact ⟨untouched_nil, foldl_delivered_avoids streams h⟩
  next size _ _ =>
    have hresults := h.bufferResults streams size
    refine ⟨?_, ?_⟩
    · have hmoves : Untouched fd (fenceLog ((batch.bufferResults streams size).flatMap
          fun result => closeAll result.releaseFences ++ closeAll result.releaseFences)) := by
        revert hresults
        generalize batch.bufferResults streams size = results
        intro hresults
        induction results with
        | nil => exact untouched_nil
        | cons result rest ih =>
            rw [List.flatMap_cons, List.mem_append, not_or] at hresults
            simp [hresults.1, ih hresults.2]
      simp [hmoves, hresults, h.leftover streams]
    · intro streamId bb hbb
      rw [getElem?_markDelivered] at hbb
      split at hbb
      · cases hbb
        simp [releaseFences]
      · exact h streamId bb hbb

theorem untouched_sendBatchMetadataLocked (batch : InflightBatch) (idx : Nat) :
    Untouched fd (fenceLog (batch.sendBatchMetadataLocked idx).1) := by
  unfold sendBatchMetadataLocked
  split
  · exact untouched_nil
  · simp only [fenceLog_processCaptureResult, fenceLog_nil, List.append_nil, untouched_use,
      List.mem_flatMap]
    rintro ⟨result, hmem, hfd⟩
    obtain ⟨houtput, hinput⟩ := outputBuffers_of_mem_metadataResults hmem
    simp [CaptureResult.releaseFences, houtput, hinput, releaseFences] at hfd

theorem untouched_sendBatchShutterCbsLocked (batch : InflightBatch) :
    Untouched fd (fenceLog batch.sendBatchShutterCbsLocked.1) := by
  unfold sendBatchShutterCbsLocked
  split <;> simp

/-- A shutter touches no fences. -/
theorem untouched_notifyShutter (batch : InflightBatch) (msg : NotifyMsg) :
    Untouched fd (fenceLog (batch.notifyShutter msg).1) := by
  unfold notifyShutter
  split
  · simp [notifySingleMsg]
  · dsimp only
    split
    · exact untouched_sendBatchShutterCbsLocked _
    · exact untouched_nil

theorem Avoids.destroy (h : batch.Avoids fd) : Untouched fd (fenceLog batch.destroy) := by
  rw [InflightBatch.destroy, fenceLog_closeAll, untouched_release, List.mem_flatMap]
  rintro ⟨⟨streamId, bb⟩, hmem, hfd⟩
  exact h streamId bb (Std.ExtTreeMap.mem_toList_iff_getElem?_eq_some.mp hmem) hfd

/-- A flush touches no fence that is not queued. -/
theorem Avoids.flush (h : batch.Avoids fd) (streamsToBatch : List Int) (numPartialResults : Nat) :
    Untouched fd (fenceLog (batch.flush streamsToBatch numPartialResults).1) ∧
      (batch.flush streamsToBatch numPartialResults).2.Avoids fd := by
  have hshutter : batch.sendBatchShutterCbsLocked.2.Avoids fd := by
    rw [sendBatchShutterCbsLocked_frame]
    exact h
  have hbuffers := hshutter.sendBatchBuffersLocked streamsToBatch
  constructor
  · simp [InflightBatch.flush, untouched_sendBatchShutterCbsLocked,
      untouched_sendBatchMetadataLocked, hbuffers.1]
  · simp only [InflightBatch.flush]
    rw [sendBatchMetadataLocked_frame]
    exact hbuffers.2

/-! ## A result arrives -/

theorem foldl_queueBuffer_effects (buffers : List StreamBuffer) (queued : Queued) :
    (buffers.foldl queueBuffer queued).effects =
      queued.effects ++ closeAll (releaseFences buffers) := by
  induction buffers generalizing queued with
  | nil => simp [releaseFences, closeAll]
  | cons buffer rest ih =>
      have hstep : (queueBuffer queued buffer).effects =
          queued.effects ++ closeAll buffer.releaseFence := by
        unfold queueBuffer
        split <;> rfl
      rw [List.foldl_cons, ih, hstep]
      simp [releaseFences, closeAll]

/-- Queueing closes the fence of every output buffer. -/
theorem queueResult_effects (batch : InflightBatch) (result : CaptureResult) :
    (batch.queueResult result).effects = closeAll (releaseFences result.outputBuffers) :=
  foldl_queueBuffer_effects result.outputBuffers { batch := batch.queueMetadata result }

theorem Avoids.queueResult (h : batch.Avoids fd) {result : CaptureResult}
    (hout : fd ∉ releaseFences result.outputBuffers) :
    (batch.queueResult result).batch.Avoids fd := by
  intro streamId bb hbb
  rw [queueResult_mBatchBufs] at hbb
  obtain ⟨old, hold, rfl⟩ := Option.map_eq_some_iff.mp hbb
  rw [releaseFences, List.flatMap_append, List.mem_append, not_or]
  refine ⟨h streamId old hold, fun hfd => hout ?_⟩
  obtain ⟨buffer, hmem, hfd⟩ := mem_releaseFences.mp hfd
  exact mem_releaseFences.mpr ⟨buffer, (mem_outputsOn.mp hmem).1, hfd⟩

theorem Avoids.sendLastFrame (h : batch.Avoids fd) (result : CaptureResult)
    (filledStreams : List Int) :
    Untouched fd (fenceLog (batch.sendLastFrame result filledStreams).1) ∧
      (batch.sendLastFrame result filledStreams).2.Avoids fd := by
  have hmetadata : Untouched fd (fenceLog (batch.sendLastMetadata result).1) := by
    unfold sendLastMetadata
    split
    · exact untouched_sendBatchMetadataLocked _ _
    · exact untouched_nil
  have hafter : (batch.sendLastMetadata result).2.Avoids fd := by
    rw [sendLastMetadata_frame]
    exact h
  by_cases heq : result.frameNumber = batch.mLastFrame
  · rw [sendLastFrame_of_eq heq]
    split
    · exact ⟨hmetadata, hafter⟩
    · have hbuffers := hafter.sendBatchBuffersLocked filledStreams
      exact ⟨by simp [hmetadata, hbuffers.1], hbuffers.2⟩
  · rw [sendLastFrame_of_ne heq]
    exact ⟨untouched_nil, h⟩

theorem nonBatched_fences (batch : InflightBatch) {result : CaptureResult}
    (hout : fd ∉ releaseFences result.outputBuffers) :
    fd ∉ releaseFences (batch.queueResult result).nonBatchedBuffers := by
  intro hfd
  rw [queueResult_nonBatchedBuffers] at hfd
  obtain ⟨buffer, hmem, hfd⟩ := mem_releaseFences.mp hfd
  exact hout (mem_releaseFences.mpr ⟨buffer, (List.mem_filter.mp hmem).1, hfd⟩)

/-- A result that does not carry the descriptor leaves it alone. -/
theorem Avoids.processCaptureResult (h : batch.Avoids fd) {result : CaptureResult}
    (hfd : fd ∉ result.releaseFences) :
    Untouched fd (fenceLog (batch.processCaptureResult result).1) ∧
      (batch.processCaptureResult result).2.Avoids fd := by
  cases hremoved : batch.mRemoved with
  | true =>
      have heq : batch.processCaptureResult result =
          (processOneCaptureResult result, batch) := by
        simp [InflightBatch.processCaptureResult, hremoved]
      rw [heq]
      exact ⟨by simp [processOneCaptureResult, hfd], h⟩
  | false =>
      rw [CaptureResult.mem_releaseFences, not_or] at hfd
      have hlast := (h.queueResult hfd.2).sendLastFrame result
        (batch.queueResult result).filledStreams
      have hnon := batch.nonBatched_fences hfd.2
      rw [processCaptureResult_of_not_removed hremoved]
      refine ⟨?_, hlast.2⟩
      simp only [fenceLog_append, untouched_append, queueResult_effects, fenceLog_closeAll,
        untouched_release, hfd.2, hlast.1, not_false_eq_true, true_and, and_true]
      constructor
      · unfold sendNonBatched
        split
        · simp [processOneCaptureResult, CaptureResult.releaseFences, hnon, hfd.1]
        · exact untouched_nil
      · unfold residue
        split
        · exact untouched_nil
        · simp [hfd.1]

/-- A result that carries an owned descriptor gets its life out of order: the descriptor
is closed before any callback, or twice after it. -/
theorem Avoids.follow_processCaptureResult (h : batch.Avoids fd) {result : CaptureResult}
    (hfd : fd ∈ result.releaseFences) :
    LifeStage.owned.follow fd (fenceLog (batch.processCaptureResult result).1) = none := by
  cases hremoved : batch.mRemoved with
  | true =>
      have hlog : fenceLog (batch.processCaptureResult result).1 =
          result.releaseFences.map .use ++ (result.releaseFences.map .release ++
            (result.releaseFences.map .release ++ [])) := by
        simp [InflightBatch.processCaptureResult, hremoved, processOneCaptureResult]
      rw [hlog, LifeStage.follow_use_release_twice hfd]
  | false =>
      rw [processCaptureResult_of_not_removed hremoved]
      simp only [fenceLog_append, queueResult_effects, fenceLog_closeAll, List.append_assoc]
      -- the queueing closes an output fence at once, the fence of the input buffer lives on
      by_cases hout : fd ∈ releaseFences result.outputBuffers
      · exact LifeStage.follow_release (by decide) hout _
      · have hinput := (CaptureResult.mem_releaseFences.mp hfd).resolve_right hout
        have hlast := ((h.queueResult hout).sendLastFrame result
          (batch.queueResult result).filledStreams).1
        rw [LifeStage.follow_untouched_append _ (untouched_release.mpr hout)]
        unfold sendNonBatched residue
        split
        · simp only [fenceLog_append, fenceLog_closeAll, List.append_assoc]
          rw [LifeStage.follow_untouched_append _
            (untouched_release.mpr (batch.nonBatched_fences hout))]
          exact LifeStage.follow_release (by decide) hinput _
        · rw [fenceLog_nil, List.nil_append, LifeStage.follow_untouched_append _ hlast,
            fenceLog_closeAll, ← List.append_nil (List.map _ _)]
          exact LifeStage.follow_release (by decide) hinput _

end InflightBatch

/-! ## The operations -/

namespace ResultBatcher

/-- No buffer queued in the deque carries the descriptor. -/
structure Avoids (fd : Int) (s : ResultBatcher) : Prop where
  batches : ∀ batch ∈ s.mInflightBatches, batch.Avoids fd
  present : ∀ batch ∈ s.mInflightBatches, batch.mRemoved = false

variable {s : ResultBatcher}

theorem Avoids.setBatch (h : s.Avoids fd) {batch : InflightBatch} (hbatch : batch.Avoids fd)
    (hpresent : batch.mRemoved = false) (i : Nat) : (s.setBatch i batch).Avoids fd := by
  constructor
  · intro b hmem
    rcases List.mem_or_eq_of_mem_set hmem with hmem | rfl
    · exact h.batches b hmem
    · exact hbatch
  · intro b hmem
    rcases List.mem_or_eq_of_mem_set hmem with hmem | rfl
    · exact h.present b hmem
    · exact hpresent

theorem Avoids.finishLastFrame (h : s.Avoids fd) (batch : InflightBatch) (frameNumber : Nat) :
    Untouched fd (fenceLog (s.finishLastFrame batch frameNumber).1) ∧
      (s.finishLastFrame batch frameNumber).2.Avoids fd := by
  unfold ResultBatcher.finishLastFrame
  split
  next =>
    unfold checkAndRemoveFirstBatch
    cases hlist : s.mInflightBatches with
    | nil => exact ⟨untouched_nil, h⟩
    | cons first rest =>
        by_cases hall : first.allDelivered = true
        · have hfirst : ({ first with mRemoved := true } : InflightBatch).Avoids fd :=
            h.batches first (by simp [hlist])
          simp only [hall, if_true]
          exact ⟨hfirst.destroy, fun b hmem => h.batches b (by rw [hlist]; simp [hmem]),
            fun b hmem => h.present b (by rw [hlist]; simp [hmem])⟩
        · simp only [hall, Bool.false_eq_true, if_false]
          exact ⟨untouched_nil, h⟩
  next => exact ⟨untouched_nil, h⟩

/-- Nor does a flush of several batches. -/
theorem Avoids.flushBatches (h : s.Avoids fd) {n : Nat} {effects : List Effect}
    {removed : List InflightBatch} {s' : ResultBatcher}
    (heq : s.flushBatches n = some (effects, removed, s')) :
    Untouched fd (fenceLog effects) ∧ (∀ batch ∈ removed, batch.Avoids fd) ∧ s'.Avoids fd := by
  induction n generalizing s effects removed s' with
  | zero =>
      cases heq
      exact ⟨untouched_nil, by simp, h⟩
  | succ n ih =>
      cases hlist : s.mInflightBatches with
      | nil => simp [ResultBatcher.flushBatches, hlist] at heq
      | cons batch rest =>
          simp only [ResultBatcher.flushBatches, hlist, Option.map_eq_some_iff] at heq
          obtain ⟨⟨more, removed', s''⟩, hrest, hout⟩ := heq
          cases hout
          have hbatch := (h.batches batch (by simp [hlist])).flush s.mStreamsToBatch
            s.mNumPartialResults
          have hothers : ({ s with mInflightBatches := rest } : ResultBatcher).Avoids fd :=
            ⟨fun b hmem => h.batches b (by rw [hlist]; exact List.mem_cons_of_mem _ hmem),
              fun b hmem => h.present b (by rw [hlist]; exact List.mem_cons_of_mem _ hmem)⟩
          obtain ⟨hmore, hremoved, hafter⟩ := ih hothers hrest
          refine ⟨?_, ?_, hafter⟩
          · simp only [fenceLog_append, untouched_append, hbatch.1, hmore, and_true, true_and]
            split
            · exact untouched_nil
            · exact hbatch.2.destroy
          · intro b hmem
            rcases List.mem_cons.mp hmem with rfl | hmem
            · exact hbatch.2
            · exact hremoved b hmem

/-- Nor does a message. -/
theorem Avoids.notify (h : s.Avoids fd) {msg : NotifyMsg} {effects : List Effect}
    {s' : ResultBatcher} (heq : s.notify msg = some (effects, s')) :
    Untouched fd (fenceLog effects) ∧ s'.Avoids fd := by
  unfold ResultBatcher.notify at heq
  split at heq
  next =>
    cases heq
    exact ⟨by simp [notifySingleMsg], h⟩
  next i batch hget =>
    have hmem := List.mem_of_getElem? (getBatch_eq_some hget).1
    cases msg with
    | error frameNumber errorStreamId errorCode =>
        obtain ⟨⟨flushed, removed, after⟩, hflush, hout⟩ := Option.map_eq_some_iff.mp heq
        cases hout
        obtain ⟨hflushed, hremoved, hafter⟩ := h.flushBatches hflush
        refine ⟨?_, hafter⟩
        cases hlast : removed.getLast? with
        | none => simp [hflushed, notifySingleMsg]
        | some last =>
            -- the last batch of the flush is destroyed with what it still holds
            have hdestroy := (hremoved last (List.mem_of_getLast? hlast)).destroy
            simp [hflushed, notifySingleMsg, hdestroy]
    | shutter frameNumber timestamp =>
        have hsection : (batch.notifyShutter (.shutter frameNumber timestamp)).2.Avoids fd ∧
            (batch.notifyShutter (.shutter frameNumber timestamp)).2.mRemoved = false := by
          rw [InflightBatch.notifyShutter_frame]
          exact ⟨h.batches batch hmem, h.present batch hmem⟩
        have hfinish := (h.setBatch hsection.1 hsection.2 i).finishLastFrame batch frameNumber
        simp only [h.present batch hmem, Bool.false_eq_true, if_false, Option.some.injEq,
          Prod.mk.injEq] at heq
        obtain ⟨rfl, rfl⟩ := heq
        exact ⟨by simp [InflightBatch.untouched_notifyShutter, NotifyMsg.frameNumber, hfinish.1],
          hfinish.2⟩

/-- A result is processed by the section of its batch, or sent up at once; whatever else
is done leaves the descriptor alone. -/
theorem Avoids.processCaptureResult (h : s.Avoids fd) {result : CaptureResult}
    (hfd : fd ∉ result.releaseFences) :
    Untouched fd (fenceLog (s.processCaptureResult result).1) ∧
      (s.processCaptureResult result).2.Avoids fd := by
  unfold ResultBatcher.processCaptureResult
  split
  next => exact ⟨by simp [processOneCaptureResult, hfd], h⟩
  next i batch hget =>
    have hmem := List.mem_of_getElem? (getBatch_eq_some hget).1
    have hsection := (h.batches batch hmem).processCaptureResult hfd
    have hpresent : (batch.processCaptureResult result).2.mRemoved = false := by
      rw [InflightBatch.processCaptureResult_frame]
      exact h.present batch hmem
    have hfinish := (h.setBatch hsection.2 hpresent i).finishLastFrame batch result.frameNumber
    simp only [h.present batch hmem, Bool.false_eq_true, if_false]
    exact ⟨by simp [hsection.1, hfinish.1], hfinish.2⟩

/-- A result with the fence closes it early or twice, in a batch or in none. -/
theorem Avoids.follow_processCaptureResult (h : s.Avoids fd) {result : CaptureResult}
    (hfd : fd ∈ result.releaseFences) :
    LifeStage.owned.follow fd (fenceLog (s.processCaptureResult result).1) = none := by
  unfold ResultBatcher.processCaptureResult
  split
  next =>
    have hlog : fenceLog (processOneCaptureResult result) =
        result.releaseFences.map .use ++ (result.releaseFences.map .release ++
          (result.releaseFences.map .release ++ [])) := by
      simp [processOneCaptureResult]
    rw [hlog, LifeStage.follow_use_release_twice hfd]
  next i batch hget =>
    have hmem := List.mem_of_getElem? (getBatch_eq_some hget).1
    simp only [fenceLog_append, LifeStage.follow_append,
      (h.batches batch hmem).follow_processCaptureResult hfd, Option.bind_none]

end ResultBatcher

end

/-! ## Runs -/

/-- The fences that a result hands over. -/
def BatcherOp.releaseFences : BatcherOp → List Int
  | .processCaptureResult result => result.releaseFences
  | _ => []

/-- The batcher, and what has happened to release fences so far. -/
structure FenceRun where
  batcher : ResultBatcher
  log : List (LifeEvent Int) := []

namespace FenceRun

def initial (numPartialResults : Nat) : FenceRun :=
  { batcher := { mNumPartialResults := numPartialResults } }

def next (s : FenceRun) : BatcherOp → FenceRun
  | .setBatchedStreams streamsToBatch =>
      { s with batcher := s.batcher.setBatchedStreams streamsToBatch }
  | .registerBatch frameNumber batchSize =>
      { s with batcher := s.batcher.registerBatch frameNumber batchSize }
  | .processCaptureResult result =>
      let (effects, batcher) := s.batcher.processCaptureResult result
      { batcher, log := s.log ++ result.releaseFences.map .handOver ++ fenceLog effects }
  | .notify msg =>
      match s.batcher.notify msg with
      | some (effects, batcher) => { batcher, log := s.log ++ fenceLog effects }
      | none => s

/-- Between two operations a fence has been through its life in order: it is open and
still waiting for its callback, or it was closed once after every callback. -/
def InOrder (s : FenceRun) (fd : Int) : Prop :=
  LifeStage.free.follow fd s.log = some .owned ∨ LifeStage.free.follow fd s.log = some .free

instance (s : FenceRun) (fd : Int) : Decidable (s.InOrder fd) :=
  inferInstanceAs (Decidable (_ ∨ _))

/-- The descriptor has not been handed over. -/
structure Clean (s : FenceRun) (fd : Int) : Prop where
  avoids : s.batcher.Avoids fd
  untouched : Untouched fd s.log

variable {s : FenceRun} {fd : Int}

/-- An operation that does not hand over the descriptor leaves it alone. -/
theorem Clean.next (h : s.Clean fd) {op : BatcherOp} (hop : fd ∉ op.releaseFences) :
    (s.next op).Clean fd := by
  cases op with
  | setBatchedStreams streamsToBatch => exact ⟨⟨h.avoids.batches, h.avoids.present⟩, h.untouched⟩
  | registerBatch frameNumber batchSize =>
      refine ⟨⟨?_, ?_⟩, h.untouched⟩
      · intro batch hmem
        rcases List.mem_append.mp hmem with hmem | hmem
        · exact h.avoids.batches batch hmem
        · rw [List.mem_singleton.mp hmem]
          intro streamId bb hbb
          rw [s.batcher.newBatch_mBatchBufs frameNumber batchSize] at hbb
          split at hbb
          · cases hbb
            simp [Camera.releaseFences]
          · cases hbb
      · intro batch hmem
        rcases List.mem_append.mp hmem with hmem | hmem
        · exact h.avoids.present batch hmem
        · rw [List.mem_singleton.mp hmem]
          rfl
  | processCaptureResult result =>
      have hop' : fd ∉ result.releaseFences := hop
      have hsent := h.avoids.processCaptureResult hop'
      refine ⟨hsent.2, ?_⟩
      -- the fences of a result are handed over first, and this one is not among them
      have hhanded : Untouched fd (result.releaseFences.map .handOver) := by
        simp only [Untouched, List.forall_mem_map, LifeEvent.resource]
        exact fun other hmem heq => hop' (heq ▸ hmem)
      simp only [FenceRun.next, untouched_append]
      exact ⟨⟨h.untouched, hhanded⟩, hsent.1⟩
  | notify msg =>
      simp only [FenceRun.next]
      split
      next effects batcher heq =>
        have hsent := h.avoids.notify heq
        exact ⟨hsent.2, untouched_append.mpr ⟨h.untouched, hsent.1⟩⟩
      next => exact h

/-- Handing a descriptor over for the first time puts its life out of order. -/
theorem Clean.follow_next (h : s.Clean fd) {op : BatcherOp} (hop : fd ∈ op.releaseFences) :
    LifeStage.free.follow fd (s.next op).log = none := by
  cases op with
  | processCaptureResult result =>
      have hop' : fd ∈ result.releaseFences := hop
      simp only [FenceRun.next, List.append_assoc]
      rw [LifeStage.follow_untouched_append _ h.untouched, LifeStage.follow_append]
      rcases LifeStage.follow_handOver hop' with howned | hnone
      · rw [howned, Option.bind_some]
        exact h.avoids.follow_processCaptureResult hop'
      · rw [hnone]
        rfl
  | setBatchedStreams streamsToBatch => simp [BatcherOp.releaseFences] at hop
  | registerBatch frameNumber batchSize => simp [BatcherOp.releaseFences] at hop
  | notify msg => simp [BatcherOp.releaseFences] at hop

/-- What is out of order stays out of order. -/
theorem follow_run_eq_none (h : LifeStage.free.follow fd s.log = none) (ops : List BatcherOp) :
    LifeStage.free.follow fd (run FenceRun.next s ops).log = none := by
  induction ops generalizing s with
  | nil => exact h
  | cons op rest ih =>
      apply ih
      have hlog : ∃ more, (s.next op).log = s.log ++ more := by
        cases op with
        | setBatchedStreams streamsToBatch => exact ⟨[], (List.append_nil _).symm⟩
        | registerBatch frameNumber batchSize => exact ⟨[], (List.append_nil _).symm⟩
        | processCaptureResult result => exact ⟨_, List.append_assoc _ _ _⟩
        | notify msg =>
            simp only [FenceRun.next]
            split
            · exact ⟨_, rfl⟩
            · exact ⟨[], (List.append_nil _).symm⟩
      obtain ⟨more, hmore⟩ := hlog
      rw [hmore, LifeStage.follow_append, h]
      rfl

/-- In a run from where the descriptor is free it lives in order exactly if it is never handed over.
-/
theorem inOrder_run_iff (h : s.Clean fd) (ops : List BatcherOp) :
    (run FenceRun.next s ops).InOrder fd ↔ ∀ op ∈ ops, fd ∉ op.releaseFences := by
  induction ops generalizing s with
  | nil =>
      refine iff_of_true (.inr ?_) (by simp)
      exact LifeStage.follow_of_untouched .free h.untouched
  | cons op rest ih =>
      rw [run_cons, List.forall_mem_cons]
      by_cases hop : fd ∈ op.releaseFences
      · refine iff_of_false ?_ (fun hall => hall.1 hop)
        rw [InOrder, follow_run_eq_none (h.follow_next hop) rest]
        simp
      · rw [ih (h.next hop)]
        simp [hop]

/-- After a run of the batcher the life of every fence is in order exactly if no result
of the run handed over a fence. -/
theorem fences_inOrder_iff (numPartialResults : Nat) (ops : List BatcherOp) :
    (∀ fd, (run FenceRun.next (initial numPartialResults) ops).InOrder fd) ↔
      ∀ op ∈ ops, op.releaseFences = [] := by
  have hclean : ∀ fd, (initial numPartialResults).Clean fd := fun fd =>
    ⟨⟨by simp [initial], by simp [initial]⟩, untouched_nil⟩
  simp only [fun fd => inOrder_run_iff (hclean fd) ops, List.eq_nil_iff_forall_not_mem]
  exact ⟨fun h op hmem fd => h fd op hmem, fun h fd op hmem => h op hmem fd⟩

/-- A fence of an unbatched result is closed twice after its callback, one of a batched
result before it. -/
theorem fence_closed_early_or_twice :
    ¬ (run FenceRun.next (initial 1) [.processCaptureResult
        { frameNumber := 1
          inputBuffer := { streamId := -1 }
          outputBuffers := [{ streamId := 7, releaseFence := [40] }] }]).InOrder 40 ∧
      ¬ (run FenceRun.next (initial 1) [.setBatchedStreams [7], .registerBatch 1 2,
        .processCaptureResult
          { frameNumber := 1
            inputBuffer := { streamId := -1 }
            outputBuffers := [{ streamId := 7, releaseFence := [40] }] }]).InOrder 40 := by
  decide

end FenceRun

end LgeHardware.Camera
