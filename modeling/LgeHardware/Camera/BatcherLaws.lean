import LgeHardware.Foundation.Intervals
import LgeHardware.Camera.ResultBatcher
import Mathlib.Data.Nat.Basic

/-! # What the sections of the result batcher do

One law for each locked section: which output buffers it delivers, what it leaves
queued, and what it does not touch. Later modules cite these laws and never unfold
the sections.
-/

namespace LgeHardware.Camera

open LgeHardware.Foundation

/-! ## Reading effects -/

/-- The results handed to the framework, in order. -/
def resultsOf (effects : List Effect) : List CaptureResult :=
  effects.flatMap fun
    | .processCaptureResult results _ => results
    | _ => []

@[simp] theorem resultsOf_nil : resultsOf [] = [] := rfl

@[simp] theorem resultsOf_append (first second : List Effect) :
    resultsOf (first ++ second) = resultsOf first ++ resultsOf second := List.flatMap_append

@[simp] theorem resultsOf_processCaptureResult (results : List CaptureResult) (tryWriteFmq : Bool)
    (rest : List Effect) :
    resultsOf (.processCaptureResult results tryWriteFmq :: rest) = results ++ resultsOf rest := rfl

@[simp] theorem resultsOf_notify (msgs : List NotifyMsg) (rest : List Effect) :
    resultsOf (.notify msgs :: rest) = resultsOf rest := rfl

@[simp] theorem resultsOf_closeAll (fds : List Int) : resultsOf (closeAll fds) = [] := by
  induction fds with
  | nil => rfl
  | cons fd rest ih => exact ih

@[simp] theorem resultsOf_notifySingleMsg (msg : NotifyMsg) :
    resultsOf (notifySingleMsg msg) = [] := rfl

@[simp] theorem resultsOf_processOneCaptureResult (result : CaptureResult) :
    resultsOf (processOneCaptureResult result) = [result] := by
  simp [processOneCaptureResult]

@[simp] theorem resultsOf_destroy (batch : InflightBatch) : resultsOf batch.destroy = [] := by
  simp [InflightBatch.destroy]

/-- The output buffers of a result on one stream. -/
def CaptureResult.outputsOn (result : CaptureResult) (streamId : Int) : List StreamBuffer :=
  result.outputBuffers.filter (·.streamId = streamId)

/-- The input buffers of a result on one stream; a result without one has stream `-1`. -/
def CaptureResult.inputsOn (result : CaptureResult) (streamId : Int) : List StreamBuffer :=
  [result.inputBuffer].filter fun buffer => buffer.streamId = streamId ∧ buffer.streamId ≠ -1

/-- The output buffers delivered on one stream, each with the frame number of the
result that carries it. -/
def outputsDelivered (streamId : Int) (results : List CaptureResult) :
    List (Nat × StreamBuffer) :=
  results.flatMap fun result => (result.outputsOn streamId).map fun buffer =>
    (result.frameNumber, buffer)

@[simp] theorem outputsDelivered_nil (streamId : Int) : outputsDelivered streamId [] = [] := rfl

@[simp] theorem outputsDelivered_append (streamId : Int) (first second : List CaptureResult) :
    outputsDelivered streamId (first ++ second) =
      outputsDelivered streamId first ++ outputsDelivered streamId second := List.flatMap_append

theorem outputsDelivered_singleton (streamId : Int) (result : CaptureResult) :
    outputsDelivered streamId [result] =
      (result.outputsOn streamId).map fun buffer => (result.frameNumber, buffer) := by
  simp [outputsDelivered]

/-- The input buffers delivered on one stream. -/
def inputsDelivered (streamId : Int) (results : List CaptureResult) : List StreamBuffer :=
  results.flatMap (·.inputsOn streamId)

@[simp] theorem inputsDelivered_nil (streamId : Int) : inputsDelivered streamId [] = [] := rfl

@[simp] theorem inputsDelivered_append (streamId : Int) (first second : List CaptureResult) :
    inputsDelivered streamId (first ++ second) =
      inputsDelivered streamId first ++ inputsDelivered streamId second := List.flatMap_append

/-- Results without an input buffer, as the batcher builds them, deliver none. -/
theorem inputsDelivered_eq_nil {results : List CaptureResult}
    (h : ∀ result ∈ results, result.inputBuffer = { streamId := -1 }) (streamId : Int) :
    inputsDelivered streamId results = [] := by
  rw [inputsDelivered, List.flatMap_eq_nil_iff]
  intro result hmem
  simp [CaptureResult.inputsOn, h result hmem]

/-! ## Sending buffers -/

/-- Buffers numbered from a first frame, as `sendBatchBuffersLocked` numbers them. -/
def numbered (firstFrame : Nat) (buffers : List StreamBuffer) : List (Nat × StreamBuffer) :=
  buffers.mapIdx fun i buffer => (uint32 (firstFrame + i), buffer)

theorem map_snd_numbered (firstFrame : Nat) (buffers : List StreamBuffer) :
    (numbered firstFrame buffers).map Prod.snd = buffers := by
  unfold numbered
  induction buffers generalizing firstFrame with
  | nil => rfl
  | cons buffer rest ih =>
      have htail := ih (firstFrame + 1)
      simp only [Nat.add_assoc, Nat.add_comm 1] at htail
      simpa only [List.mapIdx_cons, List.map_cons, List.cons.injEq, true_and] using htail

/-- Visiting the positions of a list in order, with positions to spare, visits its
elements in order. -/
theorem flatMap_range_getElem? {α β : Type} (f : Nat → α → β) (l : List α) {n : Nat}
    (hn : l.length ≤ n) :
    (List.range n).flatMap (fun i => l[i]?.toList.map (f i)) = l.mapIdx f := by
  induction l generalizing n f with
  | nil =>
      simp
  | cons a rest ih =>
      obtain ⟨m, rfl⟩ : ∃ m, n = m + 1 := ⟨n - 1, by simp only [List.length_cons] at hn; omega⟩
      have htail := ih (fun i => f (i + 1)) (n := m) (by simpa using hn)
      rw [List.range_succ_eq_map, List.flatMap_cons, List.flatMap_map, List.mapIdx_cons, ← htail]
      rfl

namespace InflightBatch

/-- Buffers are queued under their own stream. -/
def Keyed (batch : InflightBatch) : Prop :=
  ∀ (streamId : Int) (bb : BufferBatch), batch.mBatchBufs[streamId]? = some bb →
    ∀ buffer ∈ bb.mBuffers, buffer.streamId = streamId

/-- A stream that is marked delivered holds no buffer. -/
def Settled (batch : InflightBatch) : Prop :=
  ∀ (streamId : Int) (bb : BufferBatch), batch.mBatchBufs[streamId]? = some bb →
    bb.mDelivered = true → bb.mBuffers = []

/-- The buffers queued for a stream. -/
def queuedOn (batch : InflightBatch) (streamId : Int) : List StreamBuffer :=
  (batch.mBatchBufs[streamId]?.map (·.mBuffers)).getD []

theorem Settled.pending {batch : InflightBatch} (hsettled : batch.Settled) (streamId : Int) :
    batch.pending streamId = batch.mBatchBufs[streamId]?.map (·.mBuffers) := by
  unfold InflightBatch.pending
  cases hbb : batch.mBatchBufs[streamId]? with
  | none => rfl
  | some bb =>
      cases hdelivered : bb.mDelivered with
      | false => simp [hdelivered]
      | true => simp [hdelivered, hsettled streamId bb hbb hdelivered]

theorem Settled.pending_getD {batch : InflightBatch} (hsettled : batch.Settled)
    (streamId : Int) : (batch.pending streamId).getD [] = batch.queuedOn streamId := by
  rw [hsettled.pending]
  rfl

/-- A batch has an entry for each of its streams. -/
theorem pending_isSome_iff (batch : InflightBatch) (streamId : Int) :
    (batch.pending streamId).isSome ↔ streamId ∈ batch.mBatchBufs := by
  rw [InflightBatch.pending, Option.isSome_map, Std.ExtTreeMap.mem_iff_isSome_getElem?]

theorem Keyed.streamId_of_pending {batch : InflightBatch} (hkeyed : batch.Keyed)
    {streamId : Int} {buffers : List StreamBuffer} (h : batch.pending streamId = some buffers) :
    ∀ buffer ∈ buffers, buffer.streamId = streamId := by
  intro buffer hbuffer
  obtain ⟨bb, hbb, rfl⟩ := Option.map_eq_some_iff.mp h
  split at hbuffer
  · simp at hbuffer
  · exact hkeyed streamId bb hbb buffer hbuffer

/-- `pendingSize` bounds what every listed stream has pending. -/
theorem length_le_of_pendingSize {batch : InflightBatch} {streams : List Int} {size : Nat}
    (h : batch.pendingSize streams = some size) {streamId : Int} (hmem : streamId ∈ streams) :
    ∃ buffers, batch.pending streamId = some buffers ∧ buffers.length ≤ size := by
  have hfold : ∀ (streams : List Int) (start size : Nat),
      streams.foldlM (fun size streamId =>
        (batch.pending streamId).map fun bufs => max size bufs.length) start = some size →
      start ≤ size ∧ ∀ streamId ∈ streams,
        ∃ buffers, batch.pending streamId = some buffers ∧ buffers.length ≤ size := by
    intro streams
    induction streams with
    | nil =>
        intro start size h
        cases h
        simp
    | cons first rest ih =>
        intro start size h
        rw [List.foldlM_cons] at h
        cases hfirst : batch.pending first with
        | none => simp [hfirst] at h
        | some buffers =>
            simp only [hfirst, Option.map_some, Option.bind_eq_bind, Option.bind_some] at h
            obtain ⟨hle, hrest⟩ := ih _ _ h
            refine ⟨by omega, ?_⟩
            intro streamId hmem
            rcases List.mem_cons.mp hmem with rfl | hmem
            · exact ⟨buffers, hfirst, by omega⟩
            · exact hrest streamId hmem
  exact (hfold streams 0 size h).2 streamId hmem

/-- When every listed stream is batched, there is a size, and it is zero when
nothing is pending. -/
theorem exists_pendingSize {batch : InflightBatch} {streams : List Int}
    (h : ∀ streamId ∈ streams, streamId ∈ batch.mBatchBufs) :
    ∃ size, batch.pendingSize streams = some size := by
  unfold pendingSize
  generalize 0 = start
  induction streams generalizing start with
  | nil => exact ⟨start, rfl⟩
  | cons first rest ih =>
      have hsome := (pending_isSome_iff batch first).mpr (h first List.mem_cons_self)
      obtain ⟨buffers, hbuffers⟩ := Option.isSome_iff_exists.mp hsome
      simp only [List.foldlM_cons, hbuffers, Option.map_some, Option.bind_eq_bind,
        Option.bind_some]
      exact ih (fun streamId hmem => h streamId (List.mem_cons_of_mem _ hmem)) _

theorem pendingSize_of_empty {batch : InflightBatch}
    (hempty : ∀ streamId buffers, batch.pending streamId = some buffers → buffers = [])
    (streams : List Int) :
    batch.pendingSize streams = none ∨ batch.pendingSize streams = some 0 := by
  unfold pendingSize
  induction streams with
  | nil => exact .inr rfl
  | cons first rest ih =>
      rw [List.foldlM_cons]
      cases hfirst : batch.pending first with
      | none => exact .inl rfl
      | some buffers =>
          rw [hempty first buffers hfirst]
          exact ih

/-- What `collect` takes from one stream at one position. -/
theorem filter_collect {batch : InflightBatch} (hkeyed : batch.Keyed) (i : Nat)
    (streamId : Int) {streams : List Int} (hnodup : streams.Nodup) {seen : List Int}
    (hseen : ∀ s ∈ streams, s ∉ seen) :
    (batch.collect i seen streams).filter (·.streamId = streamId) =
      if streamId ∈ streams then ((batch.pending streamId).bind (·[i]?)).toList else [] := by
  induction streams generalizing seen with
  | nil => rfl
  | cons first rest ih =>
      obtain ⟨hfirst, hrest⟩ := List.nodup_cons.mp hnodup
      have htail : ∀ s ∈ rest, s ∉ first :: seen := by
        intro s hs
        simp only [List.mem_cons, not_or]
        exact ⟨fun heq => hfirst (heq ▸ hs), hseen s (List.mem_cons_of_mem _ hs)⟩
      have hnot := hseen first List.mem_cons_self
      simp only [collect, hnot, if_false, Option.map_id', List.filter_append, ih hrest htail]
      have hhead : ∀ buffer ∈ ((batch.pending first).bind (·[i]?)).toList,
          buffer.streamId = first := by
        intro buffer hbuffer
        rw [Option.mem_toList, Option.bind_eq_some_iff] at hbuffer
        obtain ⟨buffers, hbuffers, hget⟩ := hbuffer
        exact hkeyed.streamId_of_pending hbuffers buffer (List.mem_of_getElem? hget)
      by_cases heq : streamId = first
      · subst heq
        rw [List.filter_eq_self.mpr (by simpa using hhead)]
        simp [hfirst]
      · have hnone : (((batch.pending first).bind (·[i]?)).toList).filter
            (·.streamId = streamId) = [] := by
          rw [List.filter_eq_nil_iff]
          intro buffer hbuffer
          rw [hhead buffer hbuffer]
          simpa using Ne.symm heq
        simp [hnone, heq]

/-- The results built for a set of streams carry the pending buffers of each of
them, numbered from the first frame of the batch. -/
theorem outputsDelivered_bufferResults {batch : InflightBatch} (hkeyed : batch.Keyed)
    {streams : List Int} (hnodup : streams.Nodup) {size : Nat}
    (hsize : batch.pendingSize streams = some size) (streamId : Int) :
    outputsDelivered streamId (batch.bufferResults streams size) =
      if streamId ∈ streams then
        numbered batch.mFirstFrame ((batch.pending streamId).getD []) else [] := by
  have hresult : ∀ i, (((batch.collect i [] streams).filter (·.streamId = streamId)).map
      fun buffer => (uint32 (batch.mFirstFrame + i), buffer)) =
      if streamId ∈ streams then (((batch.pending streamId).bind (·[i]?)).toList).map
        (fun buffer => (uint32 (batch.mFirstFrame + i), buffer)) else [] := by
    intro i
    rw [filter_collect hkeyed i streamId hnodup (by simp)]
    split <;> rfl
  simp only [outputsDelivered, bufferResults, List.flatMap_map, CaptureResult.outputsOn, hresult]
  split
  next hmem =>
    obtain ⟨buffers, hbuffers, hlen⟩ := length_le_of_pendingSize hsize hmem
    simp only [hbuffers, Option.bind_some, Option.getD_some]
    exact flatMap_range_getElem?
      (fun i buffer => (uint32 (batch.mFirstFrame + i), buffer)) buffers hlen
  next => simp

/-- Everything but the buffer queues survives `sendBatchBuffersLocked`. -/
theorem sendBatchBuffersLocked_frame (batch : InflightBatch) (streams : List Int) :
    (batch.sendBatchBuffersLocked streams).2 =
      { batch with mBatchBufs := (batch.sendBatchBuffersLocked streams).2.mBatchBufs } := by
  unfold sendBatchBuffersLocked
  split <;> rfl

theorem resultsOf_moves (results : List CaptureResult) :
    resultsOf (results.flatMap fun result =>
      closeAll result.releaseFences ++ closeAll result.releaseFences) = [] := by
  induction results with
  | nil => rfl
  | cons result rest ih => simp [ih]

/-- `sendBatchBuffersLocked` delivers what the streams have pending. -/
theorem sendBatchBuffersLocked_delivers {batch : InflightBatch} (hkeyed : batch.Keyed)
    {streams : List Int} (hnodup : streams.Nodup)
    (hbatched : ∀ s ∈ streams, s ∈ batch.mBatchBufs) (streamId : Int) :
    outputsDelivered streamId (resultsOf (batch.sendBatchBuffersLocked streams).1) =
      if streamId ∈ streams then
        numbered batch.mFirstFrame ((batch.pending streamId).getD []) else [] := by
  obtain ⟨size, hsize⟩ := exists_pendingSize hbatched
  rw [← outputsDelivered_bufferResults hkeyed hnodup hsize streamId]
  unfold sendBatchBuffersLocked
  rw [hsize]
  cases size with
  | zero => rfl
  | succ size =>
      simp [resultsOf_moves]

/-- The results built from batched buffers carry no input buffer and no metadata. -/
theorem result_of_mem_sendBatchBuffersLocked {batch : InflightBatch} {streams : List Int}
    {result : CaptureResult} (hmem : result ∈ resultsOf (batch.sendBatchBuffersLocked streams).1) :
    result.inputBuffer = { streamId := -1 } ∧ result.result = [] ∧
      result.physicalCameraMetadata = [] := by
  unfold sendBatchBuffersLocked at hmem
  split at hmem
  next => simp at hmem
  next => simp at hmem
  next size _ _ =>
    simp only [resultsOf_append, resultsOf_moves, resultsOf_closeAll,
      resultsOf_processCaptureResult, resultsOf_nil, List.append_nil, List.nil_append,
      bufferResults, List.mem_map] at hmem
    obtain ⟨_, _, rfl⟩ := hmem
    exact ⟨rfl, rfl, rfl⟩

/-- With nothing pending, `sendBatchBuffersLocked` is silent whatever streams it is given. -/
theorem sendBatchBuffersLocked_silent {batch : InflightBatch}
    (hempty : ∀ streamId buffers, batch.pending streamId = some buffers → buffers = [])
    (streams : List Int) : (batch.sendBatchBuffersLocked streams).1 = [] := by
  unfold sendBatchBuffersLocked
  rcases pendingSize_of_empty hempty streams with h | h
  · rw [h]
  · rw [h]
    rfl

theorem getElem?_markDelivered (batch : InflightBatch) (streams : List Int) (streamId : Int) :
    (batch.markDelivered streams).mBatchBufs[streamId]? =
      if streamId ∈ streams then some { mDelivered := true, mBuffers := [] }
      else batch.mBatchBufs[streamId]? := by
  simp only [markDelivered]
  generalize batch.mBatchBufs = bufs
  induction streams generalizing bufs with
  | nil => rfl
  | cons first rest ih =>
      rw [List.foldl_cons, ih, Std.ExtTreeMap.getElem?_insert_of_eq]
      by_cases hrest : streamId ∈ rest
      · simp [hrest]
      · by_cases heq : first = streamId
        · simp [heq]
        · simp [hrest, heq, Ne.symm heq]

/-- Marking empty queues delivered, without clearing them. -/
theorem getElem?_foldl_alter_delivered (streams : List Int)
    (bufs : Std.ExtTreeMap Int BufferBatch)
    (hempty : ∀ s ∈ streams, ∃ bb : BufferBatch, bufs[s]? = some bb ∧ bb.mBuffers = [])
    (streamId : Int) :
    (streams.foldl (fun bufs s => bufs.alter s
      (Option.map fun bb => { bb with mDelivered := true })) bufs)[streamId]? =
      if streamId ∈ streams then some ({ mDelivered := true, mBuffers := [] } : BufferBatch)
      else bufs[streamId]? := by
  induction streams generalizing bufs with
  | nil => rfl
  | cons first rest ih =>
      have hnext : ∀ s ∈ rest, ∃ bb : BufferBatch, (bufs.alter first
          (Option.map fun bb => { bb with mDelivered := true }))[s]? = some bb ∧
          bb.mBuffers = [] := by
        intro s hs
        obtain ⟨bb, hbb, hnil⟩ := hempty s (List.mem_cons_of_mem _ hs)
        by_cases heq : first = s
        · subst heq
          exact ⟨{ bb with mDelivered := true }, by simp [hbb], hnil⟩
        · refine ⟨bb, ?_, hnil⟩
          rw [Std.ExtTreeMap.getElem?_alter]
          simpa [heq] using hbb
      rw [List.foldl_cons, ih _ hnext]
      obtain ⟨bb, hbb, hnil⟩ := hempty first List.mem_cons_self
      by_cases hrest : streamId ∈ rest
      · simp [hrest]
      · by_cases heq : first = streamId
        · subst heq
          simp [hrest, hbb, hnil]
        · simp [hrest, Std.ExtTreeMap.getElem?_alter, heq, Ne.symm heq]

/-- The streams sent end up delivered and empty, the others as they were. -/
theorem sendBatchBuffersLocked_mBatchBufs {batch : InflightBatch} (hsettled : batch.Settled)
    {streams : List Int} (hbatched : ∀ s ∈ streams, s ∈ batch.mBatchBufs) (streamId : Int) :
    (batch.sendBatchBuffersLocked streams).2.mBatchBufs[streamId]? =
      if streamId ∈ streams then some { mDelivered := true, mBuffers := [] }
      else batch.mBatchBufs[streamId]? := by
  obtain ⟨size, hsize⟩ := exists_pendingSize hbatched
  unfold sendBatchBuffersLocked
  rw [hsize]
  cases size with
  | zero =>
      apply getElem?_foldl_alter_delivered
      intro s hs
      obtain ⟨buffers, hbuffers, hlen⟩ := length_le_of_pendingSize hsize hs
      rw [hsettled.pending, Option.map_eq_some_iff] at hbuffers
      obtain ⟨bb, hbb, rfl⟩ := hbuffers
      exact ⟨bb, hbb, List.eq_nil_of_length_eq_zero (by omega)⟩
  | succ size => exact getElem?_markDelivered batch streams streamId

theorem queuedOn_eq_nil_of_empty {batch : InflightBatch}
    (hempty : ∀ streamId, batch.queuedOn streamId = []) :
    ∀ streamId buffers, batch.pending streamId = some buffers → buffers = [] := by
  intro streamId buffers hpending
  obtain ⟨bb, hbb, rfl⟩ := Option.map_eq_some_iff.mp hpending
  have hqueued := hempty streamId
  simp only [queuedOn, hbb, Option.map_some, Option.getD_some] at hqueued
  split <;> simp [hqueued]

/-! ## Metadata and shutters -/

theorem sendBatchMetadataLocked_frame (batch : InflightBatch) (idx : Nat) :
    (batch.sendBatchMetadataLocked idx).2 =
      { batch with
        mPartialResultProgress := (batch.sendBatchMetadataLocked idx).2.mPartialResultProgress
        mResultMds := (batch.sendBatchMetadataLocked idx).2.mResultMds } := by
  unfold sendBatchMetadataLocked
  split <;> rfl

theorem outputBuffers_of_mem_metadataResults {batch : InflightBatch} {idx : Nat}
    {result : CaptureResult} (hmem : result ∈ batch.metadataResults idx) :
    result.outputBuffers = [] ∧ result.inputBuffer = { streamId := -1 } := by
  simp only [metadataResults, List.mem_flatMap, List.mem_map] at hmem
  obtain ⟨_, _, _, _, rfl⟩ := hmem
  exact ⟨rfl, rfl⟩

/-- Metadata results carry no buffers. -/
theorem outputsDelivered_sendBatchMetadataLocked (batch : InflightBatch) (idx : Nat)
    (streamId : Int) :
    outputsDelivered streamId (resultsOf (batch.sendBatchMetadataLocked idx).1) = [] := by
  unfold sendBatchMetadataLocked
  split
  · rfl
  · simp only [resultsOf_processCaptureResult, resultsOf_nil, List.append_nil, outputsDelivered,
      List.flatMap_eq_nil_iff]
    intro result hmem
    simp [CaptureResult.outputsOn, (outputBuffers_of_mem_metadataResults hmem).1]

theorem inputsDelivered_sendBatchMetadataLocked (batch : InflightBatch) (idx : Nat)
    (streamId : Int) :
    inputsDelivered streamId (resultsOf (batch.sendBatchMetadataLocked idx).1) = [] := by
  unfold sendBatchMetadataLocked
  split
  · rfl
  · apply inputsDelivered_eq_nil
    intro result hmem
    simp only [resultsOf_processCaptureResult, resultsOf_nil, List.append_nil] at hmem
    exact (outputBuffers_of_mem_metadataResults hmem).2

theorem sendBatchShutterCbsLocked_frame (batch : InflightBatch) :
    batch.sendBatchShutterCbsLocked.2 =
      { batch with
        mShutterDelivered := batch.sendBatchShutterCbsLocked.2.mShutterDelivered
        mShutterMsgs := batch.sendBatchShutterCbsLocked.2.mShutterMsgs } := by
  unfold sendBatchShutterCbsLocked
  split <;> rfl

theorem mBatchBufs_sendBatchShutterCbsLocked (batch : InflightBatch) :
    batch.sendBatchShutterCbsLocked.2.mBatchBufs = batch.mBatchBufs := by
  rw [sendBatchShutterCbsLocked_frame]

theorem pending_sendBatchShutterCbsLocked (batch : InflightBatch) (streamId : Int) :
    batch.sendBatchShutterCbsLocked.2.pending streamId = batch.pending streamId := by
  rw [pending, mBatchBufs_sendBatchShutterCbsLocked, pending]

theorem Keyed.sendBatchShutterCbsLocked {batch : InflightBatch} (h : batch.Keyed) :
    batch.sendBatchShutterCbsLocked.2.Keyed := by
  rw [Keyed, mBatchBufs_sendBatchShutterCbsLocked]
  exact h

@[simp] theorem resultsOf_sendBatchShutterCbsLocked (batch : InflightBatch) :
    resultsOf batch.sendBatchShutterCbsLocked.1 = [] := by
  unfold sendBatchShutterCbsLocked
  split <;> rfl

/-- A shutter touches nothing but the shutters of the batch. -/
theorem notifyShutter_frame (batch : InflightBatch) (msg : NotifyMsg) :
    (batch.notifyShutter msg).2 =
      { batch with
        mShutterDelivered := (batch.notifyShutter msg).2.mShutterDelivered
        mShutterMsgs := (batch.notifyShutter msg).2.mShutterMsgs } := by
  unfold notifyShutter
  split
  · rfl
  · dsimp only
    split
    · rw [sendBatchShutterCbsLocked_frame]
    · rfl

@[simp] theorem resultsOf_notifyShutter (batch : InflightBatch) (msg : NotifyMsg) :
    resultsOf (batch.notifyShutter msg).1 = [] := by
  unfold notifyShutter
  split
  · rfl
  · dsimp only
    split
    · exact resultsOf_sendBatchShutterCbsLocked _
    · rfl

/-! ## The section of `processCaptureResult` -/

theorem queueMetadata_frame (batch : InflightBatch) (result : CaptureResult) :
    batch.queueMetadata result =
      { batch with mResultMds := (batch.queueMetadata result).mResultMds } := by
  unfold queueMetadata
  split <;> rfl

theorem queueMetadata_mBatchBufs (batch : InflightBatch) (result : CaptureResult) :
    (batch.queueMetadata result).mBatchBufs = batch.mBatchBufs := by
  rw [queueMetadata_frame]

/-- Distributing output buffers appends each to the queue of its stream, if that is
batched, and sets the others aside, in order. -/
theorem foldl_queueBuffer (buffers : List StreamBuffer) (queued : Queued) :
    let after := buffers.foldl queueBuffer queued
    (∀ streamId : Int, after.batch.mBatchBufs[streamId]? =
      queued.batch.mBatchBufs[streamId]?.map fun bb =>
        { bb with mBuffers := bb.mBuffers ++ buffers.filter (·.streamId = streamId) }) ∧
    after.batch = { queued.batch with mBatchBufs := after.batch.mBatchBufs } ∧
    after.filledStreams = queued.filledStreams ++
      (buffers.map (·.streamId)).filter (· ∈ queued.batch.mBatchBufs) ∧
    after.nonBatchedBuffers = queued.nonBatchedBuffers ++
      buffers.filter (fun buffer => buffer.streamId ∉ queued.batch.mBatchBufs) ∧
    resultsOf after.effects = resultsOf queued.effects := by
  induction buffers generalizing queued with
  | nil => simp
  | cons buffer rest ih =>
      obtain ⟨hbufs, hframe, hfilled, hnon, heffects⟩ := ih (queueBuffer queued buffer)
      simp only [List.foldl_cons]
      cases hbb : queued.batch.mBatchBufs[buffer.streamId]? with
      | none =>
          have hstep : queueBuffer queued buffer = { queued with
              effects := queued.effects ++ closeAll buffer.releaseFence
              nonBatchedBuffers := queued.nonBatchedBuffers ++ [buffer] } := by
            simp only [queueBuffer, hbb]
          have hnot : buffer.streamId ∉ queued.batch.mBatchBufs :=
            Std.ExtTreeMap.notMem_of_getElem? hbb
          rw [hstep] at hbufs hframe hfilled hnon heffects ⊢
          refine ⟨?_, hframe, ?_, ?_, ?_⟩
          · intro streamId
            rw [hbufs streamId]
            by_cases heq : buffer.streamId = streamId
            · subst heq
              simp [hbb]
            · simp [heq]
          · simpa [hnot] using hfilled
          · simpa [hnot] using hnon
          · simpa using heffects
      | some bb =>
          have hstep : queueBuffer queued buffer = { queued with
              effects := queued.effects ++ closeAll buffer.releaseFence
              batch := { queued.batch with
                mBatchBufs := queued.batch.mBatchBufs.insert buffer.streamId
                  { bb with mBuffers := bb.mBuffers ++ [buffer] } }
              filledStreams := queued.filledStreams ++ [buffer.streamId] } := by
            simp only [queueBuffer, hbb]
          have hmem : buffer.streamId ∈ queued.batch.mBatchBufs :=
            Std.ExtTreeMap.mem_of_getElem? hbb
          -- the entry is replaced, so no stream becomes batched or stops being it
          have hkeys : ∀ s : Int, s ∈ queued.batch.mBatchBufs.insert buffer.streamId
              { bb with mBuffers := bb.mBuffers ++ [buffer] } ↔ s ∈ queued.batch.mBatchBufs := by
            intro s
            rw [Std.ExtTreeMap.mem_insert_iff]
            exact or_iff_left_of_imp fun heq => heq ▸ hmem
          rw [hstep] at hbufs hframe hfilled hnon heffects ⊢
          simp only [hkeys] at hfilled hnon
          refine ⟨?_, ?_, ?_, ?_, ?_⟩
          · intro streamId
            rw [hbufs streamId, Std.ExtTreeMap.getElem?_insert_of_eq]
            by_cases heq : buffer.streamId = streamId
            · subst heq
              simp [hbb]
            · simp [heq]
          · rw [hframe]
          · simpa [hmem] using hfilled
          · simpa [hmem] using hnon
          · simpa using heffects

theorem outputsDelivered_sendNonBatched (result : CaptureResult) (buffers : List StreamBuffer)
    (streamId : Int) :
    outputsDelivered streamId (resultsOf (sendNonBatched result buffers)) =
      (buffers.filter (·.streamId = streamId)).map fun buffer =>
        (result.frameNumber, buffer) := by
  unfold sendNonBatched
  split
  next => simp [outputsDelivered, CaptureResult.outputsOn]
  next h =>
    rw [not_or, not_not] at h
    simp [h.1]

@[simp] theorem resultsOf_residue (result : CaptureResult) (buffers : List StreamBuffer) :
    resultsOf (residue result buffers) = [] := by
  unfold residue
  split <;> simp

theorem sendLastFrame_of_ne {batch : InflightBatch} {result : CaptureResult}
    (hne : result.frameNumber ≠ batch.mLastFrame) (filledStreams : List Int) :
    batch.sendLastFrame result filledStreams = ([], batch) := if_neg hne

/-- The metadata that the last frame sends up, and the batch after it. -/
def sendLastMetadata (batch : InflightBatch) (result : CaptureResult) :
    List Effect × InflightBatch :=
  if 0 < result.partialResult then batch.sendBatchMetadataLocked result.partialResult
  else ([], batch)

theorem sendLastMetadata_frame (batch : InflightBatch) (result : CaptureResult) :
    (batch.sendLastMetadata result).2 =
      { batch with
        mPartialResultProgress := (batch.sendLastMetadata result).2.mPartialResultProgress
        mResultMds := (batch.sendLastMetadata result).2.mResultMds } := by
  unfold sendLastMetadata
  split
  · exact sendBatchMetadataLocked_frame _ _
  · rfl

/-- The last frame sends the metadata first, and the buffers if it fills any stream. -/
theorem sendLastFrame_of_eq {batch : InflightBatch} {result : CaptureResult}
    (heq : result.frameNumber = batch.mLastFrame) (filledStreams : List Int) :
    batch.sendLastFrame result filledStreams =
      if filledStreams = [] then batch.sendLastMetadata result
      else
        ((batch.sendLastMetadata result).1 ++
            ((batch.sendLastMetadata result).2.sendBatchBuffersLocked filledStreams).1,
          ((batch.sendLastMetadata result).2.sendBatchBuffersLocked filledStreams).2) := by
  unfold sendLastFrame sendLastMetadata
  rw [if_pos heq]
  by_cases hfilled : filledStreams = []
  · simp [hfilled]
  · simp [hfilled]

theorem sendLastFrame_frame (batch : InflightBatch) (result : CaptureResult)
    (filledStreams : List Int) :
    (batch.sendLastFrame result filledStreams).2 =
      { batch with
        mBatchBufs := (batch.sendLastFrame result filledStreams).2.mBatchBufs
        mPartialResultProgress :=
          (batch.sendLastFrame result filledStreams).2.mPartialResultProgress
        mResultMds := (batch.sendLastFrame result filledStreams).2.mResultMds } := by
  by_cases heq : result.frameNumber = batch.mLastFrame
  · rw [sendLastFrame_of_eq heq]
    split
    · rw [sendLastMetadata_frame]
    · dsimp only
      rw [sendBatchBuffersLocked_frame, sendLastMetadata_frame]
  · rw [sendLastFrame_of_ne heq]

theorem outputsDelivered_sendLastMetadata (batch : InflightBatch) (result : CaptureResult)
    (streamId : Int) :
    outputsDelivered streamId (resultsOf (batch.sendLastMetadata result).1) = [] := by
  unfold sendLastMetadata
  split
  · exact outputsDelivered_sendBatchMetadataLocked _ _ _
  · rfl

/-- The last frame of a batch delivers what the filled streams have pending. -/
theorem sendLastFrame_delivers {batch : InflightBatch} (hkeyed : batch.Keyed)
    {filledStreams : List Int} (hnodup : filledStreams.Nodup)
    (hbatched : ∀ s ∈ filledStreams, s ∈ batch.mBatchBufs) (result : CaptureResult)
    (streamId : Int) :
    outputsDelivered streamId (resultsOf (batch.sendLastFrame result filledStreams).1) =
      if result.frameNumber = batch.mLastFrame ∧ streamId ∈ filledStreams then
        numbered batch.mFirstFrame ((batch.pending streamId).getD []) else [] := by
  by_cases heq : result.frameNumber = batch.mLastFrame
  · have hbufs : (batch.sendLastMetadata result).2.mBatchBufs = batch.mBatchBufs := by
      rw [sendLastMetadata_frame]
    have hfirst : (batch.sendLastMetadata result).2.mFirstFrame = batch.mFirstFrame := by
      rw [sendLastMetadata_frame]
    rw [sendLastFrame_of_eq heq]
    split
    next hnil => simp [outputsDelivered_sendLastMetadata, hnil]
    next =>
      have hkeyed' : (batch.sendLastMetadata result).2.Keyed := by
        unfold Keyed
        rw [hbufs]
        exact hkeyed
      have hpending : (batch.sendLastMetadata result).2.pending streamId =
          batch.pending streamId := by
        unfold InflightBatch.pending
        rw [hbufs]
      simp only [resultsOf_append, outputsDelivered_append, outputsDelivered_sendLastMetadata,
        List.nil_append]
      rw [sendBatchBuffersLocked_delivers hkeyed' hnodup (by rw [hbufs]; exact hbatched),
        hpending, hfirst]
      simp [heq]
  · rw [sendLastFrame_of_ne heq]
    simp [heq]

theorem inputsDelivered_sendLastFrame (batch : InflightBatch) (result : CaptureResult)
    (filledStreams : List Int) (streamId : Int) :
    inputsDelivered streamId (resultsOf (batch.sendLastFrame result filledStreams).1) = [] := by
  have hmetadata :
      inputsDelivered streamId (resultsOf (batch.sendLastMetadata result).1) = [] := by
    unfold sendLastMetadata
    split
    · exact inputsDelivered_sendBatchMetadataLocked _ _ _
    · rfl
  by_cases heq : result.frameNumber = batch.mLastFrame
  · rw [sendLastFrame_of_eq heq]
    split
    · exact hmetadata
    · rw [resultsOf_append, inputsDelivered_append, hmetadata, List.nil_append]
      exact inputsDelivered_eq_nil
        (fun _ hmem => (result_of_mem_sendBatchBuffersLocked hmem).1) streamId
  · rw [sendLastFrame_of_ne heq]
    rfl

/-- The section sends the input buffer of a result up at once. -/
theorem inputsDelivered_processCaptureResult (batch : InflightBatch) (result : CaptureResult)
    (streamId : Int) :
    inputsDelivered streamId (resultsOf (batch.processCaptureResult result).1) =
      result.inputsOn streamId := by
  unfold processCaptureResult
  split
  next => simp [inputsDelivered]
  next =>
    have hqueue := (foldl_queueBuffer result.outputBuffers
      { batch := batch.queueMetadata result }).2.2.2.2
    rw [resultsOf_append, resultsOf_append, resultsOf_append, hqueue, resultsOf_residue]
    simp only [resultsOf_nil, List.nil_append, List.append_nil, inputsDelivered_append,
      inputsDelivered_sendLastFrame]
    unfold sendNonBatched
    split
    next => simp [inputsDelivered, CaptureResult.inputsOn]
    next h =>
      rw [not_or, not_not] at h
      simp [CaptureResult.inputsOn, h.2]

/-- Everything but the queues and the progress survives the section. -/
theorem processCaptureResult_frame (batch : InflightBatch) (result : CaptureResult) :
    (batch.processCaptureResult result).2 =
      { batch with
        mBatchBufs := (batch.processCaptureResult result).2.mBatchBufs
        mPartialResultProgress := (batch.processCaptureResult result).2.mPartialResultProgress
        mResultMds := (batch.processCaptureResult result).2.mResultMds } := by
  unfold processCaptureResult
  split
  · rfl
  · dsimp only
    rw [sendLastFrame_frame,
      (foldl_queueBuffer result.outputBuffers { batch := batch.queueMetadata result }).2.1,
      queueMetadata_frame]

/-! ## Queueing a result -/

/-- The locals of the section once all output buffers are distributed. -/
def queueResult (batch : InflightBatch) (result : CaptureResult) : Queued :=
  result.outputBuffers.foldl queueBuffer { batch := batch.queueMetadata result }

/-- In a batch that is still there a result is queued, and what it completes is sent. -/
theorem processCaptureResult_of_not_removed {batch : InflightBatch}
    (hremoved : batch.mRemoved = false) (result : CaptureResult) :
    batch.processCaptureResult result =
      let queued := batch.queueResult result
      let last := queued.batch.sendLastFrame result queued.filledStreams
      (queued.effects ++ sendNonBatched result queued.nonBatchedBuffers ++ last.1 ++
        residue result queued.nonBatchedBuffers, last.2) := by
  simp [processCaptureResult, hremoved, queueResult]

theorem queueResult_mBatchBufs (batch : InflightBatch) (result : CaptureResult)
    (streamId : Int) :
    (batch.queueResult result).batch.mBatchBufs[streamId]? =
      batch.mBatchBufs[streamId]?.map fun bb =>
        { bb with mBuffers := bb.mBuffers ++ result.outputsOn streamId } := by
  have h := (foldl_queueBuffer result.outputBuffers
    { batch := batch.queueMetadata result }).1 streamId
  rwa [queueMetadata_mBatchBufs] at h

theorem queueResult_frame (batch : InflightBatch) (result : CaptureResult) :
    (batch.queueResult result).batch =
      { batch with
        mBatchBufs := (batch.queueResult result).batch.mBatchBufs
        mResultMds := (batch.queueMetadata result).mResultMds } := by
  have h := (foldl_queueBuffer result.outputBuffers { batch := batch.queueMetadata result }).2.1
  rw [queueResult, h, queueMetadata_frame]

theorem mem_queueResult_mBatchBufs (batch : InflightBatch) (result : CaptureResult)
    (streamId : Int) :
    streamId ∈ (batch.queueResult result).batch.mBatchBufs ↔ streamId ∈ batch.mBatchBufs := by
  simp only [Std.ExtTreeMap.mem_iff_isSome_getElem?, queueResult_mBatchBufs, Option.isSome_map]

theorem queueResult_filledStreams (batch : InflightBatch) (result : CaptureResult) :
    (batch.queueResult result).filledStreams =
      (result.outputBuffers.map (·.streamId)).filter (· ∈ batch.mBatchBufs) := by
  have h := (foldl_queueBuffer result.outputBuffers
    { batch := batch.queueMetadata result }).2.2.1
  rw [queueResult, h]
  simp [queueMetadata_mBatchBufs]

theorem queueResult_nonBatchedBuffers (batch : InflightBatch) (result : CaptureResult) :
    (batch.queueResult result).nonBatchedBuffers =
      result.outputBuffers.filter fun buffer => buffer.streamId ∉ batch.mBatchBufs := by
  have h := (foldl_queueBuffer result.outputBuffers
    { batch := batch.queueMetadata result }).2.2.2.1
  rw [queueResult, h]
  simp [queueMetadata_mBatchBufs]

@[simp] theorem resultsOf_queueResult_effects (batch : InflightBatch) (result : CaptureResult) :
    resultsOf (batch.queueResult result).effects = [] :=
  (foldl_queueBuffer result.outputBuffers { batch := batch.queueMetadata result }).2.2.2.2

theorem Keyed.queueResult {batch : InflightBatch} (hkeyed : batch.Keyed)
    (result : CaptureResult) : (batch.queueResult result).batch.Keyed := by
  intro streamId bb hbb buffer hbuffer
  rw [queueResult_mBatchBufs, Option.map_eq_some_iff] at hbb
  obtain ⟨old, hold, rfl⟩ := hbb
  rcases List.mem_append.mp hbuffer with hbuffer | hbuffer
  · exact hkeyed streamId old hold buffer hbuffer
  · simpa using (List.mem_filter.mp hbuffer).2

theorem mem_outputsOn {result : CaptureResult} {streamId : Int} {buffer : StreamBuffer} :
    buffer ∈ result.outputsOn streamId ↔
      buffer ∈ result.outputBuffers ∧ buffer.streamId = streamId := by
  simp [CaptureResult.outputsOn]

theorem mem_queueResult_filledStreams {batch : InflightBatch} {result : CaptureResult}
    {streamId : Int} : streamId ∈ (batch.queueResult result).filledStreams ↔
      streamId ∈ batch.mBatchBufs ∧ result.outputsOn streamId ≠ [] := by
  simp only [queueResult_filledStreams, List.mem_filter, List.mem_map, decide_eq_true_eq]
  constructor
  · rintro ⟨⟨buffer, hbuffer, heq⟩, hmem⟩
    exact ⟨hmem, List.ne_nil_of_mem (mem_outputsOn.mpr ⟨hbuffer, heq⟩)⟩
  · rintro ⟨hmem, hne⟩
    obtain ⟨buffer, hbuffer⟩ := List.exists_mem_of_ne_nil _ hne
    exact ⟨⟨buffer, mem_outputsOn.mp hbuffer⟩, hmem⟩

/-- The streams of a result are still open in the batch: none of them has been
marked delivered. -/
def Open (batch : InflightBatch) (result : CaptureResult) : Prop :=
  ∀ (streamId : Int) (bb : BufferBatch), result.outputsOn streamId ≠ [] →
    batch.mBatchBufs[streamId]? = some bb → bb.mDelivered = false

theorem Settled.queueResult {batch : InflightBatch} (hsettled : batch.Settled)
    {result : CaptureResult} (hopen : batch.Open result) :
    (batch.queueResult result).batch.Settled := by
  intro streamId bb hbb hdelivered
  rw [queueResult_mBatchBufs, Option.map_eq_some_iff] at hbb
  obtain ⟨old, hold, rfl⟩ := hbb
  by_cases hout : result.outputsOn streamId = []
  · simp only [hout, List.append_nil]
    exact hsettled streamId old hold hdelivered
  · rw [hopen streamId old hout hold] at hdelivered
    cases hdelivered

theorem queuedOn_queueResult {batch : InflightBatch} {result : CaptureResult} {streamId : Int}
    (hmem : streamId ∈ batch.mBatchBufs) :
    (batch.queueResult result).batch.queuedOn streamId =
      batch.queuedOn streamId ++ result.outputsOn streamId := by
  obtain ⟨bb, hbb⟩ := Std.ExtTreeMap.exists_getElem?_of_mem hmem
  simp [queuedOn, queueResult_mBatchBufs, hbb]

/-- The output buffers that the section of `processCaptureResult` delivers on a
stream: at once if the stream is not batched, the whole queue if this is the last
frame of the batch and the stream is filled, nothing otherwise. -/
theorem processCaptureResult_delivers {batch : InflightBatch}
    (hremoved : batch.mRemoved = false) (hkeyed : batch.Keyed) (hsettled : batch.Settled)
    {result : CaptureResult} (hstreams : (result.outputBuffers.map (·.streamId)).Nodup)
    (hopen : batch.Open result) (streamId : Int) :
    outputsDelivered streamId (resultsOf (batch.processCaptureResult result).1) =
      if streamId ∈ batch.mBatchBufs then
        if result.frameNumber = batch.mLastFrame ∧ result.outputsOn streamId ≠ [] then
          numbered batch.mFirstFrame (batch.queuedOn streamId ++ result.outputsOn streamId)
        else []
      else (result.outputsOn streamId).map fun buffer => (result.frameNumber, buffer) := by
  have hnodup : (batch.queueResult result).filledStreams.Nodup := by
    rw [queueResult_filledStreams]
    exact hstreams.filter _
  have hbatched : ∀ s ∈ (batch.queueResult result).filledStreams,
      s ∈ (batch.queueResult result).batch.mBatchBufs := by
    intro s hs
    rw [mem_queueResult_mBatchBufs]
    exact (mem_queueResult_filledStreams.mp hs).1
  have hlast := sendLastFrame_delivers (hkeyed.queueResult result) hnodup hbatched result streamId
  have hends : (batch.queueResult result).batch.mLastFrame = batch.mLastFrame ∧
      (batch.queueResult result).batch.mFirstFrame = batch.mFirstFrame := by
    rw [queueResult_frame]
    exact ⟨rfl, rfl⟩
  simp only [(hsettled.queueResult hopen).pending_getD, mem_queueResult_filledStreams, hends.1,
    hends.2] at hlast
  rw [processCaptureResult_of_not_removed hremoved]
  simp only [resultsOf_append, resultsOf_queueResult_effects, resultsOf_residue, List.nil_append,
    List.append_nil, outputsDelivered_append, outputsDelivered_sendNonBatched, hlast,
    queueResult_nonBatchedBuffers, List.filter_filter]
  -- what goes up at once is what the result has for streams outside the batch
  by_cases hmem : streamId ∈ batch.mBatchBufs
  · have hnone : result.outputBuffers.filter (fun buffer =>
        decide (buffer.streamId = streamId) && decide (buffer.streamId ∉ batch.mBatchBufs)) =
        [] := by
      rw [List.filter_eq_nil_iff]
      intro buffer _
      by_cases heq : buffer.streamId = streamId
      · simp [heq, hmem]
      · simp [heq]
    simp only [hmem, true_and, hnone, List.map_nil, List.nil_append, if_true,
      queuedOn_queueResult hmem]
  · have hall : result.outputBuffers.filter (fun buffer =>
        decide (buffer.streamId = streamId) && decide (buffer.streamId ∉ batch.mBatchBufs)) =
        result.outputsOn streamId := by
      apply List.filter_congr
      intro buffer _
      by_cases heq : buffer.streamId = streamId
      · simp [heq, hmem]
      · simp [heq]
    simp only [hmem, hall, false_and, and_false, if_false, List.append_nil]

/-- The queues after the section: a stream filled by the last frame is delivered and
empty, any other one has the buffers of the result appended. -/
theorem processCaptureResult_mBatchBufs {batch : InflightBatch}
    (hremoved : batch.mRemoved = false) (hsettled : batch.Settled) {result : CaptureResult}
    (hopen : batch.Open result) (streamId : Int) :
    (batch.processCaptureResult result).2.mBatchBufs[streamId]? =
      if result.frameNumber = batch.mLastFrame ∧ streamId ∈ batch.mBatchBufs ∧
          result.outputsOn streamId ≠ [] then some { mDelivered := true, mBuffers := [] }
      else batch.mBatchBufs[streamId]?.map fun bb =>
        { bb with mBuffers := bb.mBuffers ++ result.outputsOn streamId } := by
  have hlastFrame : (batch.queueResult result).batch.mLastFrame = batch.mLastFrame := by
    rw [queueResult_frame]
  rw [processCaptureResult_of_not_removed hremoved]
  dsimp only
  by_cases heq : result.frameNumber = batch.mLastFrame
  · have hmd : ((batch.queueResult result).batch.sendLastMetadata result).2.mBatchBufs =
        (batch.queueResult result).batch.mBatchBufs := by
      rw [sendLastMetadata_frame]
    rw [sendLastFrame_of_eq (heq.trans hlastFrame.symm)]
    split
    next hnil =>
      have hnot : ¬ (streamId ∈ batch.mBatchBufs ∧ result.outputsOn streamId ≠ []) := by
        rw [← mem_queueResult_filledStreams, hnil]
        exact List.not_mem_nil
      rw [hmd, queueResult_mBatchBufs, if_neg (fun h => hnot h.2)]
    next =>
      have hsettled' : ((batch.queueResult result).batch.sendLastMetadata result).2.Settled := by
        unfold Settled
        rw [hmd]
        exact hsettled.queueResult hopen
      have hbatched : ∀ s ∈ (batch.queueResult result).filledStreams,
          s ∈ ((batch.queueResult result).batch.sendLastMetadata result).2.mBatchBufs := by
        intro s hs
        rw [hmd, mem_queueResult_mBatchBufs]
        exact (mem_queueResult_filledStreams.mp hs).1
      dsimp only
      rw [sendBatchBuffersLocked_mBatchBufs hsettled' hbatched, hmd, queueResult_mBatchBufs]
      simp only [mem_queueResult_filledStreams, heq, true_and]
  · rw [sendLastFrame_of_ne (fun h => heq (h.trans hlastFrame))]
    rw [queueResult_mBatchBufs, if_neg (fun h => heq h.1)]

/-- A result adds no streams to a batch. -/
theorem mem_processCaptureResult_mBatchBufs {batch : InflightBatch}
    (hremoved : batch.mRemoved = false) (hsettled : batch.Settled) {result : CaptureResult}
    (hopen : batch.Open result) (streamId : Int) :
    streamId ∈ (batch.processCaptureResult result).2.mBatchBufs ↔
      streamId ∈ batch.mBatchBufs := by
  rw [Std.ExtTreeMap.mem_iff_isSome_getElem?,
    processCaptureResult_mBatchBufs hremoved hsettled hopen]
  split
  next h => simp [h.2.1]
  next => rw [Option.isSome_map, Std.ExtTreeMap.mem_iff_isSome_getElem?]

/-- The queue of a stream after the section. -/
theorem queuedOn_processCaptureResult {batch : InflightBatch}
    (hremoved : batch.mRemoved = false) (hsettled : batch.Settled) {result : CaptureResult}
    (hopen : batch.Open result) (streamId : Int) :
    (batch.processCaptureResult result).2.queuedOn streamId =
      if streamId ∈ batch.mBatchBufs then
        if result.frameNumber = batch.mLastFrame ∧ result.outputsOn streamId ≠ [] then []
        else batch.queuedOn streamId ++ result.outputsOn streamId
      else [] := by
  have hbufs := processCaptureResult_mBatchBufs hremoved hsettled hopen streamId
  by_cases hmem : streamId ∈ batch.mBatchBufs
  · obtain ⟨bb, hbb⟩ := Std.ExtTreeMap.exists_getElem?_of_mem hmem
    simp only [hmem, true_and, if_true] at hbufs ⊢
    simp only [queuedOn, hbufs, hbb]
    split <;> rfl
  · have hnone : batch.mBatchBufs[streamId]? = none := Std.ExtTreeMap.getElem?_eq_none hmem
    simp only [hmem, false_and, and_false, if_false, hnone, Option.map_none] at hbufs ⊢
    simp [queuedOn, hbufs]

/-- What the section delivers and leaves queued is what was queued and what came,
provided nothing is queued ahead on a stream that is not batched. -/
theorem processCaptureResult_conserves {batch : InflightBatch}
    (hremoved : batch.mRemoved = false) (hkeyed : batch.Keyed) (hsettled : batch.Settled)
    {result : CaptureResult} (hstreams : (result.outputBuffers.map (·.streamId)).Nodup)
    (hopen : batch.Open result) (streamId : Int) :
    (outputsDelivered streamId (resultsOf (batch.processCaptureResult result).1)).map Prod.snd ++
        (batch.processCaptureResult result).2.queuedOn streamId =
      batch.queuedOn streamId ++ result.outputsOn streamId := by
  rw [processCaptureResult_delivers hremoved hkeyed hsettled hstreams hopen,
    queuedOn_processCaptureResult hremoved hsettled hopen]
  by_cases hmem : streamId ∈ batch.mBatchBufs
  · simp only [hmem, if_true]
    split
    next => rw [map_snd_numbered, List.append_nil]
    next => rfl
  · simp [hmem, queuedOn, Function.comp_def]

/-- A stream that the result does not fill gets nothing delivered. -/
theorem processCaptureResult_delivers_nothing {batch : InflightBatch}
    (hremoved : batch.mRemoved = false) (hkeyed : batch.Keyed) (hsettled : batch.Settled)
    {result : CaptureResult} (hstreams : (result.outputBuffers.map (·.streamId)).Nodup)
    (hopen : batch.Open result) {streamId : Int} (hout : result.outputsOn streamId = []) :
    outputsDelivered streamId (resultsOf (batch.processCaptureResult result).1) = [] := by
  rw [processCaptureResult_delivers hremoved hkeyed hsettled hstreams hopen, hout]
  simp

/-- A stream that is delivered still holds nothing after a result. -/
theorem Settled.processCaptureResult {batch : InflightBatch}
    (hremoved : batch.mRemoved = false) (hsettled : batch.Settled) {result : CaptureResult}
    (hopen : batch.Open result) : (batch.processCaptureResult result).2.Settled := by
  intro streamId bb hbb hdelivered
  rw [processCaptureResult_mBatchBufs hremoved hsettled hopen] at hbb
  split at hbb
  next =>
    cases hbb
    rfl
  next =>
    rw [← queueResult_mBatchBufs] at hbb
    exact hsettled.queueResult hopen streamId bb hbb hdelivered

/-- The buffers are still queued under their streams after a result. -/
theorem Keyed.processCaptureResult {batch : InflightBatch} (hkeyed : batch.Keyed)
    (hremoved : batch.mRemoved = false) (hsettled : batch.Settled) {result : CaptureResult}
    (hopen : batch.Open result) : (batch.processCaptureResult result).2.Keyed := by
  intro streamId bb hbb
  rw [processCaptureResult_mBatchBufs hremoved hsettled hopen] at hbb
  split at hbb
  next =>
    cases hbb
    simp
  next =>
    rw [← queueResult_mBatchBufs] at hbb
    exact hkeyed.queueResult result streamId bb hbb

/-! ## What a section marks as sent -/

theorem sendLastMetadata_mPartialResultProgress (batch : InflightBatch) (result : CaptureResult) :
    (batch.sendLastMetadata result).2.mPartialResultProgress =
      max batch.mPartialResultProgress result.partialResult := by
  unfold sendLastMetadata
  split
  next =>
    unfold sendBatchMetadataLocked
    split
    next hle => exact (max_eq_left hle).symm
    next hlt => exact (max_eq_right (Nat.le_of_not_le hlt)).symm
  next hzero =>
    have hnone : result.partialResult = 0 := Nat.eq_zero_of_not_pos hzero
    rw [hnone, Nat.max_zero]

/-- Only the last frame of a batch makes progress with its metadata. -/
theorem processCaptureResult_mPartialResultProgress {batch : InflightBatch}
    (hremoved : batch.mRemoved = false) (result : CaptureResult) :
    (batch.processCaptureResult result).2.mPartialResultProgress =
      if result.frameNumber = batch.mLastFrame then
        max batch.mPartialResultProgress result.partialResult
      else batch.mPartialResultProgress := by
  have hqueued : (batch.queueResult result).batch.mPartialResultProgress =
        batch.mPartialResultProgress ∧
      (batch.queueResult result).batch.mLastFrame = batch.mLastFrame := by
    rw [queueResult_frame]
    exact ⟨rfl, rfl⟩
  rw [processCaptureResult_of_not_removed hremoved]
  dsimp only
  split
  next heq =>
    rw [sendLastFrame_of_eq (heq.trans hqueued.2.symm)]
    split
    · rw [sendLastMetadata_mPartialResultProgress, hqueued.1]
    · dsimp only
      rw [sendBatchBuffersLocked_frame, sendLastMetadata_mPartialResultProgress, hqueued.1]
  next hne => rw [sendLastFrame_of_ne (fun h => hne (h.trans hqueued.2)), hqueued.1]

/-- Only the last frame of a batch sends its shutters. -/
theorem notifyShutter_mShutterDelivered {batch : InflightBatch} (hremoved : batch.mRemoved = false)
    (msg : NotifyMsg) :
    (batch.notifyShutter msg).2.mShutterDelivered =
      (batch.mShutterDelivered || decide (msg.frameNumber = batch.mLastFrame)) := by
  simp only [notifyShutter, hremoved, Bool.false_eq_true, if_false]
  split
  next heq =>
    rw [sendBatchShutterCbsLocked]
    split
    next hsent =>
      have hdelivered : batch.mShutterDelivered = true := hsent
      simp [hdelivered]
    next => simp [heq]
  next hne => simp [hne]

/-- What of a batch the section of `processCaptureResult` leaves alone. -/
theorem processCaptureResult_keeps (batch : InflightBatch) (result : CaptureResult) :
    (batch.processCaptureResult result).2.mFirstFrame = batch.mFirstFrame ∧
      (batch.processCaptureResult result).2.mLastFrame = batch.mLastFrame ∧
      (batch.processCaptureResult result).2.mRemoved = batch.mRemoved ∧
      (batch.processCaptureResult result).2.mNumPartialResults = batch.mNumPartialResults ∧
      (batch.processCaptureResult result).2.mShutterDelivered = batch.mShutterDelivered := by
  rw [processCaptureResult_frame]
  exact ⟨rfl, rfl, rfl, rfl, rfl⟩

/-! ## Flushing a batch -/

/-- An error delivers all that a batch holds for the streams it was registered with. -/
theorem flush_delivers {batch : InflightBatch} (hkeyed : batch.Keyed)
    (hsettled : batch.Settled) {streamsToBatch : List Int} (hnodup : streamsToBatch.Nodup)
    (hstreams : ∀ s, s ∈ streamsToBatch ↔ s ∈ batch.mBatchBufs) (numPartialResults : Nat)
    (streamId : Int) :
    outputsDelivered streamId (resultsOf (batch.flush streamsToBatch numPartialResults).1) =
      numbered batch.mFirstFrame (batch.queuedOn streamId) := by
  have hbufs := batch.mBatchBufs_sendBatchShutterCbsLocked
  have hfirst : batch.sendBatchShutterCbsLocked.2.mFirstFrame = batch.mFirstFrame := by
    rw [sendBatchShutterCbsLocked_frame]
  have hsent := sendBatchBuffersLocked_delivers hkeyed.sendBatchShutterCbsLocked hnodup
    (fun s hs => by rw [hbufs]; exact (hstreams s).mp hs) streamId
  simp only [flush, resultsOf_append, resultsOf_sendBatchShutterCbsLocked, List.nil_append,
    outputsDelivered_append, outputsDelivered_sendBatchMetadataLocked, List.append_nil, hsent,
    pending_sendBatchShutterCbsLocked, hfirst, hsettled.pending_getD]
  split
  next => rfl
  next hnot =>
    have hnone : batch.mBatchBufs[streamId]? = none :=
      Std.ExtTreeMap.getElem?_eq_none (mt (hstreams streamId).mpr hnot)
    simp [queuedOn, hnone, numbered]

/-- A batch that holds nothing delivers nothing, whatever streams it is flushed for. -/
theorem flush_delivers_nothing {batch : InflightBatch}
    (hempty : ∀ streamId, batch.queuedOn streamId = []) (streamsToBatch : List Int)
    (numPartialResults : Nat) (streamId : Int) :
    outputsDelivered streamId (resultsOf (batch.flush streamsToBatch numPartialResults).1) =
      [] := by
  have hempty' : ∀ s, batch.sendBatchShutterCbsLocked.2.queuedOn s = [] := by
    intro s
    rw [sendBatchShutterCbsLocked_frame]
    exact hempty s
  simp only [flush, resultsOf_append, resultsOf_sendBatchShutterCbsLocked, List.nil_append,
    sendBatchBuffersLocked_silent (queuedOn_eq_nil_of_empty hempty'), resultsOf_nil,
    outputsDelivered_sendBatchMetadataLocked]

/-- A flush delivers no input buffers. -/
theorem inputsDelivered_flush (batch : InflightBatch) (streamsToBatch : List Int)
    (numPartialResults : Nat) (streamId : Int) :
    inputsDelivered streamId (resultsOf (batch.flush streamsToBatch numPartialResults).1) = [] := by
  simp only [flush, resultsOf_append, inputsDelivered_append, resultsOf_sendBatchShutterCbsLocked,
    inputsDelivered_sendBatchMetadataLocked, List.nil_append, List.append_nil]
  exact inputsDelivered_eq_nil
    (fun _ hmem => (result_of_mem_sendBatchBuffersLocked hmem).1) streamId

/-- A flush leaves the frames of the batch as they are. -/
theorem flush_ends (batch : InflightBatch) (streamsToBatch : List Int) (n : Nat) :
    (batch.flush streamsToBatch n).2.mFirstFrame = batch.mFirstFrame ∧
      (batch.flush streamsToBatch n).2.mLastFrame = batch.mLastFrame := by
  simp only [flush]
  rw [sendBatchMetadataLocked_frame, sendBatchBuffersLocked_frame,
    sendBatchShutterCbsLocked_frame]
  exact ⟨rfl, rfl⟩

/-- A batch is complete with its last shutter, its final metadata and all its streams. -/
theorem allDelivered_eq_true_iff {batch : InflightBatch} :
    batch.allDelivered = true ↔ batch.mShutterDelivered = true ∧
      batch.mNumPartialResults ≤ batch.mPartialResultProgress ∧
      ∀ (streamId : Int) (bb : BufferBatch), batch.mBatchBufs[streamId]? = some bb →
        bb.mDelivered = true := by
  simp only [allDelivered, Bool.and_eq_true, decide_eq_true_eq, List.all_eq_true, and_assoc,
    Prod.forall, Std.ExtTreeMap.mem_toList_iff_getElem?_eq_some]

end InflightBatch

/-! ## The deque -/

namespace ResultBatcher

theorem getBatch_eq_some {s : ResultBatcher} {frameNumber i : Nat} {batch : InflightBatch}
    (h : s.getBatch frameNumber = some (i, batch)) :
    s.mInflightBatches[i]? = some batch ∧ batch.mFirstFrame ≤ frameNumber ∧
      frameNumber ≤ batch.mLastFrame := by
  unfold getBatch at h
  split at h
  next =>
    split at h
    next => cases h
    next =>
      obtain ⟨j, hfind, hget⟩ := Option.bind_eq_some_iff.mp h
      obtain ⟨found, hfound, heq⟩ := Option.map_eq_some_iff.mp hget
      cases heq
      refine ⟨hfound, ?_⟩
      obtain ⟨hlt, hcontains, _⟩ := List.findIdx?_eq_some_iff_getElem.mp hfind
      obtain ⟨hlt', rfl⟩ := List.getElem?_eq_some_iff.mp hfound
      simpa [InflightBatch.contains] using hcontains
  next => cases h

/-- The deque holds batches of increasing disjoint frame ranges. -/
abbrev Ordered (batches : List InflightBatch) : Prop :=
  OrderedIntervals InflightBatch.mFirstFrame InflightBatch.mLastFrame batches

theorem not_contains_of_getBatch_eq_none {s : ResultBatcher} (hordered : Ordered s.mInflightBatches)
    {frameNumber : Nat} (h : s.getBatch frameNumber = none) :
    ∀ batch ∈ s.mInflightBatches,
      frameNumber < batch.mFirstFrame ∨ batch.mLastFrame < frameNumber := by
  intro batch hmem
  by_contra hcontains
  rw [not_or, not_lt, not_lt] at hcontains
  obtain ⟨first, rest, hlist⟩ := List.exists_cons_of_ne_nil (List.ne_nil_of_mem hmem)
  obtain ⟨last, hlast⟩ := Option.isSome_iff_exists.mp
    (List.getLast?_isSome.mpr (List.ne_nil_of_mem hmem))
  have hhead : s.mInflightBatches.head? = some first := by rw [hlist]; rfl
  have hlo : first.mFirstFrame ≤ batch.mFirstFrame := by
    rw [hlist] at hordered hmem
    exact hordered.head_lo_le hmem
  have hhi : batch.mLastFrame ≤ last.mLastFrame := hordered.le_getLast_hi hlast hmem
  have hinside : ¬ (frameNumber < first.mFirstFrame ∨ last.mLastFrame < frameNumber) := by omega
  simp only [getBatch, hhead, hlast, hinside, if_false, Option.bind_eq_none_iff] at h
  cases hfind : s.mInflightBatches.findIdx? (·.contains frameNumber) with
  | none =>
      rw [List.findIdx?_eq_none_iff] at hfind
      have := hfind batch hmem
      simp [InflightBatch.contains, hcontains] at this
  | some i =>
      obtain ⟨hlt, _, _⟩ := List.findIdx?_eq_some_iff_getElem.mp hfind
      have := h i hfind
      simp [hlt] at this

/-- What holds of all batches of a deque still holds when one of them is replaced by a batch
of which it holds. -/
theorem forall_mem_replaced {P : InflightBatch → Prop} {batches before after : List InflightBatch}
    {batch replaced : InflightBatch} (hlist : batches = before ++ batch :: after)
    (hall : ∀ b ∈ batches, P b) (hreplaced : P replaced) :
    ∀ b ∈ before ++ replaced :: after, P b := by
  intro b hb
  rw [List.mem_append, List.mem_cons] at hb
  rcases hb with hb | rfl | hb
  · exact hall b (by simp [hlist, hb])
  · exact hreplaced
  · exact hall b (by simp [hlist, hb])

/-- A batch found by position splits the deque. -/
theorem exists_split {s : ResultBatcher} {i : Nat} {batch : InflightBatch}
    (h : s.mInflightBatches[i]? = some batch) :
    ∃ before after, s.mInflightBatches = before ++ batch :: after ∧ before.length = i ∧
      ∀ batch', (s.setBatch i batch').mInflightBatches = before ++ batch' :: after := by
  obtain ⟨hlt, rfl⟩ := List.getElem?_eq_some_iff.mp h
  refine ⟨s.mInflightBatches.take i, s.mInflightBatches.drop (i + 1), ?_, ?_, ?_⟩
  · rw [List.getElem_cons_drop, List.take_append_drop]
  · simp [Nat.le_of_lt hlt]
  · intro batch'
    exact List.set_eq_take_append_cons_drop.trans (if_pos hlt)

end ResultBatcher

namespace ResultBatcher

/-- Only a complete first batch is removed. -/
theorem checkAndRemoveFirstBatch_cases (s : ResultBatcher) :
    s.checkAndRemoveFirstBatch = (none, s) ∨
      ∃ first rest, s.mInflightBatches = first :: rest ∧ first.allDelivered = true ∧
        s.checkAndRemoveFirstBatch =
          (some { first with mRemoved := true }, { s with mInflightBatches := rest }) := by
  unfold checkAndRemoveFirstBatch
  cases hlist : s.mInflightBatches with
  | nil => exact .inl rfl
  | cons first rest =>
      by_cases hall : first.allDelivered = true
      · exact .inr ⟨first, rest, rfl, hall, if_pos hall⟩
      · exact .inl (if_neg hall)

/-- Removing the first batch, if it is complete, takes a prefix off the deque. -/
theorem finishLastFrame_split (s : ResultBatcher) (batch : InflightBatch) (frameNumber : Nat) :
    ∃ removed, s.mInflightBatches =
        removed ++ (s.finishLastFrame batch frameNumber).2.mInflightBatches ∧
      (∀ b ∈ removed, b.allDelivered = true) ∧
      (s.finishLastFrame batch frameNumber).2.mStreamsToBatch = s.mStreamsToBatch ∧
      (s.finishLastFrame batch frameNumber).2.mNumPartialResults = s.mNumPartialResults ∧
      resultsOf (s.finishLastFrame batch frameNumber).1 = [] := by
  unfold finishLastFrame
  split
  · rcases s.checkAndRemoveFirstBatch_cases with heq | ⟨first, rest, hlist, hall, heq⟩
    · rw [heq]
      exact ⟨[], by simp⟩
    · rw [heq]
      exact ⟨[first], by simp [hlist, hall]⟩
  · exact ⟨[], by simp⟩

theorem allDelivered_getElem? {batch : InflightBatch} (h : batch.allDelivered = true)
    {streamId : Int} {bb : BufferBatch} (hbb : batch.mBatchBufs[streamId]? = some bb) :
    bb.mDelivered = true :=
  (InflightBatch.allDelivered_eq_true_iff.mp h).2.2 streamId bb hbb

/-- A complete batch holds no buffers. -/
theorem queuedOn_of_allDelivered {batch : InflightBatch} (hsettled : batch.Settled)
    (h : batch.allDelivered = true) (streamId : Int) : batch.queuedOn streamId = [] := by
  unfold InflightBatch.queuedOn
  cases hbb : batch.mBatchBufs[streamId]? with
  | none => rfl
  | some bb => exact hsettled streamId bb hbb (allDelivered_getElem? h hbb)

/-- The error loop removes as many batches as it is told, unless the deque is
shorter; their data goes up in deque order. -/
theorem flushBatches_eq_some {n : Nat} {s : ResultBatcher} (hn : n ≤ s.mInflightBatches.length) :
    ∃ effects removed s', s.flushBatches n = some (effects, removed, s') ∧
      s' = { s with mInflightBatches := s.mInflightBatches.drop n } ∧
      removed = (s.mInflightBatches.take n).map
        (fun batch => (batch.flush s.mStreamsToBatch s.mNumPartialResults).2) ∧
      resultsOf effects = (s.mInflightBatches.take n).flatMap
        fun batch => resultsOf (batch.flush s.mStreamsToBatch s.mNumPartialResults).1 := by
  induction n generalizing s with
  | zero => exact ⟨[], [], s, rfl, rfl, rfl, rfl⟩
  | succ n ih =>
      cases hlist : s.mInflightBatches with
      | nil => simp [hlist] at hn
      | cons batch rest =>
          have hrest : n ≤ ({ s with mInflightBatches := rest } :
              ResultBatcher).mInflightBatches.length := by
            rw [hlist] at hn
            simpa using hn
          obtain ⟨effects, removed, s', heq, rfl, rfl, hresults⟩ := ih hrest
          simp only [flushBatches, hlist, heq, Option.map_some]
          refine ⟨_, _, _, rfl, ?_, ?_, ?_⟩
          · rfl
          · rfl
          · simp only [resultsOf_append, hresults, List.take_succ_cons, List.flatMap_cons]
            split <;> simp

/-- The error loop runs off the end of a shorter deque. -/
theorem flushBatches_eq_none {n : Nat} {s : ResultBatcher} (hn : s.mInflightBatches.length < n) :
    s.flushBatches n = none := by
  induction n generalizing s with
  | zero => simp at hn
  | succ n ih =>
      cases hlist : s.mInflightBatches with
      | nil => simp only [flushBatches, hlist]
      | cons batch rest =>
          have hrest : ({ s with mInflightBatches := rest } :
              ResultBatcher).mInflightBatches.length < n := by
            rw [hlist] at hn
            simpa using hn
          simp only [flushBatches, hlist, ih hrest, Option.map_none]

/-! ### The operations -/

/-- A new batch has an empty queue for each stream to batch. -/
theorem newBatch_mBatchBufs (s : ResultBatcher) (frameNumber batchSize : Nat) (streamId : Int) :
    (s.newBatch frameNumber batchSize).mBatchBufs[streamId]? =
      if streamId ∈ s.mStreamsToBatch then some ({} : BufferBatch) else none := by
  have hfold : ∀ (streams : List Int) (bufs : Std.ExtTreeMap Int BufferBatch),
      (streams.foldl (fun bufs id => bufs.insertIfNew id {}) bufs)[streamId]? =
        if streamId ∈ bufs then bufs[streamId]?
        else if streamId ∈ streams then some ({} : BufferBatch) else none := by
    intro streams
    induction streams with
    | nil =>
        intro bufs
        simp
    | cons first rest ih =>
        intro bufs
        rw [List.foldl_cons, ih]
        by_cases heq : first = streamId
        · subst heq
          by_cases hmem : first ∈ bufs <;>
            simp [hmem, Std.ExtTreeMap.getElem_insertIfNew]
        · simp [Std.ExtTreeMap.mem_insertIfNew, Std.ExtTreeMap.getElem?_insertIfNew, heq,
            Ne.symm heq]
  exact (hfold s.mStreamsToBatch ∅).trans (if_neg Std.ExtTreeMap.not_mem_empty)

theorem mem_newBatch {s : ResultBatcher} {frameNumber batchSize : Nat} {streamId : Int} :
    streamId ∈ (s.newBatch frameNumber batchSize).mBatchBufs ↔ streamId ∈ s.mStreamsToBatch := by
  rw [Std.ExtTreeMap.mem_iff_isSome_getElem?, newBatch_mBatchBufs]
  split
  next hmem => simp [hmem]
  next hnot => simp [hnot]

/-- `processCaptureResult` outside all batches sends the result up; inside one it runs
the section on that batch and then drops the first batch if it is complete. -/
theorem processCaptureResult_cases (s : ResultBatcher)
    (hpresent : ∀ batch ∈ s.mInflightBatches, batch.mRemoved = false) (result : CaptureResult) :
    (s.getBatch result.frameNumber = none ∧
        s.processCaptureResult result = (processOneCaptureResult result, s)) ∨
      ∃ before batch after removed,
        s.mInflightBatches = before ++ batch :: after ∧
        batch.mFirstFrame ≤ result.frameNumber ∧ result.frameNumber ≤ batch.mLastFrame ∧
        before ++ (batch.processCaptureResult result).2 :: after =
          removed ++ (s.processCaptureResult result).2.mInflightBatches ∧
        (∀ b ∈ removed, b.allDelivered = true) ∧
        (s.processCaptureResult result).2.mStreamsToBatch = s.mStreamsToBatch ∧
        (s.processCaptureResult result).2.mNumPartialResults = s.mNumPartialResults ∧
        resultsOf (s.processCaptureResult result).1 =
          resultsOf (batch.processCaptureResult result).1 := by
  cases hget : s.getBatch result.frameNumber with
  | none => exact .inl ⟨rfl, by simp only [processCaptureResult, hget]⟩
  | some found =>
      obtain ⟨i, batch⟩ := found
      obtain ⟨hat, hfirst, hlast⟩ := getBatch_eq_some hget
      obtain ⟨before, after, hlist, -, hset⟩ := exists_split hat
      have hnot : batch.mRemoved = false := hpresent batch (by simp [hlist])
      obtain ⟨removed, hremoved, hall, hstreams, hnum, heffects⟩ :=
        (s.setBatch i (batch.processCaptureResult result).2).finishLastFrame_split batch
          result.frameNumber
      rw [hset] at hremoved
      have heq : s.processCaptureResult result =
          ((batch.processCaptureResult result).1 ++
              ((s.setBatch i (batch.processCaptureResult result).2).finishLastFrame batch
                result.frameNumber).1,
            ((s.setBatch i (batch.processCaptureResult result).2).finishLastFrame batch
                result.frameNumber).2) := by
        simp only [processCaptureResult, hget, hnot, Bool.false_eq_true, if_false]
      rw [heq]
      refine .inr ⟨before, batch, after, removed, hlist, hfirst, hlast, hremoved, hall, hstreams,
        hnum, ?_⟩
      simp [heffects]

/-- A batch in the deque after `processCaptureResult` was there before, untouched since
the frame lies outside of it, or is what the section made of the batch of the frame. -/
theorem mem_processCaptureResult {s : ResultBatcher}
    (hpresent : ∀ batch ∈ s.mInflightBatches, batch.mRemoved = false)
    (hordered : Ordered s.mInflightBatches) {result : CaptureResult} {after : InflightBatch}
    (hmem : after ∈ (s.processCaptureResult result).2.mInflightBatches) :
    (after ∈ s.mInflightBatches ∧
        (result.frameNumber < after.mFirstFrame ∨ after.mLastFrame < result.frameNumber)) ∨
      ∃ batch ∈ s.mInflightBatches, batch.mFirstFrame ≤ result.frameNumber ∧
        result.frameNumber ≤ batch.mLastFrame ∧
        after = (batch.processCaptureResult result).2 := by
  rcases s.processCaptureResult_cases hpresent result with
    ⟨hnone, heq⟩ | ⟨before, batch, rest, removed, hlist, hfirst, hlast, hsplit, -⟩
  · rw [heq] at hmem
    exact .inl ⟨hmem, not_contains_of_getBatch_eq_none hordered hnone after hmem⟩
  · have haround := (hlist ▸ hordered).around hfirst hlast
    have hsection : after ∈ before ++ (batch.processCaptureResult result).2 :: rest := by
      rw [hsplit]
      exact List.mem_append_right _ hmem
    rw [List.mem_append, List.mem_cons] at hsection
    rw [hlist]
    rcases hsection with hbefore | rfl | hrest
    · exact .inl ⟨by simp [hbefore], .inr (haround.1 after hbefore)⟩
    · exact .inr ⟨batch, by simp, hfirst, hlast, rfl⟩
    · exact .inl ⟨by simp [hrest], .inl (haround.2 after hrest)⟩

/-- The check after a last frame closes what the batch it removes still owns. -/
theorem finishLastFrame_closes (s : ResultBatcher) (batch : InflightBatch) (frameNumber : Nat) :
    ∃ fds, (s.finishLastFrame batch frameNumber).1 = closeAll fds := by
  unfold finishLastFrame
  split
  · show ∃ fds, s.checkAndRemoveFirstBatch.1.elim [] InflightBatch.destroy = closeAll fds
    cases s.checkAndRemoveFirstBatch.1 with
    | none => exact ⟨[], rfl⟩
    | some removed => exact ⟨_, rfl⟩
  · exact ⟨[], rfl⟩

/-- `notify` of a shutter outside all batches sends it; inside one it runs the section on
that batch and then drops the first batch if it is complete. -/
theorem notify_shutter_split (s : ResultBatcher)
    (hpresent : ∀ batch ∈ s.mInflightBatches, batch.mRemoved = false) (frameNumber : Nat)
    (timestamp : Int) :
    (s.getBatch frameNumber = none ∧
        s.notify (.shutter frameNumber timestamp) =
          some (notifySingleMsg (.shutter frameNumber timestamp), s)) ∨
      ∃ before batch after removed fds s',
        s.notify (.shutter frameNumber timestamp) =
          some ((batch.notifyShutter (.shutter frameNumber timestamp)).1 ++ closeAll fds, s') ∧
        s.mInflightBatches = before ++ batch :: after ∧
        batch.mFirstFrame ≤ frameNumber ∧ frameNumber ≤ batch.mLastFrame ∧
        before ++ (batch.notifyShutter (.shutter frameNumber timestamp)).2 :: after =
          removed ++ s'.mInflightBatches ∧
        (∀ b ∈ removed, b.allDelivered = true) ∧
        s'.mStreamsToBatch = s.mStreamsToBatch ∧
        s'.mNumPartialResults = s.mNumPartialResults := by
  cases hget : s.getBatch frameNumber with
  | none =>
      refine .inl ⟨rfl, ?_⟩
      simp [notify, NotifyMsg.frameNumber, hget]
  | some found =>
      obtain ⟨i, batch⟩ := found
      obtain ⟨hat, hfirst, hlast⟩ := getBatch_eq_some hget
      obtain ⟨before, after, hlist, -, hset⟩ := exists_split hat
      have hnot : batch.mRemoved = false := hpresent batch (by simp [hlist])
      let queued := s.setBatch i (batch.notifyShutter (.shutter frameNumber timestamp)).2
      obtain ⟨removed, hremoved, hall, hstreams, hnum, -⟩ :=
        queued.finishLastFrame_split batch frameNumber
      obtain ⟨fds, hfds⟩ := queued.finishLastFrame_closes batch frameNumber
      rw [hset] at hremoved
      refine .inr ⟨before, batch, after, removed, fds,
        (queued.finishLastFrame batch frameNumber).2, ?_, hlist, hfirst, hlast, hremoved, hall,
        hstreams, hnum⟩
      rw [← hfds]
      simp only [notify, NotifyMsg.frameNumber, hget, hnot, Bool.false_eq_true, if_false, queued]

/-- `notify` of a shutter sends no result. -/
theorem notify_shutter_cases (s : ResultBatcher)
    (hpresent : ∀ batch ∈ s.mInflightBatches, batch.mRemoved = false) (frameNumber : Nat)
    (timestamp : Int) :
    ∃ effects s', s.notify (.shutter frameNumber timestamp) = some (effects, s') ∧
      resultsOf effects = [] ∧ s'.mStreamsToBatch = s.mStreamsToBatch ∧
      s'.mNumPartialResults = s.mNumPartialResults ∧
      (s'.mInflightBatches = s.mInflightBatches ∨
        ∃ before batch after removed, s.mInflightBatches = before ++ batch :: after ∧
          before ++ (batch.notifyShutter (.shutter frameNumber timestamp)).2 :: after =
            removed ++ s'.mInflightBatches ∧ ∀ b ∈ removed, b.allDelivered = true) := by
  rcases s.notify_shutter_split hpresent frameNumber timestamp with
    ⟨-, heq⟩ | ⟨before, batch, after, removed, fds, s', heq, hlist, -, -, hremoved, hall, hstreams,
      hnum⟩
  · exact ⟨_, s, heq, resultsOf_notifySingleMsg _, rfl, rfl, .inl rfl⟩
  · refine ⟨_, s', heq, ?_, hstreams, hnum,
      .inr ⟨before, batch, after, removed, hlist, hremoved, hall⟩⟩
    rw [resultsOf_append, InflightBatch.resultsOf_notifyShutter, resultsOf_closeAll,
      List.append_nil]

/-- A shutter changes nothing of a batch but its queued shutters. -/
theorem mem_notify_shutter {s s' : ResultBatcher}
    (hpresent : ∀ batch ∈ s.mInflightBatches, batch.mRemoved = false) {frameNumber : Nat}
    {timestamp : Int} {effects : List Effect}
    (h : s.notify (.shutter frameNumber timestamp) = some (effects, s')) {after : InflightBatch}
    (hmem : after ∈ s'.mInflightBatches) :
    ∃ batch ∈ s.mInflightBatches, after =
      { batch with
        mShutterDelivered := after.mShutterDelivered
        mShutterMsgs := after.mShutterMsgs } := by
  obtain ⟨_, _, heq, -, -, -, hcases⟩ := s.notify_shutter_cases hpresent frameNumber timestamp
  cases h.symm.trans heq
  rcases hcases with hsame | ⟨before, batch, rest, removed, hlist, hsplit, -⟩
  · rw [hsame] at hmem
    exact ⟨after, hmem, rfl⟩
  · have hsection : after ∈
        before ++ (batch.notifyShutter (.shutter frameNumber timestamp)).2 :: rest := by
      rw [hsplit]
      exact List.mem_append_right _ hmem
    rw [List.mem_append, List.mem_cons] at hsection
    rw [hlist]
    rcases hsection with hbefore | rfl | hrest
    · exact ⟨after, by simp [hbefore], rfl⟩
    · exact ⟨batch, by simp, InflightBatch.notifyShutter_frame _ _⟩
    · exact ⟨after, by simp [hrest], rfl⟩

/-- `notify` of an error outside all batches sends it; inside one it flushes the batches up
to that one, sends the error, and destroys the last batch it removed. -/
theorem notify_error_split (s : ResultBatcher) (frameNumber : Nat) (errorStreamId : Int)
    (errorCode : ErrorCode) :
    (s.getBatch frameNumber = none ∧
        s.notify (.error frameNumber errorStreamId errorCode) =
          some (notifySingleMsg (.error frameNumber errorStreamId errorCode), s)) ∨
      ∃ i batch effects removed fds, s.getBatch frameNumber = some (i, batch) ∧
        i < s.mInflightBatches.length ∧
        s.flushBatches (i + 1) = some (effects, removed,
          { s with mInflightBatches := s.mInflightBatches.drop (i + 1) }) ∧
        s.notify (.error frameNumber errorStreamId errorCode) =
          some (effects ++ notifySingleMsg (.error frameNumber errorStreamId errorCode) ++
            closeAll fds, { s with mInflightBatches := s.mInflightBatches.drop (i + 1) }) := by
  cases hget : s.getBatch frameNumber with
  | none =>
      refine .inl ⟨rfl, ?_⟩
      simp [notify, NotifyMsg.frameNumber, hget]
  | some found =>
      obtain ⟨i, batch⟩ := found
      obtain ⟨hlt, -⟩ := List.getElem?_eq_some_iff.mp (getBatch_eq_some hget).1
      obtain ⟨effects, removed, s', heq, rfl, -, -⟩ :=
        flushBatches_eq_some (s := s) (n := i + 1) hlt
      obtain ⟨fds, hfds⟩ :
          ∃ fds, (removed.getLast?.map InflightBatch.destroy).getD [] = closeAll fds := by
        cases removed.getLast? with
        | none => exact ⟨[], rfl⟩
        | some last => exact ⟨_, rfl⟩
      refine .inr ⟨i, batch, effects, removed, fds, rfl, hlt, heq, ?_⟩
      rw [← hfds]
      simp only [notify, NotifyMsg.frameNumber, hget, heq, Option.map_some]

/-- `notify` of an error inside a batch flushes and removes the batches up to that one. -/
theorem notify_error_cases (s : ResultBatcher) (frameNumber : Nat) (errorStreamId : Int)
    (errorCode : ErrorCode) :
    ∃ effects s', s.notify (.error frameNumber errorStreamId errorCode) = some (effects, s') ∧
      s'.mStreamsToBatch = s.mStreamsToBatch ∧ s'.mNumPartialResults = s.mNumPartialResults ∧
      ∃ flushed, s.mInflightBatches = flushed ++ s'.mInflightBatches ∧
        (∀ batch ∈ flushed.getLast?, batch.mFirstFrame ≤ frameNumber) ∧
        resultsOf effects = flushed.flatMap
          fun batch => resultsOf (batch.flush s.mStreamsToBatch s.mNumPartialResults).1 := by
  rcases s.notify_error_split frameNumber errorStreamId errorCode with
    ⟨-, heq⟩ | ⟨i, batch, effects, removed, fds, hget, hlt, hflush, heq⟩
  · exact ⟨_, s, heq, rfl, rfl, [], rfl, by simp, resultsOf_notifySingleMsg _⟩
  · obtain ⟨hat, hfirst, -⟩ := getBatch_eq_some hget
    refine ⟨_, _, heq, rfl, rfl, s.mInflightBatches.take (i + 1),
      (List.take_append_drop _ _).symm, ?_, ?_⟩
    -- the last batch flushed is the one that contains the frame
    · intro last hlast
      rw [List.take_add_one, hat, Option.toList_some, List.getLast?_concat,
        Option.mem_some_iff] at hlast
      rwa [← hlast]
    · obtain ⟨_, _, _, heq', -, -, hresults⟩ := flushBatches_eq_some (s := s) (n := i + 1) hlt
      cases hflush.symm.trans heq'
      rw [resultsOf_append, resultsOf_append, resultsOf_notifySingleMsg, resultsOf_closeAll,
        List.append_nil, List.append_nil, hresults]

end ResultBatcher

end LgeHardware.Camera
