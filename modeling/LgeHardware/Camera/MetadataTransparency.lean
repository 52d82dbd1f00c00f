import Mathlib.Algebra.Order.Group.Multiset
import Mathlib.Tactic.Abel
import LgeHardware.Camera.BatcherRun

/-! # Result metadata through the batcher

Metadata of a batched frame is queued under its partial result index and regrouped
into new results when the last frame of the batch sweeps it, or when an error does.
Nothing but the order changes, as long as nothing arrives for a batch that was swept
for good. Metadata of physical cameras is not queued at all.
-/

namespace LgeHardware.Camera

open LgeHardware.Foundation

/-- The metadata that one result carries. -/
structure MetadataItem where
  frameNumber : Nat
  partialResult : Nat
  result : Blob
  physicalCameraMetadata : List PhysicalCameraMetadata
  deriving DecidableEq

/-- What a result carries besides buffers, if anything. -/
def CaptureResult.metadataItems (result : CaptureResult) : List MetadataItem :=
  if result.result = [] ∧ result.physicalCameraMetadata = [] then []
  else [⟨result.frameNumber, result.partialResult, result.result, result.physicalCameraMetadata⟩]

/-- The metadata carried by a list of results, in any order. -/
def metadataOf (results : List CaptureResult) : Multiset MetadataItem :=
  (results.flatMap (·.metadataItems) : List MetadataItem)

@[simp] theorem metadataOf_nil : metadataOf [] = 0 := rfl

@[simp] theorem metadataOf_append (first second : List CaptureResult) :
    metadataOf (first ++ second) = metadataOf first + metadataOf second := by
  simp [metadataOf]

/-- Results with buffers only carry no metadata. -/
theorem metadataOf_eq_zero {results : List CaptureResult}
    (h : ∀ result ∈ results, result.result = [] ∧ result.physicalCameraMetadata = []) :
    metadataOf results = 0 := by
  have hnil : results.flatMap (·.metadataItems) = [] := by
    rw [List.flatMap_eq_nil_iff]
    intro result hmem
    simp [CaptureResult.metadataItems, h result hmem]
  simp [metadataOf, hnil]

namespace InflightBatch

/-- The metadata queued under one partial result index. -/
def queuedItems (pair : Nat × List (Nat × Blob)) : List MetadataItem :=
  pair.2.map fun md => ⟨md.1, pair.1, md.2, []⟩

/-- The metadata a batch holds. -/
def queuedMetadata (batch : InflightBatch) : List MetadataItem :=
  batch.mResultMds.toList.flatMap queuedItems

/-- No empty packet is queued. -/
def Substantial (batch : InflightBatch) : Prop :=
  ∀ pair ∈ batch.mResultMds.toList, ∀ md ∈ pair.2, md.2 ≠ []

/-- A sweep divides the queued metadata into what it sends and what it keeps. -/
theorem sendBatchMetadataLocked_conserves {batch : InflightBatch} (hbatch : batch.Substantial)
    (idx : Nat) :
    metadataOf (resultsOf (batch.sendBatchMetadataLocked idx).1) +
        ((batch.sendBatchMetadataLocked idx).2.queuedMetadata : Multiset MetadataItem) =
      batch.queuedMetadata := by
  unfold sendBatchMetadataLocked
  split
  next => simp
  next =>
    have hsent : (batch.metadataResults idx).flatMap (·.metadataItems) =
        (batch.mResultMds.toList.filter fun pair => pair.1 ≤ idx).flatMap queuedItems := by
      rw [metadataResults, List.flatMap_assoc]
      apply List.flatMap_congr
      intro pair hmem
      rw [List.flatMap_map, queuedItems, ← List.flatMap_singleton' (pair.2.map _),
        List.flatMap_map]
      apply List.flatMap_congr
      intro md hmd
      simp [CaptureResult.metadataItems, hbatch pair (List.mem_filter.mp hmem).1 md hmd]
    have hperm := (List.filter_append_perm (fun pair : Nat × List (Nat × Blob) =>
      decide (pair.1 ≤ idx)) batch.mResultMds.toList).flatMap_right queuedItems
    rw [List.flatMap_append] at hperm
    simp only [resultsOf_processCaptureResult, resultsOf_nil, List.append_nil, metadataOf, hsent,
      queuedMetadata, Std.ExtTreeMap.toList_filter, Multiset.coe_add, Multiset.coe_eq_coe]
    exact hperm

/-- Queueing adds the metadata of the result. -/
theorem queueMetadata_conserves (batch : InflightBatch) {result : CaptureResult}
    (hphysical : result.physicalCameraMetadata = []) :
    ((batch.queueMetadata result).queuedMetadata : Multiset MetadataItem) =
      batch.queuedMetadata + metadataOf [result] := by
  unfold queueMetadata
  split
  next hempty => simp [metadataOf, CaptureResult.metadataItems, hempty, hphysical]
  next hne =>
    have hitem : metadataOf [result] = ↑(queuedItems
        (result.partialResult, [(result.frameNumber, result.result)])) := by
      simp [metadataOf, CaptureResult.metadataItems, hne, hphysical, queuedItems]
    have hafter := (Std.ExtTreeMap.toList_insert_perm batch.mResultMds result.partialResult
      ((batch.mResultMds[result.partialResult]?).getD [] ++
        [(result.frameNumber, result.result)])).flatMap_right queuedItems
    rw [hitem]
    simp only [queuedMetadata, Multiset.coe_add, Multiset.coe_eq_coe]
    refine hafter.trans ?_
    rw [List.flatMap_cons, queuedItems, List.map_append]
    cases hold : batch.mResultMds[result.partialResult]? with
    | none =>
        have hnot : result.partialResult ∉ batch.mResultMds :=
          Std.ExtTreeMap.notMem_of_getElem? hold
        rw [Std.ExtTreeMap.erase_of_notMem _ hnot]
        exact List.perm_append_comm
    | some mds =>
        have hbefore := (Std.ExtTreeMap.toList_perm_cons_erase batch.mResultMds hold).flatMap_right
          queuedItems
        rw [List.flatMap_cons] at hbefore
        refine List.Perm.trans ?_ (hbefore.symm.append_right _)
        rw [List.append_assoc, List.append_assoc]
        exact List.Perm.append_left _ List.perm_append_comm

theorem Substantial.queueMetadata {batch : InflightBatch} (hbatch : batch.Substantial)
    (result : CaptureResult) : (batch.queueMetadata result).Substantial := by
  unfold InflightBatch.queueMetadata
  split
  next => exact hbatch
  next hne =>
    rintro ⟨idx, mds⟩ hmem md hmd
    rw [Std.ExtTreeMap.mem_toList_iff_getElem?_eq_some,
      Std.ExtTreeMap.getElem?_insert_of_eq] at hmem
    split at hmem
    next =>
      obtain rfl := Option.some.inj hmem
      rcases List.mem_append.mp hmd with hold | hnew
      · cases hmds : batch.mResultMds[result.partialResult]? with
        | none => simp [hmds] at hold
        | some old =>
            rw [hmds, Option.getD_some] at hold
            exact hbatch (result.partialResult, old)
              (Std.ExtTreeMap.mem_toList_iff_getElem?_eq_some.mpr hmds) md hold
      · rw [List.mem_singleton.mp hnew]
        exact hne
    next =>
      exact hbatch (idx, mds) (Std.ExtTreeMap.mem_toList_iff_getElem?_eq_some.mpr hmem) md hmd

theorem queuedMetadata_congr {batch batch' : InflightBatch}
    (h : batch'.mResultMds = batch.mResultMds) :
    batch'.queuedMetadata = batch.queuedMetadata := by
  rw [queuedMetadata, queuedMetadata, h]

/-- Sending buffers sends and keeps no metadata. -/
theorem metadataOf_sendBatchBuffersLocked (batch : InflightBatch) (streams : List Int) :
    metadataOf (resultsOf (batch.sendBatchBuffersLocked streams).1) = 0 :=
  metadataOf_eq_zero fun _ hmem => (result_of_mem_sendBatchBuffersLocked hmem).2

/-- What the last frame sends of the queued metadata and what it keeps are together all of it. -/
theorem sendLastMetadata_conserves {batch : InflightBatch} (hbatch : batch.Substantial)
    (result : CaptureResult) :
    metadataOf (resultsOf (batch.sendLastMetadata result).1) +
        ((batch.sendLastMetadata result).2.queuedMetadata : Multiset MetadataItem) =
      batch.queuedMetadata := by
  unfold sendLastMetadata
  split
  · exact sendBatchMetadataLocked_conserves hbatch _
  · simp

/-- The same for the metadata and the buffers of the last frame. -/
theorem sendLastFrame_conserves {batch : InflightBatch} (hbatch : batch.Substantial)
    (result : CaptureResult) (filledStreams : List Int) :
    metadataOf (resultsOf (batch.sendLastFrame result filledStreams).1) +
        ((batch.sendLastFrame result filledStreams).2.queuedMetadata : Multiset MetadataItem) =
      batch.queuedMetadata := by
  by_cases heq : result.frameNumber = batch.mLastFrame
  · rw [sendLastFrame_of_eq heq]
    split
    · exact sendLastMetadata_conserves hbatch result
    · have hqueued : ((batch.sendLastMetadata result).2.sendBatchBuffersLocked
          filledStreams).2.queuedMetadata = (batch.sendLastMetadata result).2.queuedMetadata :=
        queuedMetadata_congr (by rw [sendBatchBuffersLocked_frame])
      simp only [resultsOf_append, metadataOf_append, metadataOf_sendBatchBuffersLocked,
        add_zero, hqueued]
      exact sendLastMetadata_conserves hbatch result
  · rw [sendLastFrame_of_ne heq]
    simp

theorem metadataOf_sendNonBatched (result : CaptureResult) (buffers : List StreamBuffer) :
    metadataOf (resultsOf (sendNonBatched result buffers)) = 0 := by
  unfold sendNonBatched
  split
  · simp [metadataOf, CaptureResult.metadataItems]
  · rfl

/-- The section of `processCaptureResult` sends or keeps the metadata of the result,
provided it has none of physical cameras. -/
theorem processCaptureResult_conserves_metadata {batch : InflightBatch}
    (hremoved : batch.mRemoved = false) (hbatch : batch.Substantial) {result : CaptureResult}
    (hphysical : result.physicalCameraMetadata = []) :
    metadataOf (resultsOf (batch.processCaptureResult result).1) +
        ((batch.processCaptureResult result).2.queuedMetadata : Multiset MetadataItem) =
      batch.queuedMetadata + metadataOf [result] := by
  have hmds : (batch.queueResult result).batch.mResultMds =
      (batch.queueMetadata result).mResultMds := by
    rw [queueResult_frame]
  have hsubstantial : (batch.queueResult result).batch.Substantial := by
    unfold Substantial
    rw [hmds]
    exact hbatch.queueMetadata result
  rw [processCaptureResult_of_not_removed hremoved, ← queueMetadata_conserves batch hphysical,
    ← queuedMetadata_congr hmds, ← sendLastFrame_conserves hsubstantial result
      (batch.queueResult result).filledStreams]
  simp [metadataOf_sendNonBatched]

theorem mem_queueMetadata {batch : InflightBatch} {result : CaptureResult} {idx : Nat}
    (h : idx ∈ (batch.queueMetadata result).mResultMds) :
    idx ∈ batch.mResultMds ∨ (idx = result.partialResult ∧ result.result ≠ []) := by
  unfold queueMetadata at h
  split at h
  next => exact .inl h
  next hne =>
    exact (Std.ExtTreeMap.mem_insert_iff.mp h).imp_right fun heq => ⟨heq, hne⟩

/-- The section queues the metadata, and the last frame may sweep it. -/
theorem processCaptureResult_mResultMds {batch : InflightBatch} (hremoved : batch.mRemoved = false)
    (result : CaptureResult) :
    let after := (batch.processCaptureResult result).2
    (after.mPartialResultProgress = batch.mPartialResultProgress ∧
        after.mResultMds = (batch.queueMetadata result).mResultMds) ∨
      (result.frameNumber = batch.mLastFrame ∧ 0 < result.partialResult ∧
        after.mPartialResultProgress = result.partialResult ∧
        after.mResultMds = (batch.queueMetadata result).mResultMds.filter
          fun idx _ => !decide (idx ≤ result.partialResult)) := by
  have hqueued : (batch.queueResult result).batch.mResultMds =
      (batch.queueMetadata result).mResultMds ∧
      (batch.queueResult result).batch.mPartialResultProgress = batch.mPartialResultProgress ∧
      (batch.queueResult result).batch.mLastFrame = batch.mLastFrame := by
    rw [queueResult_frame]
    exact ⟨rfl, rfl, rfl⟩
  rw [processCaptureResult_of_not_removed hremoved]
  dsimp only
  by_cases heq : result.frameNumber = batch.mLastFrame
  -- sending the buffers leaves the metadata alone, so the metadata part decides
  · have hsend : ∀ b : InflightBatch, ((b.sendLastFrame result
        (batch.queueResult result).filledStreams).2.mPartialResultProgress =
          (b.sendLastMetadata result).2.mPartialResultProgress ∧
        (b.sendLastFrame result (batch.queueResult result).filledStreams).2.mResultMds =
          (b.sendLastMetadata result).2.mResultMds) ∨ result.frameNumber ≠ b.mLastFrame := by
      intro b
      by_cases hb : result.frameNumber = b.mLastFrame
      · rw [sendLastFrame_of_eq hb]
        split
        · exact .inl ⟨rfl, rfl⟩
        · dsimp only
          rw [sendBatchBuffersLocked_frame]
          exact .inl ⟨rfl, rfl⟩
      · exact .inr hb
    rcases hsend (batch.queueResult result).batch with hlast | hne
    · rw [hlast.1, hlast.2]
      unfold sendLastMetadata
      split
      next hpos =>
        unfold sendBatchMetadataLocked
        split
        next => exact .inl ⟨hqueued.2.1, hqueued.1⟩
        next => exact .inr ⟨heq, hpos, rfl, by rw [← hqueued.1]⟩
      next => exact .inl ⟨hqueued.2.1, hqueued.1⟩
    · exact absurd (heq.trans hqueued.2.2.symm) hne
  · rw [sendLastFrame_of_ne (by rw [hqueued.2.2]; exact heq)]
    exact .inl ⟨hqueued.2.1, hqueued.1⟩

end InflightBatch

/-- The metadata held by a list of batches. -/
def queuedIn (batches : List InflightBatch) : Multiset MetadataItem :=
  (batches.flatMap (·.queuedMetadata) : List MetadataItem)

@[simp] theorem queuedIn_cons (batch : InflightBatch) (rest : List InflightBatch) :
    queuedIn (batch :: rest) = batch.queuedMetadata + queuedIn rest := by
  simp [queuedIn]

@[simp] theorem queuedIn_append (first second : List InflightBatch) :
    queuedIn (first ++ second) = queuedIn first + queuedIn second := by
  simp [queuedIn]

theorem queuedIn_eq_zero {batches : List InflightBatch}
    (h : ∀ batch ∈ batches, batch.queuedMetadata = []) : queuedIn batches = 0 := by
  rw [queuedIn, List.flatMap_eq_nil_iff.mpr h]
  rfl

/-! ## Runs -/

namespace BatcherState

/-- What is assumed of the HAL: partial result indices range from one to the number of
partial results, which marks the final result of a frame; and since every frame ends
with its final result and these come in increasing frame order, no metadata comes for
a frame at or below one that has had its final result. -/
structure MetadataInOrder (s : BatcherState) (result : CaptureResult) : Prop where
  range : result.partialResult ≤ s.batcher.mNumPartialResults
  indexed : result.result ≠ [] → 0 < result.partialResult
  ordered : result.result ≠ [] → ∀ earlier ∈ s.results, 0 < earlier.partialResult →
    earlier.partialResult = s.batcher.mNumPartialResults →
      earlier.frameNumber < result.frameNumber

instance (s : BatcherState) (result : CaptureResult) : Decidable (s.MetadataInOrder result) :=
  decidable_of_iff
    (result.partialResult ≤ s.batcher.mNumPartialResults ∧
      (result.result ≠ [] → 0 < result.partialResult) ∧
      (result.result ≠ [] → ∀ earlier ∈ s.results, 0 < earlier.partialResult →
        earlier.partialResult = s.batcher.mNumPartialResults →
          earlier.frameNumber < result.frameNumber))
    ⟨fun ⟨hrange, hindexed, hordered⟩ => ⟨hrange, hindexed, hordered⟩,
      fun h => ⟨h.range, h.indexed, h.ordered⟩⟩

/-- Results come in order; all other operations are free. -/
def MetadataContract (s : BatcherState) : BatcherOp → Prop
  | .processCaptureResult result => s.MetadataInOrder result
  | _ => True

instance (s : BatcherState) : (op : BatcherOp) → Decidable (s.MetadataContract op)
  | .processCaptureResult result => inferInstanceAs (Decidable (s.MetadataInOrder result))
  | .setBatchedStreams _ | .registerBatch .. | .notify _ => .isTrue trivial

/-- No result of a batched frame carries metadata of physical cameras. -/
def NoPhysicalInBatch (s : BatcherState) : BatcherOp → Prop
  | .processCaptureResult result =>
      (s.batcher.getBatch result.frameNumber).isSome → result.physicalCameraMetadata = []
  | _ => True

instance (s : BatcherState) : (op : BatcherOp) → Decidable (s.NoPhysicalInBatch op)
  | .processCaptureResult result => inferInstanceAs (Decidable
      ((s.batcher.getBatch result.frameNumber).isSome → result.physicalCameraMetadata = []))
  | .setBatchedStreams _ | .registerBatch .. | .notify _ => .isTrue trivial

/-- The metadata queued in all batches. -/
def queuedMetadata (s : BatcherState) : Multiset MetadataItem :=
  queuedIn s.batcher.mInflightBatches

/-- The metadata delivered, and what is queued, is the metadata received. -/
def MetadataBalance (s : BatcherState) : Prop :=
  metadataOf (resultsOf s.effects) + s.queuedMetadata = metadataOf s.results

instance (s : BatcherState) : Decidable s.MetadataBalance :=
  inferInstanceAs (Decidable (_ = _))

/-- A batch that was swept for good holds nothing, and its last frame has had its final
result. -/
structure BatchMetadata (s : BatcherState) (batch : InflightBatch) : Prop where
  present : batch.mRemoved = false
  partials : batch.mNumPartialResults = s.batcher.mNumPartialResults
  substantial : batch.Substantial
  indexes : ∀ idx ∈ batch.mResultMds, idx ≤ s.batcher.mNumPartialResults
  swept : s.batcher.mNumPartialResults ≤ batch.mPartialResultProgress → batch.mResultMds = ∅
  final : s.batcher.mNumPartialResults ≤ batch.mPartialResultProgress →
    0 < s.batcher.mNumPartialResults → ∃ earlier ∈ s.results, 0 < earlier.partialResult ∧
      earlier.partialResult = s.batcher.mNumPartialResults ∧
      earlier.frameNumber = batch.mLastFrame

structure MetadataInv (s : BatcherState) : Prop where
  batches : ∀ batch ∈ s.batcher.mInflightBatches, s.BatchMetadata batch
  balance : s.MetadataBalance

theorem BatchMetadata.congr {s s' : BatcherState} {batch : InflightBatch}
    (h : s.BatchMetadata batch)
    (hpartials : s'.batcher.mNumPartialResults = s.batcher.mNumPartialResults)
    (hresults : ∀ result ∈ s.results, result ∈ s'.results) : s'.BatchMetadata batch := by
  refine ⟨h.present, hpartials ▸ h.partials, h.substantial, hpartials ▸ h.indexes,
    hpartials ▸ h.swept, ?_⟩
  rw [hpartials]
  intro hprogress hpos
  obtain ⟨earlier, hmem, hfinal⟩ := h.final hprogress hpos
  exact ⟨earlier, hresults earlier hmem, hfinal⟩

section

variable {s : BatcherState} {batch : InflightBatch}

/-- A result keeps the metadata of its batch in order. -/
theorem BatchMetadata.processCaptureResult (h : s.BatchMetadata batch) {result : CaptureResult}
    (hresult : s.MetadataInOrder result) (hlast : result.frameNumber ≤ batch.mLastFrame)
    (hpartials : (s.next (.processCaptureResult result)).batcher.mNumPartialResults =
      s.batcher.mNumPartialResults) :
    (s.next (.processCaptureResult result)).BatchMetadata
      (batch.processCaptureResult result).2 := by
  have hframe : (batch.processCaptureResult result).2.mRemoved = batch.mRemoved ∧
      (batch.processCaptureResult result).2.mNumPartialResults = batch.mNumPartialResults ∧
      (batch.processCaptureResult result).2.mLastFrame = batch.mLastFrame := by
    rw [InflightBatch.processCaptureResult_frame]
    exact ⟨rfl, rfl, rfl⟩
  have hindexes : ∀ idx ∈ (batch.queueMetadata result).mResultMds,
      idx ≤ s.batcher.mNumPartialResults := by
    intro idx hmem
    rcases InflightBatch.mem_queueMetadata hmem with hold | ⟨rfl, -⟩
    · exact h.indexes idx hold
    · exact hresult.range
  have hresults : (s.next (.processCaptureResult result)).results = s.results ++ [result] := rfl
  have hsubstantial := h.substantial.queueMetadata result
  rcases InflightBatch.processCaptureResult_mResultMds h.present result with
    ⟨hprogress, hmds⟩ | ⟨heq, hpos, hprogress, hmds⟩
  case inl =>
    refine ⟨hframe.1.trans h.present, by rw [hframe.2.1, hpartials]; exact h.partials,
      by unfold InflightBatch.Substantial; rw [hmds]; exact hsubstantial,
      by rw [hmds, hpartials]; exact hindexes, ?_, ?_⟩
    · rw [hpartials, hprogress, hmds]
      intro hdone
      -- nothing is queued now: the final result of the last frame has come before
      have hempty : result.result = [] := by
        by_contra hne
        have hpos := hresult.indexed hne
        have hrange := hresult.range
        obtain ⟨earlier, hmem, hfinal, hpartial, hframe⟩ := h.final hdone (by omega)
        have hlt := hresult.ordered hne earlier hmem hfinal hpartial
        omega
      rw [InflightBatch.queueMetadata, if_pos hempty]
      exact h.swept hdone
    · rw [hpartials, hprogress, hframe.2.2, hresults]
      intro hdone hpos
      obtain ⟨earlier, hmem, hfinal⟩ := h.final hdone hpos
      exact ⟨earlier, List.mem_append_left _ hmem, hfinal⟩
  case inr =>
    refine ⟨hframe.1.trans h.present, by rw [hframe.2.1, hpartials]; exact h.partials, ?_, ?_, ?_,
      ?_⟩
    · unfold InflightBatch.Substantial
      rw [hmds]
      intro pair hmem
      rw [Std.ExtTreeMap.toList_filter] at hmem
      exact hsubstantial pair (List.mem_filter.mp hmem).1
    · rw [hmds, hpartials]
      intro idx hmem
      exact hindexes idx (Std.ExtTreeMap.mem_of_mem_filter hmem)
    · rw [hpartials, hprogress, hmds]
      intro hdone
      rw [Std.ExtTreeMap.filter_eq_empty_iff]
      intro idx hmem
      have hle := hindexes idx hmem
      simp only [Std.ExtTreeMap.getKey_eq, Bool.not_eq_false', decide_eq_true_eq]
      omega
    · rw [hpartials, hprogress, hframe.2.2, hresults]
      intro hdone _
      have hrange := hresult.range
      exact ⟨result, by simp, hpos, by omega, heq⟩

/-- A batch removed as complete takes no metadata with it. -/
theorem BatchMetadata.queuedMetadata_eq_nil (h : s.BatchMetadata batch)
    (hall : batch.allDelivered = true) : batch.queuedMetadata = [] := by
  simp only [InflightBatch.allDelivered, Bool.and_eq_true, decide_eq_true_eq] at hall
  have hempty := h.swept (h.partials ▸ hall.1.2)
  rw [InflightBatch.queuedMetadata, hempty]
  rfl

/-- An error sends all the metadata of a batch. -/
theorem BatchMetadata.flush_conserves (h : s.BatchMetadata batch) (streamsToBatch : List Int) :
    metadataOf (resultsOf (batch.flush streamsToBatch s.batcher.mNumPartialResults).1) =
      batch.queuedMetadata := by
  let sent := (batch.sendBatchShutterCbsLocked.2.sendBatchBuffersLocked streamsToBatch).2
  have hmds : sent.mResultMds = batch.mResultMds := by
    show (batch.sendBatchShutterCbsLocked.2.sendBatchBuffersLocked streamsToBatch).2.mResultMds = _
    rw [InflightBatch.sendBatchBuffersLocked_frame, InflightBatch.sendBatchShutterCbsLocked_frame]
  have hprogress : sent.mPartialResultProgress = batch.mPartialResultProgress := by
    show (batch.sendBatchShutterCbsLocked.2.sendBatchBuffersLocked
      streamsToBatch).2.mPartialResultProgress = _
    rw [InflightBatch.sendBatchBuffersLocked_frame, InflightBatch.sendBatchShutterCbsLocked_frame]
  have hsubstantial : sent.Substantial := by
    unfold InflightBatch.Substantial
    rw [hmds]
    exact h.substantial
  have hflush : metadataOf (resultsOf
      (batch.flush streamsToBatch s.batcher.mNumPartialResults).1) =
      metadataOf (resultsOf (sent.sendBatchMetadataLocked s.batcher.mNumPartialResults).1) := by
    simp [InflightBatch.flush, InflightBatch.metadataOf_sendBatchBuffersLocked, sent]
  -- everything queued has an index up to the number of partial results, and goes up
  have hrest : (sent.sendBatchMetadataLocked s.batcher.mNumPartialResults).2.mResultMds = ∅ := by
    unfold InflightBatch.sendBatchMetadataLocked
    split
    next hdone =>
      rw [hprogress] at hdone
      rw [hmds]
      exact h.swept hdone
    next =>
      rw [Std.ExtTreeMap.filter_eq_empty_iff]
      intro idx hmem
      rw [hmds] at hmem
      have hle := h.indexes idx hmem
      simp only [Std.ExtTreeMap.getKey_eq, Bool.not_eq_false', decide_eq_true_eq]
      exact hle
  have hconserves := InflightBatch.sendBatchMetadataLocked_conserves hsubstantial
    s.batcher.mNumPartialResults
  have hnone : (sent.sendBatchMetadataLocked s.batcher.mNumPartialResults).2.queuedMetadata =
      [] := by
    rw [InflightBatch.queuedMetadata, hrest]
    rfl
  rw [hnone, InflightBatch.queuedMetadata_congr hmds, Multiset.coe_nil,
    add_zero] at hconserves
  rw [hflush, hconserves]

/-- A flush of several batches sends all their metadata. -/
theorem metadataOf_flatMap_flush (hinv : ∀ b ∈ s.batcher.mInflightBatches, s.BatchMetadata b)
    {flushed : List InflightBatch} (hflushed : ∀ b ∈ flushed, b ∈ s.batcher.mInflightBatches) :
    metadataOf (flushed.flatMap fun b =>
        resultsOf (b.flush s.batcher.mStreamsToBatch s.batcher.mNumPartialResults).1) =
      queuedIn flushed := by
  induction flushed with
  | nil => rfl
  | cons b rest ih =>
      have hb := hinv b (hflushed b List.mem_cons_self)
      rw [List.flatMap_cons, metadataOf_append, hb.flush_conserves, queuedIn_cons,
        ih fun b hmem => hflushed b (List.mem_cons_of_mem _ hmem)]

/-- The invariant before complete batches are dropped from the head of the deque. -/
theorem MetadataInv.of_removal {batches removed : List InflightBatch}
    (hsplit : batches = removed ++ s.batcher.mInflightBatches)
    (hcomplete : ∀ b ∈ removed, b.allDelivered = true)
    (hbatches : ∀ b ∈ batches, s.BatchMetadata b)
    (hbalance : metadataOf (resultsOf s.effects) + queuedIn batches = metadataOf s.results) :
    s.MetadataInv := by
  subst hsplit
  refine ⟨fun b hmem => hbatches b (List.mem_append_right _ hmem), ?_⟩
  have hdropped : queuedIn removed = 0 := queuedIn_eq_zero fun b hmem =>
    (hbatches b (List.mem_append_left _ hmem)).queuedMetadata_eq_nil (hcomplete b hmem)
  rwa [queuedIn_append, hdropped, zero_add] at hbalance

/-! ## The operations -/

/-- A result of an unbatched frame goes up with all its metadata. -/
theorem MetadataInv.processUnbatched (hinv : s.MetadataInv) {result : CaptureResult}
    (hnone : s.batcher.getBatch result.frameNumber = none) :
    (s.next (.processCaptureResult result)).MetadataInv := by
  have hold : metadataOf (resultsOf s.effects) + queuedIn s.batcher.mInflightBatches =
      metadataOf s.results := hinv.balance
  have hnext : s.next (.processCaptureResult result) =
      { s with
        effects := s.effects ++ processOneCaptureResult result
        results := s.results ++ [result] } := by
    simp only [next, ResultBatcher.processCaptureResult, hnone]
  rw [hnext]
  refine ⟨fun batch hmem => (hinv.batches batch hmem).congr rfl
    fun _ hmem => List.mem_append_left _ hmem, ?_⟩
  simp only [MetadataBalance, queuedMetadata, resultsOf_append,
    resultsOf_processOneCaptureResult, metadataOf_append, ← hold]
  rw [add_right_comm]

/-- A result of a batched frame has its metadata queued or swept. -/
theorem MetadataInv.processBatched (hinv : s.MetadataInv) {result : CaptureResult}
    (hresult : s.MetadataInOrder result) (hbatched : s.batcher.getBatch result.frameNumber ≠ none)
    (hphysical : result.physicalCameraMetadata = []) :
    (s.next (.processCaptureResult result)).MetadataInv := by
  have hpresent := fun batch hmem => (hinv.batches batch hmem).present
  obtain ⟨before, batch, after, removed, hlist, hfirst, hlast, hsplit, hcomplete, -, hpartials,
    heffects⟩ := (s.batcher.processCaptureResult_cases hpresent result).resolve_left
      fun h => hbatched h.1
  have hbatch := hinv.batches batch (by simp [hlist])
  have hold : metadataOf (resultsOf s.effects) + queuedIn s.batcher.mInflightBatches =
      metadataOf s.results := hinv.balance
  have hkeep : ∀ b ∈ s.batcher.mInflightBatches,
      (s.next (.processCaptureResult result)).BatchMetadata b := fun b hmem =>
    (hinv.batches b hmem).congr hpartials fun _ h => List.mem_append_left _ h
  apply MetadataInv.of_removal hsplit hcomplete
  · apply ResultBatcher.forall_mem_replaced hlist hkeep
    exact hbatch.processCaptureResult hresult hlast hpartials
  · have hconserves := InflightBatch.processCaptureResult_conserves_metadata hbatch.present
      hbatch.substantial hphysical
    have hsent : resultsOf (s.next (.processCaptureResult result)).effects =
        resultsOf s.effects ++ resultsOf (batch.processCaptureResult result).1 := by
      simp only [next, resultsOf_append, heffects]
    have hreceived : metadataOf (s.next (.processCaptureResult result)).results =
        metadataOf s.results + metadataOf [result] := metadataOf_append _ _
    rw [hlist, queuedIn_append, queuedIn_cons] at hold
    rw [hsent, metadataOf_append, hreceived, ← hold, queuedIn_append, queuedIn_cons]
    calc
      _ = metadataOf (resultsOf s.effects) + queuedIn before + queuedIn after +
          (metadataOf (resultsOf (batch.processCaptureResult result).1) +
            ((batch.processCaptureResult result).2.queuedMetadata : Multiset MetadataItem)) := by
        abel
      _ = metadataOf (resultsOf s.effects) + queuedIn before + queuedIn after +
          ((batch.queuedMetadata : Multiset MetadataItem) + metadataOf [result]) := by
        rw [hconserves]
      _ = _ := by abel

/-- A shutter moves no metadata. -/
theorem MetadataInv.notifyShutter (hinv : s.MetadataInv) (frameNumber : Nat) (timestamp : Int) :
    (s.next (.notify (.shutter frameNumber timestamp))).MetadataInv := by
  have hpresent := fun batch hmem => (hinv.batches batch hmem).present
  obtain ⟨effects, batcher, heq, hsilent, -, hpartials, hcases⟩ :=
    s.batcher.notify_shutter_cases hpresent frameNumber timestamp
  have hnext : s.next (.notify (.shutter frameNumber timestamp)) =
      { s with batcher, effects := s.effects ++ effects } := by
    simp only [next, heq]
  rw [hnext]
  have hold : metadataOf (resultsOf s.effects) + queuedIn s.batcher.mInflightBatches =
      metadataOf s.results := hinv.balance
  have hsent : resultsOf (s.effects ++ effects) = resultsOf s.effects := by
    rw [resultsOf_append, hsilent, List.append_nil]
  have hkeep : ∀ batch ∈ s.batcher.mInflightBatches,
      ({ s with batcher, effects := s.effects ++ effects } : BatcherState).BatchMetadata batch :=
    fun batch hmem => (hinv.batches batch hmem).congr hpartials fun _ h => h
  rcases hcases with hsame | ⟨before, batch, after, removed, hlist, hsplit, hcomplete⟩
  · have hsplit : s.batcher.mInflightBatches = [] ++ batcher.mInflightBatches := hsame.symm
    exact MetadataInv.of_removal hsplit (by simp) hkeep (by rw [hsent]; exact hold)
  · rw [InflightBatch.notifyShutter_frame] at hsplit
    refine MetadataInv.of_removal hsplit hcomplete ?_ ?_
    · apply ResultBatcher.forall_mem_replaced hlist hkeep
      have h := hkeep batch (by simp [hlist])
      exact ⟨h.present, h.partials, h.substantial, h.indexes, h.swept, h.final⟩
    · rw [hlist, queuedIn_append, queuedIn_cons] at hold
      rw [hsent, queuedIn_append, queuedIn_cons]
      exact hold

/-- An error sends what the batches up to its own have queued. -/
theorem MetadataInv.notifyError (hinv : s.MetadataInv) (frameNumber : Nat) (errorStreamId : Int)
    (errorCode : ErrorCode) :
    (s.next (.notify (.error frameNumber errorStreamId errorCode))).MetadataInv := by
  obtain ⟨effects, batcher, heq, -, hpartials, flushed, hlist, -, hresults⟩ :=
    s.batcher.notify_error_cases frameNumber errorStreamId errorCode
  have hnext : s.next (.notify (.error frameNumber errorStreamId errorCode)) =
      { s with batcher, effects := s.effects ++ effects } := by
    simp only [next, heq]
  have hmem : ∀ b ∈ flushed, b ∈ s.batcher.mInflightBatches := fun b hmem => by
    simp [hlist, hmem]
  have hflushed := metadataOf_flatMap_flush hinv.batches hmem
  have hold : metadataOf (resultsOf s.effects) + queuedIn s.batcher.mInflightBatches =
      metadataOf s.results := hinv.balance
  rw [hnext]
  refine ⟨?_, ?_⟩
  · intro batch hmem
    exact (hinv.batches batch (by rw [hlist]; exact List.mem_append_right _ hmem)).congr hpartials
      fun _ h => h
  · simp only [MetadataBalance, queuedMetadata, resultsOf_append, metadataOf_append, hresults,
      hflushed]
    rw [← hold, hlist, queuedIn_append, add_assoc]

/-- A new batch has no metadata queued. -/
theorem queuedMetadata_registerBatch (s : BatcherState) (frameNumber batchSize : Nat) :
    (s.next (.registerBatch frameNumber batchSize)).queuedMetadata = s.queuedMetadata := by
  rw [queuedMetadata, next, ResultBatcher.registerBatch, queuedIn_append, queuedIn_cons]
  exact add_zero _

theorem batchMetadata_newBatch (s : BatcherState) (frameNumber batchSize : Nat) :
    (s.next (.registerBatch frameNumber batchSize)).BatchMetadata
      (s.batcher.newBatch frameNumber batchSize) := by
  refine ⟨rfl, rfl, ?_, ?_, fun _ => rfl, ?_⟩
  · intro pair hpair
    rw [Std.ExtTreeMap.mem_toList_iff_getElem?_eq_some] at hpair
    simp [ResultBatcher.newBatch] at hpair
  · intro idx hidx
    simp [ResultBatcher.newBatch] at hidx
  · intro hprogress hpos
    exact absurd (Nat.lt_of_lt_of_le hpos hprogress) (Nat.lt_irrefl 0)

/-- A new batch keeps the invariant. -/
theorem MetadataInv.registerBatch (hinv : s.MetadataInv) (frameNumber batchSize : Nat) :
    (s.next (.registerBatch frameNumber batchSize)).MetadataInv := by
  refine ⟨?_, ?_⟩
  · intro batch hmem
    rcases List.mem_append.mp hmem with hmem | hmem
    · exact (hinv.batches batch hmem).congr rfl fun _ h => h
    · rw [List.mem_singleton.mp hmem]
      exact batchMetadata_newBatch s frameNumber batchSize
  · rw [MetadataBalance, queuedMetadata_registerBatch]
    exact hinv.balance

/-- Every operation within the contract keeps the invariant, as long as no result of a batch has
metadata of physical cameras. -/
theorem MetadataInv.next (hinv : s.MetadataInv) {op : BatcherOp}
    (hop : s.MetadataContract op ∧ s.NoPhysicalInBatch op) : (s.next op).MetadataInv := by
  cases op with
  | setBatchedStreams streamsToBatch =>
      exact ⟨fun batch hmem => (hinv.batches batch hmem).congr rfl fun _ h => h, hinv.balance⟩
  | registerBatch frameNumber batchSize => exact hinv.registerBatch frameNumber batchSize
  | processCaptureResult result =>
      cases hget : s.batcher.getBatch result.frameNumber with
      | none => exact hinv.processUnbatched hget
      | some found => exact hinv.processBatched hop.1 (by simp [hget]) (hop.2 (by simp [hget]))
  | notify msg =>
      cases msg with
      | shutter frameNumber timestamp => exact hinv.notifyShutter frameNumber timestamp
      | error frameNumber errorStreamId errorCode =>
          exact hinv.notifyError frameNumber errorStreamId errorCode

end

theorem metadataInv_initial (numPartialResults : Nat) :
    (initial numPartialResults).MetadataInv :=
  ⟨by simp [initial], rfl⟩

/-- At every point of a run without physical camera metadata in batched frames, what was
delivered and what is queued is exactly the metadata that came from the HAL. -/
theorem metadata_conserved (numPartialResults : Nat) (ops : List BatcherOp)
    (hops : Admits next (fun s op => s.MetadataContract op ∧ s.NoPhysicalInBatch op)
      (initial numPartialResults) ops) :
    (run next (initial numPartialResults) ops).MetadataBalance :=
  (hops.invariant MetadataInv (fun _ _ hinv hop => hinv.next hop)
    (metadataInv_initial numPartialResults)).balance

def metadataOnly (frameNumber partialResult : Nat) (packet : Blob) : CaptureResult :=
  { frameNumber, partialResult, result := packet, inputBuffer := { streamId := -1 } }

/-- Two partial results a frame; the last frame of the batch sweeps twice. -/
def partialResultsInBatch : List BatcherOp :=
  [.registerBatch 1 2, .processCaptureResult (metadataOnly 1 1 [11]),
    .processCaptureResult (metadataOnly 2 1 [21]), .processCaptureResult (metadataOnly 1 2 [12]),
    .processCaptureResult (metadataOnly 2 2 [22])]

theorem metadata_conserved_partialResultsInBatch :
    Admits next (fun s op => s.MetadataContract op ∧ s.NoPhysicalInBatch op) (initial 2)
        partialResultsInBatch ∧
      (run next (initial 2) partialResultsInBatch).MetadataBalance := by
  have hops : Admits next (fun s op => s.MetadataContract op ∧ s.NoPhysicalInBatch op) (initial 2)
      partialResultsInBatch := by decide
  exact ⟨hops, metadata_conserved 2 partialResultsInBatch hops⟩

/-- A batched frame whose final result has metadata of a physical camera. -/
def physicalInBatch : List BatcherOp :=
  [.registerBatch 1 2, .processCaptureResult
    { metadataOnly 1 1 [11] with
      physicalCameraMetadata := [{ physicalCameraId := "2", metadata := [12] }] }]

/-- The metadata of the physical camera is neither delivered nor queued. -/
theorem physicalInBatch_drops :
    Admits next MetadataContract (initial 1) physicalInBatch ∧
      ¬ (run next (initial 1) physicalInBatch).MetadataBalance := by
  decide

end BatcherState

end LgeHardware.Camera
