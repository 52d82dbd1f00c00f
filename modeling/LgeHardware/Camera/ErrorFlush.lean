import LgeHardware.Camera.BatcherRun

/-! # Error notifications between other callbacks

`getBatch` returns a position and releases the lock. When the error path takes the
lock again it removes as many batches as the position says, whatever has happened to
the deque since. Here every section under a lock is one step, and any number of calls
of `notify` and `processCaptureResult` may be between two of their sections.

A batch is named by the order of its registration, which stands for the pointer that
the other callbacks hold: batches leave the deque at its head only.
-/

namespace LgeHardware.Camera

open LgeHardware.Foundation

/-- What a call still has to do once `getBatch` has found a batch. -/
inductive PendingCall
  /-- An error, with the position found; `removedBefore` batches had been removed by then. -/
  | error (msg : NotifyMsg) (batchIdx removedBefore : Nat)
  | shutter (msg : NotifyMsg) (batch : Nat)
  | result (result : CaptureResult) (batch : Nat)
  | checkAndRemoveFirstBatch
  deriving DecidableEq

structure ThreadState where
  batcher : ResultBatcher
  /-- The batches removed so far, in order. -/
  removed : List InflightBatch := []
  pending : List PendingCall := []
  /-- The frames of errors with the batches their notifications flushed. -/
  flushed : List (Nat × InflightBatch) := []
  /-- `mInflightBatches[0]` was read of an empty deque. -/
  faulted : Bool := false

inductive ThreadOp
  | setBatchedStreams (streamsToBatch : List Int)
  | registerBatch (frameNumber batchSize : Nat)
  /-- A thread enters `notify` and runs `getBatch`. -/
  | notify (msg : NotifyMsg)
  /-- A thread enters `processCaptureResult` and runs `getBatch`. -/
  | processCaptureResult (result : CaptureResult)
  /-- The call at a position of the pending ones runs its next section. -/
  | resume (i : Nat)
  deriving DecidableEq

namespace ThreadState

def initial (numPartialResults : Nat) : ThreadState :=
  { batcher := { mNumPartialResults := numPartialResults } }

/-- All batches registered so far. -/
def batches (s : ThreadState) : List InflightBatch := s.removed ++ s.batcher.mInflightBatches

/-- Write back a batch, whether it is still in the deque or not. -/
def setBatch (s : ThreadState) (i : Nat) (batch : InflightBatch) : ThreadState :=
  if i < s.removed.length then { s with removed := s.removed.set i batch }
  else { s with batcher := s.batcher.setBatch (i - s.removed.length) batch }

/-- After a section of a batch that was not removed, its last frame checks the first batch. -/
def finishFrame (s : ThreadState) (batch : InflightBatch) (frameNumber : Nat) : ThreadState :=
  if batch.mRemoved = false ∧ frameNumber = batch.mLastFrame then
    { s with pending := s.pending ++ [.checkAndRemoveFirstBatch] }
  else s

/-- The next section of a call. -/
def runSection (s : ThreadState) : PendingCall → ThreadState
  | .error msg batchIdx _ =>
      match s.batcher.flushBatches (batchIdx + 1) with
      | none => { s with faulted := true }
      | some (_, removed, batcher) =>
          { s with
            batcher
            removed := s.removed ++ removed
            flushed := s.flushed ++ removed.map fun batch => (msg.frameNumber, batch) }
  | .shutter msg i =>
      match s.batches[i]? with
      | none => s
      | some batch =>
          (s.setBatch i (batch.notifyShutter msg).2).finishFrame batch msg.frameNumber
  | .result result i =>
      match s.batches[i]? with
      | none => s
      | some batch =>
          (s.setBatch i (batch.processCaptureResult result).2).finishFrame batch
            result.frameNumber
  | .checkAndRemoveFirstBatch =>
      let (removed, batcher) := s.batcher.checkAndRemoveFirstBatch
      { s with batcher, removed := s.removed ++ removed.toList }

def next (s : ThreadState) (op : ThreadOp) : ThreadState :=
  if s.faulted then s
  else
    match op with
    | .setBatchedStreams streamsToBatch =>
        { s with batcher := s.batcher.setBatchedStreams streamsToBatch }
    | .registerBatch frameNumber batchSize =>
        { s with batcher := s.batcher.registerBatch frameNumber batchSize }
    | .notify msg =>
        match s.batcher.getBatch msg.frameNumber with
        | none => s
        | some (batchIdx, _) =>
            let call := match msg with
              | .error .. => PendingCall.error msg batchIdx s.removed.length
              | .shutter .. => PendingCall.shutter msg (s.removed.length + batchIdx)
            { s with pending := s.pending ++ [call] }
    | .processCaptureResult result =>
        match s.batcher.getBatch result.frameNumber with
        | none => s
        | some (batchIdx, _) =>
            { s with pending := s.pending ++ [.result result (s.removed.length + batchIdx)] }
    | .resume i =>
        match s.pending[i]? with
        | none => s
        | some call => { s with pending := s.pending.eraseIdx i }.runSection call

/-- Batches are registered for increasing disjoint frame ranges. -/
def RangesContract (s : ThreadState) : ThreadOp → Prop
  | .registerBatch frameNumber batchSize =>
      0 < batchSize ∧ frameNumber + batchSize ≤ 2 ^ 32 ∧
        ∀ batch ∈ s.batches, batch.mLastFrame < frameNumber
  | _ => True

instance (s : ThreadState) (op : ThreadOp) : Decidable (s.RangesContract op) := by
  cases op <;> unfold RangesContract <;> infer_instance

/-- When the error path takes the lock, no batch has been removed since its `getBatch`. -/
def UpToDate (s : ThreadState) : ThreadOp → Prop
  | .resume i =>
      match s.pending[i]? with
      | some (.error _ _ removedBefore) => s.removed.length = removedBefore
      | _ => True
  | _ => True

/-- Nothing was read of an empty deque, and every batch flushed by an error contains its
frame or lies before it. -/
def Safe (s : ThreadState) : Prop :=
  s.faulted = false ∧ ∀ pair ∈ s.flushed,
    pair.2.contains pair.1 = true ∨ pair.2.mLastFrame < pair.1

instance (s : ThreadState) : Decidable s.Safe :=
  inferInstanceAs (Decidable (_ ∧ ∀ pair ∈ s.flushed, _))

/-! ## What a section changes -/

/-- The frame ranges of all batches registered so far. -/
def ranges (s : ThreadState) : List (Nat × Nat) :=
  s.batches.map fun batch => (batch.mFirstFrame, batch.mLastFrame)

/-- The range of a batch is at its position. -/
theorem ranges_getElem?_eq {s : ThreadState} {i : Nat} {batch : InflightBatch}
    (h : s.batches[i]? = some batch) :
    s.ranges[i]? = some (batch.mFirstFrame, batch.mLastFrame) := by
  simp [ranges, h]

/-- Writing back a batch with its ends unchanged. -/
theorem ranges_setBatch {s : ThreadState} {i : Nat} {batch : InflightBatch}
    (after : InflightBatch) (h : s.batches[i]? = some batch)
    (hfirst : after.mFirstFrame = batch.mFirstFrame)
    (hlast : after.mLastFrame = batch.mLastFrame) :
    (s.setBatch i after).ranges = s.ranges ∧
      (s.setBatch i after).removed.length = s.removed.length := by
  have hset : (s.setBatch i after).batches = s.batches.set i after := by
    unfold setBatch
    split
    next hlt => simp [batches, List.set_append_left _ _ hlt]
    next hge =>
      simp [batches, ResultBatcher.setBatch, List.set_append_right _ _ (Nat.le_of_not_lt hge)]
  constructor
  · obtain ⟨hlt, hget⟩ := List.getElem?_eq_some_iff.mp (ranges_getElem?_eq h)
    rw [ranges, hset, List.map_set, hfirst, hlast, ← hget]
    exact List.set_getElem_self hlt
  · unfold setBatch
    split <;> simp

theorem ranges_finishFrame (s : ThreadState) (batch : InflightBatch) (frameNumber : Nat) :
    (s.finishFrame batch frameNumber).ranges = s.ranges ∧
      (s.finishFrame batch frameNumber).removed = s.removed := by
  unfold finishFrame
  split <;> exact ⟨rfl, rfl⟩

/-- The error path on a deque that is long enough moves batches from the deque to the
removed ones; on a shorter one it faults. -/
theorem flushBatches_cases (s : ThreadState) (n : Nat) :
    (s.batcher.mInflightBatches.length < n ∧ s.batcher.flushBatches n = none) ∨
      ∃ effects removed batcher, s.batcher.flushBatches n = some (effects, removed, batcher) ∧
        n ≤ s.batcher.mInflightBatches.length ∧
        batcher.mInflightBatches = s.batcher.mInflightBatches.drop n ∧
        removed.map (fun batch => (batch.mFirstFrame, batch.mLastFrame)) =
          (s.batcher.mInflightBatches.take n).map
            fun batch => (batch.mFirstFrame, batch.mLastFrame) := by
  rcases Nat.lt_or_ge s.batcher.mInflightBatches.length n with hlt | hge
  · exact .inl ⟨hlt, ResultBatcher.flushBatches_eq_none hlt⟩
  · obtain ⟨effects, removed, batcher, heq, rfl, rfl, -⟩ := ResultBatcher.flushBatches_eq_some hge
    refine .inr ⟨effects, _, _, heq, hge, rfl, ?_⟩
    rw [List.map_map]
    apply List.map_congr_left
    intro batch _
    obtain ⟨hfirst, hlast⟩ :=
      batch.flush_ends s.batcher.mStreamsToBatch s.batcher.mNumPartialResults
    simp [hfirst, hlast]

/-- No section changes the ranges, and batches are only ever removed. -/
theorem runSection_ranges (s : ThreadState) (call : PendingCall) :
    (s.runSection call).ranges = s.ranges ∧
      s.removed.length ≤ (s.runSection call).removed.length := by
  cases call with
  | error msg batchIdx removedBefore =>
      rcases s.flushBatches_cases (batchIdx + 1) with
        ⟨-, hnone⟩ | ⟨effects, removed, batcher, heq, -, hdeque, hends⟩
      · simp only [runSection, hnone]
        exact ⟨rfl, le_rfl⟩
      · simp only [runSection, heq]
        constructor
        -- the flushed batches move from the deque to the removed ones, in order
        · simp only [ranges, batches, List.append_assoc, List.map_append, hends, hdeque]
          have htake := List.take_append_drop (batchIdx + 1) s.batcher.mInflightBatches
          rw [← List.map_append, htake]
        · simp
  | shutter msg i =>
      simp only [runSection]
      split
      next => exact ⟨rfl, le_rfl⟩
      next batch hbatch =>
        have hset := ranges_setBatch (batch.notifyShutter msg).2 hbatch
          (by rw [InflightBatch.notifyShutter_frame]) (by rw [InflightBatch.notifyShutter_frame])
        have hfinish := ranges_finishFrame (s.setBatch i (batch.notifyShutter msg).2) batch
          msg.frameNumber
        rw [hfinish.1, hfinish.2, hset.1, hset.2]
        exact ⟨rfl, le_rfl⟩
  | result result i =>
      simp only [runSection]
      split
      next => exact ⟨rfl, le_rfl⟩
      next batch hbatch =>
        have hset := ranges_setBatch (batch.processCaptureResult result).2 hbatch
          (by rw [InflightBatch.processCaptureResult_frame])
          (by rw [InflightBatch.processCaptureResult_frame])
        have hfinish := ranges_finishFrame (s.setBatch i (batch.processCaptureResult result).2)
          batch result.frameNumber
        rw [hfinish.1, hfinish.2, hset.1, hset.2]
        exact ⟨rfl, le_rfl⟩
  | checkAndRemoveFirstBatch =>
      simp only [runSection, ResultBatcher.checkAndRemoveFirstBatch]
      cases hlist : s.batcher.mInflightBatches with
      | nil => simp [ranges, batches, hlist]
      | cons first rest =>
          by_cases hall : first.allDelivered = true
          · simp [ranges, batches, hlist, hall]
          · simp [ranges, batches, hlist, hall]

/-- Only the error path flushes batches or faults. -/
theorem runSection_frame (s : ThreadState) {call : PendingCall}
    (h : ∀ msg batchIdx removedBefore, call ≠ .error msg batchIdx removedBefore) :
    (s.runSection call).flushed = s.flushed ∧ (s.runSection call).faulted = s.faulted := by
  have hfinish : ∀ (t : ThreadState) batch frameNumber,
      (t.finishFrame batch frameNumber).flushed = t.flushed ∧
        (t.finishFrame batch frameNumber).faulted = t.faulted := by
    intro t batch frameNumber
    unfold finishFrame
    split <;> exact ⟨rfl, rfl⟩
  have hset : ∀ i batch, (s.setBatch i batch).flushed = s.flushed ∧
      (s.setBatch i batch).faulted = s.faulted := by
    intro i batch
    unfold setBatch
    split <;> exact ⟨rfl, rfl⟩
  cases call with
  | error msg batchIdx removedBefore => exact absurd rfl (h msg batchIdx removedBefore)
  | shutter msg i =>
      simp only [runSection]
      split
      next => exact ⟨rfl, rfl⟩
      next =>
        rw [(hfinish _ _ _).1, (hfinish _ _ _).2]
        exact hset _ _
  | result result i =>
      simp only [runSection]
      split
      next => exact ⟨rfl, rfl⟩
      next =>
        rw [(hfinish _ _ _).1, (hfinish _ _ _).2]
        exact hset _ _
  | checkAndRemoveFirstBatch => exact ⟨rfl, rfl⟩

/-- A section leaves no call of an error behind that was not there. -/
theorem mem_runSection_pending {s : ThreadState} {call : PendingCall} {msg : NotifyMsg}
    {batchIdx removedBefore : Nat}
    (h : .error msg batchIdx removedBefore ∈ (s.runSection call).pending) :
    .error msg batchIdx removedBefore ∈ s.pending := by
  have hfinish : ∀ (t : ThreadState) batch frameNumber,
      .error msg batchIdx removedBefore ∈ (t.finishFrame batch frameNumber).pending →
        .error msg batchIdx removedBefore ∈ t.pending := by
    intro t batch frameNumber hmem
    unfold finishFrame at hmem
    split at hmem
    · simpa using hmem
    · exact hmem
  have hset : ∀ i batch, (s.setBatch i batch).pending = s.pending := by
    intro i batch
    unfold setBatch
    split <;> rfl
  cases call with
  | error msg batchIdx removedBefore =>
      simp only [runSection] at h
      split at h <;> exact h
  | shutter msg i =>
      simp only [runSection] at h
      split at h
      next => exact h
      next => exact hset _ _ ▸ hfinish _ _ _ h
  | result result i =>
      simp only [runSection] at h
      split at h
      next => exact h
      next => exact hset _ _ ▸ hfinish _ _ _ h
  | checkAndRemoveFirstBatch => exact h

/-! ## The invariant -/

/-- Ranges are disjoint and increasing, and a pending error has its frame in the batch
that was at its position when it looked. -/
structure FlushInv (s : ThreadState) : Prop where
  ordered : OrderedIntervals Prod.fst Prod.snd s.ranges
  errors : ∀ msg batchIdx removedBefore, .error msg batchIdx removedBefore ∈ s.pending →
    removedBefore ≤ s.removed.length ∧ ∃ range, s.ranges[removedBefore + batchIdx]? = some range ∧
      range.1 ≤ msg.frameNumber ∧ msg.frameNumber ≤ range.2

/-- The invariant stays while the ranges do and no error becomes pending. -/
theorem FlushInv.of_ranges {s s' : ThreadState} (hinv : s.FlushInv) (hranges : s'.ranges = s.ranges)
    (hremoved : s.removed.length ≤ s'.removed.length)
    (hpending : ∀ msg batchIdx removedBefore, .error msg batchIdx removedBefore ∈ s'.pending →
      .error msg batchIdx removedBefore ∈ s.pending) : s'.FlushInv := by
  refine ⟨hranges ▸ hinv.ordered, ?_⟩
  intro msg batchIdx removedBefore hmem
  obtain ⟨hle, hrange⟩ := hinv.errors msg batchIdx removedBefore
    (hpending msg batchIdx removedBefore hmem)
  exact ⟨hle.trans hremoved, hranges ▸ hrange⟩

/-- A batch behind all others leaves the earlier positions as they are. -/
theorem FlushInv.registerBatch {s : ThreadState} (hinv : s.FlushInv) {frameNumber batchSize : Nat}
    (hop : s.RangesContract (.registerBatch frameNumber batchSize)) :
    ({ s with batcher := s.batcher.registerBatch frameNumber batchSize } :
      ThreadState).FlushInv := by
  obtain ⟨hpos, hfit, habove⟩ := hop
  have hranges : ({ s with batcher := s.batcher.registerBatch frameNumber batchSize } :
      ThreadState).ranges = s.ranges ++ [(frameNumber, frameNumber + batchSize - 1)] := by
    have hfirst : (s.batcher.newBatch frameNumber batchSize).mFirstFrame = frameNumber := rfl
    have hlast : (s.batcher.newBatch frameNumber batchSize).mLastFrame =
        frameNumber + batchSize - 1 := by
      simp only [ResultBatcher.newBatch, uint32]
      omega
    simp only [ranges, batches, ResultBatcher.registerBatch, ← List.append_assoc, List.map_append,
      List.map_cons, List.map_nil, hfirst, hlast]
  constructor
  · rw [hranges]
    apply hinv.ordered.concat
    · show frameNumber ≤ frameNumber + batchSize - 1
      omega
    · intro range hmem
      obtain ⟨batch, hbatch, rfl⟩ := List.mem_map.mp hmem
      exact habove batch hbatch
  · intro msg batchIdx removedBefore hmem
    obtain ⟨hle, range, hrange, hcontains⟩ := hinv.errors msg batchIdx removedBefore hmem
    refine ⟨hle, range, ?_, hcontains⟩
    rw [hranges]
    rw [List.getElem?_append_left (List.getElem?_eq_some_iff.mp hrange).1]
    exact hrange

/-- A batch found by `getBatch` stands behind those removed. -/
theorem ranges_of_getBatch {s : ThreadState} {frameNumber i : Nat} {batch : InflightBatch}
    (h : s.batcher.getBatch frameNumber = some (i, batch)) :
    s.ranges[s.removed.length + i]? = some (batch.mFirstFrame, batch.mLastFrame) ∧
      batch.mFirstFrame ≤ frameNumber ∧ frameNumber ≤ batch.mLastFrame := by
  obtain ⟨hat, hcontains⟩ := ResultBatcher.getBatch_eq_some h
  refine ⟨ranges_getElem?_eq ?_, hcontains⟩
  rw [batches, List.getElem?_append_right (Nat.le_add_right _ _), Nat.add_sub_cancel_left]
  exact hat

/-- Every step within the contract keeps the invariant. -/
theorem FlushInv.next {s : ThreadState} (hinv : s.FlushInv) {op : ThreadOp}
    (hop : s.RangesContract op) : (s.next op).FlushInv := by
  unfold ThreadState.next
  split
  next => exact hinv
  next =>
    cases op with
    | setBatchedStreams streamsToBatch =>
        exact hinv.of_ranges rfl le_rfl fun _ _ _ hmem => hmem
    | registerBatch frameNumber batchSize => exact hinv.registerBatch hop
    | notify msg =>
        dsimp only
        split
        next => exact hinv
        next batchIdx batch hget =>
          obtain ⟨hrange, hcontains⟩ := ranges_of_getBatch hget
          refine ⟨hinv.ordered, ?_⟩
          intro msg' batchIdx' removedBefore hmem
          rcases List.mem_append.mp hmem with hmem | hmem
          · exact hinv.errors msg' batchIdx' removedBefore hmem
          · cases msg with
            | shutter => simp at hmem
            | error =>
                rw [List.mem_singleton] at hmem
                cases hmem
                -- `getBatch` has just found the batch, nothing was removed since
                exact ⟨le_rfl, _, hrange, hcontains⟩
    | processCaptureResult result =>
        dsimp only
        split
        next => exact hinv
        next => exact hinv.of_ranges rfl le_rfl fun _ _ _ hmem => by simpa using hmem
    | resume i =>
        dsimp only
        split
        next => exact hinv
        next call hcall =>
          have hsection :=
            ({ s with pending := s.pending.eraseIdx i } : ThreadState).runSection_ranges call
          apply hinv.of_ranges hsection.1 hsection.2
          intro msg batchIdx removedBefore hmem
          exact List.mem_of_mem_eraseIdx (mem_runSection_pending hmem)

/-! ## When an error flushes too much -/

/-- A batch contains a frame or lies before it exactly if it begins at or before it. -/
theorem contains_or_before_iff {batch : InflightBatch} (h : batch.mFirstFrame ≤ batch.mLastFrame)
    (frameNumber : Nat) :
    (batch.contains frameNumber = true ∨ batch.mLastFrame < frameNumber) ↔
      batch.mFirstFrame ≤ frameNumber := by
  simp only [InflightBatch.contains, Bool.and_eq_true, decide_eq_true_eq]
  omega

/-- The error path keeps to batches up to its own exactly if no batch was removed since
it looked for its own. -/
theorem safe_error_iff {s : ThreadState} {msg : NotifyMsg} {batchIdx removedBefore : Nat}
    (hordered : OrderedIntervals Prod.fst Prod.snd s.ranges)
    (hremoved : removedBefore ≤ s.removed.length) {range : Nat × Nat}
    (hrange : s.ranges[removedBefore + batchIdx]? = some range)
    (hfirst : range.1 ≤ msg.frameNumber) (hlast : msg.frameNumber ≤ range.2) (hsafe : s.Safe) :
    (s.runSection (.error msg batchIdx removedBefore)).Safe ↔
      s.removed.length = removedBefore := by
  have hbound :
      removedBefore + batchIdx < s.removed.length + s.batcher.mInflightBatches.length := by
    have hlt := (List.getElem?_eq_some_iff.mp hrange).1
    simpa [ranges, batches] using hlt
  rcases s.flushBatches_cases (batchIdx + 1) with
    ⟨hshort, hnone⟩ | ⟨effects, removed, batcher, heq, hlong, -, hends⟩
  case inl =>
    -- the deque is shorter than the position says, so batches were removed in between
    simp only [runSection, hnone, Safe, Bool.true_eq_false, false_and, false_iff]
    omega
  case inr =>
    -- the flushed batches are those that follow the ones removed before
    have hlength : removed.length = batchIdx + 1 := by
      have := congrArg List.length hends
      simpa [hlong] using this
    have hat : ∀ j (hj : j < removed.length), s.ranges[s.removed.length + j]? =
        some (removed[j].mFirstFrame, removed[j].mLastFrame) := by
      intro j hj
      have hget := congrArg (·[j]?) hends
      simp only [List.getElem?_map, List.getElem?_eq_getElem hj, Option.map_some] at hget
      rw [List.getElem?_take_of_lt (by omega)] at hget
      rw [ranges, batches, List.getElem?_map,
        List.getElem?_append_right (Nat.le_add_right _ _), Nat.add_sub_cancel_left, ← hget]
    have hbegins : ∀ j (hj : j < removed.length), removed[j].mFirstFrame ≤ msg.frameNumber ↔
        s.removed.length + j ≤ removedBefore + batchIdx := fun j hj =>
      hordered.lo_le_iff hrange hfirst hlast (hat j hj)
    have hnonempty : ∀ batch ∈ removed, batch.mFirstFrame ≤ batch.mLastFrame := by
      intro batch hmem
      obtain ⟨j, hj, rfl⟩ := List.mem_iff_getElem.mp hmem
      exact hordered.nonempty _ (List.mem_of_getElem? (hat j hj))
    have hflushed : (s.runSection (.error msg batchIdx removedBefore)).Safe ↔
        ∀ batch ∈ removed, batch.mFirstFrame ≤ msg.frameNumber := by
      simp only [runSection, heq, Safe, hsafe.1, true_and, List.mem_append, List.mem_map]
      constructor
      · intro h batch hmem
        exact (contains_or_before_iff (hnonempty batch hmem) _).mp
          (h (msg.frameNumber, batch) (.inr ⟨batch, hmem, rfl⟩))
      · rintro h pair (hold | ⟨batch, hmem, rfl⟩)
        · exact hsafe.2 pair hold
        · exact (contains_or_before_iff (hnonempty batch hmem) _).mpr (h batch hmem)
    rw [hflushed]
    constructor
    · intro h
      -- the last flushed batch begins at or below the frame, so it is the one that was found
      have hend := (hbegins batchIdx (by omega)).mp (h _ (List.getElem_mem _))
      omega
    · intro heq batch hmem
      obtain ⟨j, hj, rfl⟩ := List.mem_iff_getElem.mp hmem
      exact (hbegins j hj).mpr (by omega)

/-- A step keeps the state safe exactly if it is not an error that comes too late. -/
theorem safe_next_iff {s : ThreadState} (hinv : s.FlushInv) (op : ThreadOp) (hsafe : s.Safe) :
    (s.next op).Safe ↔ s.UpToDate op := by
  unfold ThreadState.next
  rw [if_neg (by simp [hsafe.1])]
  cases op with
  | setBatchedStreams streamsToBatch => exact iff_of_true hsafe trivial
  | registerBatch frameNumber batchSize => exact iff_of_true hsafe trivial
  | notify msg =>
      dsimp only
      split
      next => exact iff_of_true hsafe trivial
      next => exact iff_of_true hsafe trivial
  | processCaptureResult result =>
      dsimp only
      split
      next => exact iff_of_true hsafe trivial
      next => exact iff_of_true hsafe trivial
  | resume i =>
      dsimp only [UpToDate]
      cases hcall : s.pending[i]? with
      | none => exact iff_of_true hsafe trivial
      | some call =>
          cases call with
          | error msg batchIdx removedBefore =>
              obtain ⟨hremoved, range, hrange, hfirst, hlast⟩ :=
                hinv.errors msg batchIdx removedBefore (List.mem_of_getElem? hcall)
              exact safe_error_iff (s := { s with pending := s.pending.eraseIdx i })
                hinv.ordered hremoved hrange hfirst hlast hsafe
          | shutter msg batch =>
              have hne : ∀ other batchIdx removedBefore,
                  PendingCall.shutter msg batch ≠ .error other batchIdx removedBefore :=
                fun _ _ _ h => by cases h
              have hframe := runSection_frame { s with pending := s.pending.eraseIdx i } hne
              simp only [Safe, hframe, iff_true]
              exact hsafe
          | result result batch =>
              have hne : ∀ other batchIdx removedBefore,
                  PendingCall.result result batch ≠ .error other batchIdx removedBefore :=
                fun _ _ _ h => by cases h
              have hframe := runSection_frame { s with pending := s.pending.eraseIdx i } hne
              simp only [Safe, hframe, iff_true]
              exact hsafe
          | checkAndRemoveFirstBatch => exact iff_of_true hsafe trivial

/-- What was flushed stays flushed, and a section does not undo a fault. -/
theorem safe_of_runSection {s : ThreadState} (hrunning : s.faulted = false) {call : PendingCall}
    (h : (s.runSection call).Safe) : s.Safe := by
  refine ⟨hrunning, fun pair hmem => h.2 pair ?_⟩
  by_cases hcall : ∀ msg batchIdx removedBefore, call ≠ .error msg batchIdx removedBefore
  · rw [(runSection_frame _ hcall).1]
    exact hmem
  · push Not at hcall
    obtain ⟨msg, batchIdx, removedBefore, rfl⟩ := hcall
    simp only [runSection]
    split
    · exact hmem
    · exact List.mem_append_left _ hmem

/-- A run that is safe now was safe before. -/
theorem safe_of_next {s : ThreadState} {op : ThreadOp} (h : (s.next op).Safe) : s.Safe := by
  unfold ThreadState.next at h
  split at h
  next => exact h
  next hrunning =>
    rw [Bool.not_eq_true] at hrunning
    cases op with
    | setBatchedStreams streamsToBatch => exact h
    | registerBatch frameNumber batchSize => exact h
    | notify msg =>
        dsimp only at h
        split at h <;> exact h
    | processCaptureResult result =>
        dsimp only at h
        split at h <;> exact h
    | resume i =>
        dsimp only at h
        split at h
        next => exact h
        next call _ =>
          exact safe_of_runSection (s := { s with pending := s.pending.eraseIdx i }) hrunning h

theorem flushInv_initial (numPartialResults : Nat) : (initial numPartialResults).FlushInv :=
  ⟨OrderedIntervals.nil, fun _ _ _ h => by simp [initial] at h⟩

/-- A run reads no empty deque and flushes no batch later than the error's own, exactly if
every error takes the lock before any batch found in front of its own is removed. -/
theorem safe_iff_upToDate (numPartialResults : Nat) (ops : List ThreadOp)
    (hops : Admits next RangesContract (initial numPartialResults) ops) :
    (run next (initial numPartialResults) ops).Safe ↔
      Admits next UpToDate (initial numPartialResults) ops :=
  hops.good_iff FlushInv (fun _ _ hinv hop => hinv.next hop)
    (fun _ _ h => safe_of_next h) (fun _ op hinv _ hsafe => safe_next_iff hinv op hsafe)
    (flushInv_initial numPartialResults) ⟨rfl, by simp [initial]⟩

/-- Two batches of two frames, the first of them complete but for the check of its last
result, when an error for the second one looks for its batch. -/
def errorBehindCompleteBatch : List ThreadOp :=
  [.registerBatch 1 2, .registerBatch 3 2, .notify (.shutter 2 0), .resume 0, .resume 0,
    .processCaptureResult
      { frameNumber := 2, partialResult := 1, inputBuffer := { streamId := -1 } },
    .resume 0, .notify (.error 3 (-1) .errorRequest)]

theorem safe_iff_upToDate_errorBehindCompleteBatch :
    Admits next RangesContract (initial 1) (errorBehindCompleteBatch ++ [.resume 1]) ∧
      ((run next (initial 1) (errorBehindCompleteBatch ++ [.resume 1])).Safe ↔
        Admits next UpToDate (initial 1) (errorBehindCompleteBatch ++ [.resume 1])) := by
  have hops : Admits next RangesContract (initial 1)
      (errorBehindCompleteBatch ++ [.resume 1]) := by decide
  exact ⟨hops, safe_iff_upToDate 1 _ hops⟩

/-- When the pending check removes the first batch before the error takes the lock, the
error reads an empty deque, and with a third batch it flushes that one. -/
theorem errorBehindCompleteBatch_unsafe :
    (Admits next RangesContract (initial 1) (errorBehindCompleteBatch ++ [.resume 0, .resume 0]) ∧
      (run next (initial 1) (errorBehindCompleteBatch ++ [.resume 0, .resume 0])).faulted =
        true) ∧
    (Admits next RangesContract (initial 1)
        (errorBehindCompleteBatch ++ [.registerBatch 5 2, .resume 0, .resume 0]) ∧
      ∃ pair ∈ (run next (initial 1)
          (errorBehindCompleteBatch ++ [.registerBatch 5 2, .resume 0, .resume 0])).flushed,
        pair.1 = 3 ∧ pair.2.mFirstFrame = 5) := by
  decide

end ThreadState

end LgeHardware.Camera
