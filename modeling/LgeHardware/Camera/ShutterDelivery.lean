import LgeHardware.Camera.BatcherRun

/-! # Shutters are delivered once and in order

A shutter is sent singly, with the other shutters of its batch when the last frame of
the batch has come, or early by an error. At every point of a run the shutters that
were delivered, followed by those queued in the batches in deque order, are the
shutters that came. The invariant behind it: a batch holds only shutters of its own
frames, and it has sent them only after the shutter of its last frame.
-/

namespace LgeHardware.Camera

open LgeHardware.Foundation

def NotifyMsg.isShutter : NotifyMsg → Bool
  | .shutter .. => true
  | .error .. => false

/-- The shutters handed to the framework, in order. -/
def shuttersOf (effects : List Effect) : List NotifyMsg :=
  effects.flatMap fun
    | .notify msgs => msgs.filter (·.isShutter)
    | _ => []

@[simp] theorem shuttersOf_nil : shuttersOf [] = [] := rfl

@[simp] theorem shuttersOf_append (first second : List Effect) :
    shuttersOf (first ++ second) = shuttersOf first ++ shuttersOf second := List.flatMap_append

@[simp] theorem shuttersOf_notify (msgs : List NotifyMsg) (rest : List Effect) :
    shuttersOf (.notify msgs :: rest) = msgs.filter (·.isShutter) ++ shuttersOf rest := rfl

@[simp] theorem shuttersOf_processCaptureResult (results : List CaptureResult)
    (tryWriteFmq : Bool) (rest : List Effect) :
    shuttersOf (.processCaptureResult results tryWriteFmq :: rest) = shuttersOf rest := rfl

@[simp] theorem shuttersOf_closeAll (fds : List Int) : shuttersOf (closeAll fds) = [] := by
  induction fds with
  | nil => rfl
  | cons fd rest ih => exact ih

/-- Effects without a call of the notify callback deliver no shutter. -/
theorem shuttersOf_eq_nil {effects : List Effect} (h : ∀ msgs, .notify msgs ∉ effects) :
    shuttersOf effects = [] := by
  rw [shuttersOf, List.flatMap_eq_nil_iff]
  intro effect hmem
  cases effect with
  | notify msgs => exact absurd hmem (h msgs)
  | processCaptureResult results tryWriteFmq => rfl
  | close fd => rfl

@[simp] theorem shuttersOf_processOneCaptureResult (result : CaptureResult) :
    shuttersOf (processOneCaptureResult result) = [] := by
  simp [processOneCaptureResult]

namespace InflightBatch

@[simp] theorem shuttersOf_sendBatchBuffersLocked (batch : InflightBatch) (streams : List Int) :
    shuttersOf (batch.sendBatchBuffersLocked streams).1 = [] := by
  apply shuttersOf_eq_nil
  intro msgs
  unfold sendBatchBuffersLocked
  split <;> simp [closeAll]

@[simp] theorem shuttersOf_sendBatchMetadataLocked (batch : InflightBatch) (idx : Nat) :
    shuttersOf (batch.sendBatchMetadataLocked idx).1 = [] := by
  unfold sendBatchMetadataLocked
  split <;> rfl

@[simp] theorem shuttersOf_sendLastFrame (batch : InflightBatch) (result : CaptureResult)
    (filledStreams : List Int) :
    shuttersOf (batch.sendLastFrame result filledStreams).1 = [] := by
  by_cases heq : result.frameNumber = batch.mLastFrame
  · rw [sendLastFrame_of_eq heq]
    have hmd : shuttersOf (batch.sendLastMetadata result).1 = [] := by
      unfold sendLastMetadata
      split
      · exact shuttersOf_sendBatchMetadataLocked _ _
      · rfl
    split
    · exact hmd
    · simp [hmd]
  · rw [sendLastFrame_of_ne heq]
    rfl

/-- Queueing the buffers of a result sends nothing. -/
theorem shuttersOf_foldl_queueBuffer (buffers : List StreamBuffer) (queued : Queued) :
    shuttersOf (buffers.foldl queueBuffer queued).effects = shuttersOf queued.effects := by
  induction buffers generalizing queued with
  | nil => rfl
  | cons buffer rest ih =>
      rw [List.foldl_cons, ih]
      unfold queueBuffer
      split <;> simp

@[simp] theorem shuttersOf_processCaptureResult (batch : InflightBatch) (result : CaptureResult) :
    shuttersOf (batch.processCaptureResult result).1 = [] := by
  unfold processCaptureResult
  split
  · exact shuttersOf_processOneCaptureResult result
  · have hqueue := shuttersOf_foldl_queueBuffer result.outputBuffers
      { batch := batch.queueMetadata result }
    have hnon : ∀ buffers, shuttersOf (sendNonBatched result buffers) = [] := by
      intro buffers
      unfold sendNonBatched
      split <;> simp
    have hresidue : ∀ buffers, shuttersOf (residue result buffers) = [] := by
      intro buffers
      unfold residue
      split <;> simp
    simp [hqueue, hnon, hresidue]

/-- An error sends the shutters that a batch has not sent yet. -/
theorem shuttersOf_flush (batch : InflightBatch) (streamsToBatch : List Int)
    (numPartialResults : Nat) :
    shuttersOf (batch.flush streamsToBatch numPartialResults).1 =
      if batch.mShutterDelivered then [] else batch.mShutterMsgs.filter (·.isShutter) := by
  simp only [flush, shuttersOf_append, shuttersOf_sendBatchBuffersLocked,
    shuttersOf_sendBatchMetadataLocked, List.append_nil]
  unfold sendBatchShutterCbsLocked
  split
  · rfl
  · simp

end InflightBatch

namespace ResultBatcher

@[simp] theorem shuttersOf_processCaptureResult (s : ResultBatcher) (result : CaptureResult) :
    shuttersOf (s.processCaptureResult result).1 = [] := by
  unfold processCaptureResult
  split
  next => exact shuttersOf_processOneCaptureResult result
  next i batch _ =>
    dsimp only
    split
    next => simp
    next =>
      obtain ⟨fds, hfds⟩ := (s.setBatch i (batch.processCaptureResult result).2
        ).finishLastFrame_closes batch result.frameNumber
      simp [hfds]

/-- The error loop sends the shutters of the batches it removes, in deque order. -/
theorem shuttersOf_flushBatches {n : Nat} {s s' : ResultBatcher} {effects : List Effect}
    {removed : List InflightBatch} (h : s.flushBatches n = some (effects, removed, s')) :
    shuttersOf effects = (s.mInflightBatches.take n).flatMap fun batch =>
      shuttersOf (batch.flush s.mStreamsToBatch s.mNumPartialResults).1 := by
  induction n generalizing s effects removed with
  | zero =>
      cases h
      rfl
  | succ n ih =>
      cases hlist : s.mInflightBatches with
      | nil =>
          rw [flushBatches, hlist] at h
          cases h
      | cons batch rest =>
          simp only [flushBatches, hlist] at h
          obtain ⟨⟨more, others, after⟩, hmore, heq⟩ := Option.map_eq_some_iff.mp h
          cases heq
          have hrest := ih hmore
          -- the destructor of a batch between two iterations only closes descriptors
          have hdestroyed : shuttersOf (if n = 0 then [] else
              (batch.flush s.mStreamsToBatch s.mNumPartialResults).2.destroy) = [] := by
            split
            · rfl
            · exact shuttersOf_closeAll _
          rw [shuttersOf_append, shuttersOf_append, hdestroyed, List.append_nil, hrest,
            List.take_succ_cons, List.flatMap_cons]

end ResultBatcher

/-! ## Runs -/

/-- A batcher with what it did and the messages that the HAL gave to `notify`. -/
structure NotifyState extends BatcherState where
  notified : List NotifyMsg := []

namespace NotifyState

/-- A new batcher for which the streams to batch have been set. -/
def initial (numPartialResults : Nat) (streamsToBatch : List Int) : NotifyState :=
  { batcher := { mNumPartialResults := numPartialResults, mStreamsToBatch := streamsToBatch } }

def next (s : NotifyState) (op : BatcherOp) : NotifyState :=
  { toBatcherState := s.toBatcherState.next op
    notified :=
      match op with
      | .notify msg => s.notified ++ [msg]
      | _ => s.notified }

/-- The shutters received, in order. -/
def shutters (s : NotifyState) : List NotifyMsg := s.notified.filter (·.isShutter)

/-- The shutters queued in the batches, in deque order. -/
def queuedShutters (s : NotifyState) : List NotifyMsg :=
  s.batcher.mInflightBatches.flatMap (·.mShutterMsgs)

/-- Batches are registered for increasing disjoint ranges, and shutters come in increasing
frame order, at most one for a frame. The streams to batch do not change. -/
def ShuttersIncrease (s : NotifyState) : BatcherOp → Prop
  | .setBatchedStreams _ => False
  | .registerBatch frameNumber batchSize => s.RangeIncreasing frameNumber batchSize
  | .notify (.shutter frameNumber _) => ∀ msg ∈ s.shutters, msg.frameNumber < frameNumber
  | _ => True

/-- A shutter comes only when no batch of earlier frames still holds shutters: the HAL has
sent the shutter of its last frame or an error. -/
def NoneHeldBack (s : NotifyState) : BatcherOp → Prop
  | .notify (.shutter frameNumber _) => ∀ batch ∈ s.batcher.mInflightBatches,
      batch.mLastFrame < frameNumber → batch.mShutterMsgs = []
  | _ => True

/-- The shutters delivered, followed by those queued, are those received. -/
def ShuttersInOrder (s : NotifyState) : Prop :=
  shuttersOf s.effects ++ s.queuedShutters = s.shutters

structure BatchShutters (s : NotifyState) (batch : InflightBatch) : Prop where
  present : batch.mRemoved = false
  queued : ∀ msg ∈ batch.mShutterMsgs, msg ∈ s.shutters ∧
    batch.mFirstFrame ≤ msg.frameNumber ∧ msg.frameNumber ≤ batch.mLastFrame
  delivered : batch.mShutterDelivered = true → batch.mShutterMsgs = [] ∧
    ∃ msg ∈ s.shutters, msg.frameNumber = batch.mLastFrame

structure ShutterInv (s : NotifyState) : Prop where
  ordered : ResultBatcher.Ordered s.batcher.mInflightBatches
  batches : ∀ batch ∈ s.batcher.mInflightBatches, s.BatchShutters batch
  balance : s.ShuttersInOrder

section

variable {s s' : NotifyState} {batch : InflightBatch}

theorem isShutter_of_mem {msg : NotifyMsg} (h : msg ∈ s.shutters) : msg.isShutter = true :=
  (List.mem_filter.mp h).2

theorem BatchShutters.mono (h : s.BatchShutters batch)
    (hshutters : ∀ msg ∈ s.shutters, msg ∈ s'.shutters) : s'.BatchShutters batch := by
  refine ⟨h.present, ?_, ?_⟩
  · intro msg hmsg
    exact (h.queued msg hmsg).imp_left (hshutters msg)
  · intro hdelivered
    obtain ⟨hempty, msg, hmsg, hframe⟩ := h.delivered hdelivered
    exact ⟨hempty, msg, hshutters msg hmsg, hframe⟩

/-- All that a batch holds are shutters. -/
theorem BatchShutters.filter_isShutter (h : s.BatchShutters batch) :
    batch.mShutterMsgs.filter (·.isShutter) = batch.mShutterMsgs := by
  rw [List.filter_eq_self]
  intro msg hmsg
  exact isShutter_of_mem (h.queued msg hmsg).1

/-- An error sends exactly what a batch holds. -/
theorem BatchShutters.flush (h : s.BatchShutters batch) (streamsToBatch : List Int)
    (numPartialResults : Nat) :
    shuttersOf (batch.flush streamsToBatch numPartialResults).1 = batch.mShutterMsgs := by
  rw [InflightBatch.shuttersOf_flush]
  split
  next hdelivered => rw [(h.delivered hdelivered).1]
  next => exact h.filter_isShutter

/-- A section that keeps the shutters of a batch and its ends keeps the invariant. -/
theorem BatchShutters.congr {after : InflightBatch} (h : s.BatchShutters batch)
    (hframe : after = { batch with
      mBatchBufs := after.mBatchBufs
      mPartialResultProgress := after.mPartialResultProgress
      mResultMds := after.mResultMds }) : s.BatchShutters after := by
  rw [hframe]
  exact ⟨h.present, h.queued, h.delivered⟩

/-- The invariant before complete batches are dropped from the head of the deque: what is
complete holds no shutter. -/
theorem ShutterInv.of_removal {batches removed : List InflightBatch}
    (hsplit : batches = removed ++ s.batcher.mInflightBatches)
    (hcomplete : ∀ b ∈ removed, b.allDelivered = true)
    (hordered : ResultBatcher.Ordered batches) (hbatches : ∀ b ∈ batches, s.BatchShutters b)
    (hbalance : shuttersOf s.effects ++ batches.flatMap (·.mShutterMsgs) = s.shutters) :
    s.ShutterInv := by
  subst hsplit
  refine ⟨hordered.of_sublist (List.sublist_append_right _ _),
    fun b hb => hbatches b (List.mem_append_right _ hb), ?_⟩
  have hdropped : removed.flatMap (·.mShutterMsgs) = [] := by
    rw [List.flatMap_eq_nil_iff]
    intro b hb
    have hall := hcomplete b hb
    simp only [InflightBatch.allDelivered, Bool.and_eq_true] at hall
    exact ((hbatches b (List.mem_append_left _ hb)).delivered hall.1.1).1
  rw [ShuttersInOrder, queuedShutters, ← hbalance, List.flatMap_append, hdropped]
  rfl

/-! ### The operations -/

/-- A new batch holds no shutters. -/
theorem ShutterInv.registerBatch (hinv : s.ShutterInv) {frameNumber batchSize : Nat}
    (hop : s.RangeIncreasing frameNumber batchSize) :
    (s.next (.registerBatch frameNumber batchSize)).ShutterInv := by
  refine ⟨BatcherState.ordered_registerBatch hinv.ordered hop, ?_, ?_⟩
  · intro b hb
    rcases List.mem_append.mp hb with hold | hnew
    · exact (hinv.batches b hold).mono fun _ h => h
    · rw [List.mem_singleton.mp hnew]
      refine ⟨rfl, ?_, ?_⟩
      · intro msg hmsg
        cases hmsg
      · intro hdelivered
        cases hdelivered
  · have hqueued : (s.next (.registerBatch frameNumber batchSize)).queuedShutters =
        s.queuedShutters := by
      simp only [queuedShutters, next, BatcherState.next, ResultBatcher.registerBatch,
        List.flatMap_append, List.flatMap_cons, List.flatMap_nil]
      exact List.append_nil _
    rw [ShuttersInOrder, hqueued]
    exact hinv.balance

/-- A result moves no shutters. -/
theorem ShutterInv.processCaptureResult (hinv : s.ShutterInv) (result : CaptureResult) :
    (s.next (.processCaptureResult result)).ShutterInv := by
  have hpresent := fun b hb => (hinv.batches b hb).present
  have hkeep : ∀ {b}, s.BatchShutters b →
      (s.next (.processCaptureResult result)).BatchShutters b := fun h => h.mono fun _ h => h
  have hdelivered : shuttersOf (s.next (.processCaptureResult result)).effects =
      shuttersOf s.effects := by
    simp [next, BatcherState.next]
  rcases s.batcher.processCaptureResult_cases hpresent result with
    ⟨-, heq⟩ | ⟨before, batch, after, removed, hlist, -, -, hsplit, hcomplete, -⟩
  · have hbatcher : (s.next (.processCaptureResult result)).batcher = s.batcher := by
      simp only [next, BatcherState.next, heq]
    refine ⟨by rw [hbatcher]; exact hinv.ordered, ?_, ?_⟩
    · rw [hbatcher]
      exact fun b hb => hkeep (hinv.batches b hb)
    · rw [ShuttersInOrder, hdelivered, queuedShutters, hbatcher]
      exact hinv.balance
  · have hbatch := hinv.batches batch (by simp [hlist])
    have hframe := batch.processCaptureResult_frame result
    have hends : (batch.processCaptureResult result).2.mFirstFrame = batch.mFirstFrame ∧
        (batch.processCaptureResult result).2.mLastFrame = batch.mLastFrame ∧
        (batch.processCaptureResult result).2.mShutterMsgs = batch.mShutterMsgs := by
      rw [hframe]
      exact ⟨rfl, rfl, rfl⟩
    apply ShutterInv.of_removal hsplit hcomplete
    · apply hinv.ordered.of_map_eq
      simp [hlist, hends.1, hends.2.1]
    · refine ResultBatcher.forall_mem_replaced hlist ?_ ?_
      · exact fun b hb => hkeep (hinv.batches b hb)
      · exact hkeep (hbatch.congr hframe)
    · have hold : shuttersOf s.effects ++ s.batcher.mInflightBatches.flatMap (·.mShutterMsgs) =
          s.shutters := hinv.balance
      rw [hlist, List.flatMap_append, List.flatMap_cons] at hold
      rw [hdelivered, List.flatMap_append, List.flatMap_cons, hends.2.2]
      exact hold

/-- A batch that the frame of a new shutter lies outside of holds no shutter. -/
theorem ShutterInv.mShutterMsgs_eq_nil (hinv : s.ShutterInv) {frameNumber : Nat}
    {timestamp : Int} (hop : s.ShuttersIncrease (.notify (.shutter frameNumber timestamp)))
    (hheld : s.NoneHeldBack (.notify (.shutter frameNumber timestamp)))
    (hmem : batch ∈ s.batcher.mInflightBatches)
    (houtside : frameNumber < batch.mFirstFrame ∨ batch.mLastFrame < frameNumber) :
    batch.mShutterMsgs = [] := by
  rcases houtside with hahead | hbehind
  · -- a shutter queued further ahead would have come before this one
    rw [List.eq_nil_iff_forall_not_mem]
    intro msg hmsg
    obtain ⟨hcame, hfirst, -⟩ := (hinv.batches batch hmem).queued msg hmsg
    have hlt := hop msg hcame
    omega
  · exact hheld batch hmem hbehind

/-- A shutter in its batch is queued behind the others; that of the last frame sends them
all. -/
theorem BatchShutters.notifyShutter (h : s.BatchShutters batch) {frameNumber : Nat}
    {timestamp : Int} (hop : s.ShuttersIncrease (.notify (.shutter frameNumber timestamp)))
    (hfirst : batch.mFirstFrame ≤ frameNumber) (hlast : frameNumber ≤ batch.mLastFrame) :
    (s.next (.notify (.shutter frameNumber timestamp))).BatchShutters
        (batch.notifyShutter (.shutter frameNumber timestamp)).2 ∧
      shuttersOf (batch.notifyShutter (.shutter frameNumber timestamp)).1 ++
          (batch.notifyShutter (.shutter frameNumber timestamp)).2.mShutterMsgs =
        batch.mShutterMsgs ++ [.shutter frameNumber timestamp] := by
  have hcame : (s.next (.notify (.shutter frameNumber timestamp))).shutters =
      s.shutters ++ [.shutter frameNumber timestamp] := by
    simp [next, shutters, NotifyMsg.isShutter]
  -- Had the shutter of the last frame come, this one would not be later than it.
  have hopen : batch.mShutterDelivered = false := by
    rw [← Bool.not_eq_true]
    intro hdelivered
    obtain ⟨-, msg, hmsg, hframe⟩ := h.delivered hdelivered
    have hlt := hop msg hmsg
    omega
  have hqueued : ∀ msg ∈ batch.mShutterMsgs ++ [.shutter frameNumber timestamp],
      msg ∈ s.shutters ++ [.shutter frameNumber timestamp] ∧
        batch.mFirstFrame ≤ msg.frameNumber ∧ msg.frameNumber ≤ batch.mLastFrame := by
    intro msg hmsg
    rcases List.mem_append.mp hmsg with hold | hnew
    · exact (h.queued msg hold).imp_left (List.mem_append_left _)
    · refine ⟨List.mem_append_right _ hnew, ?_⟩
      rw [List.mem_singleton.mp hnew]
      exact ⟨hfirst, hlast⟩
  by_cases heq : frameNumber = batch.mLastFrame
  · have hsection : batch.notifyShutter (.shutter frameNumber timestamp) =
        ([.notify (batch.mShutterMsgs ++ [.shutter frameNumber timestamp])],
          { batch with mShutterDelivered := true, mShutterMsgs := [] }) := by
      simp [InflightBatch.notifyShutter, h.present, NotifyMsg.frameNumber, heq,
        InflightBatch.sendBatchShutterCbsLocked, hopen]
    rw [hsection]
    refine ⟨⟨h.present, by simp, ?_⟩, ?_⟩
    · intro _
      refine ⟨rfl, .shutter frameNumber timestamp, ?_, heq⟩
      rw [hcame]
      exact List.mem_append_right _ (List.mem_singleton_self _)
    · simp only [shuttersOf_notify, shuttersOf_nil, List.filter_append, h.filter_isShutter,
        List.append_nil]
      rfl
  · have hsection : batch.notifyShutter (.shutter frameNumber timestamp) =
        ([], { batch with
          mShutterMsgs := batch.mShutterMsgs ++ [.shutter frameNumber timestamp] }) := by
      simp [InflightBatch.notifyShutter, h.present, NotifyMsg.frameNumber, heq]
    rw [hsection]
    refine ⟨⟨h.present, ?_, ?_⟩, rfl⟩
    · rw [hcame]
      exact hqueued
    · intro hdelivered
      rw [hopen] at hdelivered
      cases hdelivered

/-- A shutter is queued in its batch or sent, and leaves none of an earlier frame behind. -/
theorem ShutterInv.notifyShutter (hinv : s.ShutterInv) {frameNumber : Nat} {timestamp : Int}
    (hop : s.ShuttersIncrease (.notify (.shutter frameNumber timestamp)))
    (hheld : s.NoneHeldBack (.notify (.shutter frameNumber timestamp))) :
    (s.next (.notify (.shutter frameNumber timestamp))).ShutterInv := by
  have hcame : (s.next (.notify (.shutter frameNumber timestamp))).shutters =
      s.shutters ++ [.shutter frameNumber timestamp] := by
    simp [next, shutters, NotifyMsg.isShutter]
  have hkeep : ∀ {b}, s.BatchShutters b →
      (s.next (.notify (.shutter frameNumber timestamp))).BatchShutters b := by
    intro b h
    apply h.mono
    intro msg hmsg
    rw [hcame]
    exact List.mem_append_left _ hmsg
  have hold : shuttersOf s.effects ++ s.batcher.mInflightBatches.flatMap (·.mShutterMsgs) =
      s.shutters := hinv.balance
  have hpresent := fun b hb => (hinv.batches b hb).present
  rcases s.batcher.notify_shutter_split hpresent frameNumber timestamp with
    ⟨hnone, heq⟩ | ⟨before, batch, after, removed, fds, batcher, heq, hlist, hfirst, hlast, hsplit,
      hcomplete, -, -⟩
  case inl =>
    -- the shutter goes up alone, and nothing is queued that it could overtake
    have houtside := ResultBatcher.not_contains_of_getBatch_eq_none hinv.ordered hnone
    have hempty : s.batcher.mInflightBatches.flatMap (·.mShutterMsgs) = [] := by
      rw [List.flatMap_eq_nil_iff]
      intro b hb
      exact hinv.mShutterMsgs_eq_nil hop hheld hb (houtside b hb)
    have hnext : s.next (.notify (.shutter frameNumber timestamp)) =
        { s with
          effects := s.effects ++ notifySingleMsg (.shutter frameNumber timestamp)
          notified := s.notified ++ [.shutter frameNumber timestamp] } := by
      simp only [next, BatcherState.next, heq]
    rw [hempty, List.append_nil] at hold
    refine ⟨by rw [hnext]; exact hinv.ordered, ?_, ?_⟩
    · intro b hb
      rw [hnext] at hb
      exact hkeep (hinv.batches b hb)
    · rw [ShuttersInOrder, hcame, ← hold, hnext]
      simp [queuedShutters, hempty, notifySingleMsg, NotifyMsg.isShutter]
  case inr =>
    have hbatch := hinv.batches batch (by simp [hlist])
    obtain ⟨hinvBatch, hconserves⟩ := hbatch.notifyShutter hop hfirst hlast
    have hends := batch.notifyShutter_frame (.shutter frameNumber timestamp)
    -- the other batches hold no shutter that this one could overtake
    have hothers : (before ++ after).flatMap (·.mShutterMsgs) = [] := by
      rw [List.flatMap_eq_nil_iff]
      intro b hb
      have hmem : b ∈ s.batcher.mInflightBatches := by
        rw [hlist, List.mem_append, List.mem_cons]
        exact (List.mem_append.mp hb).imp_right .inr
      exact hinv.mShutterMsgs_eq_nil hop hheld hmem
        ((hlist ▸ hinv.ordered).outside hfirst hlast b hb)
    rw [List.flatMap_append, List.append_eq_nil_iff] at hothers
    have hnext : s.next (.notify (.shutter frameNumber timestamp)) =
        { s with
          batcher
          effects := s.effects ++
            ((batch.notifyShutter (.shutter frameNumber timestamp)).1 ++ closeAll fds)
          notified := s.notified ++ [.shutter frameNumber timestamp] } := by
      simp only [next, BatcherState.next, heq]
    have hdeque : (s.next (.notify (.shutter frameNumber timestamp))).batcher = batcher := by
      rw [hnext]
    rw [← hdeque] at hsplit
    apply ShutterInv.of_removal hsplit hcomplete
    · apply hinv.ordered.of_map_eq
      rw [hlist, hends]
      simp
    · refine ResultBatcher.forall_mem_replaced hlist ?_ ?_
      · exact fun b hb => hkeep (hinv.batches b hb)
      · exact hinvBatch
    · rw [hlist, List.flatMap_append, List.flatMap_cons, hothers.1, hothers.2, List.nil_append,
        List.append_nil] at hold
      rw [List.flatMap_append, List.flatMap_cons, hothers.1, hothers.2, List.nil_append,
        List.append_nil, hcame, ← hold]
      simp only [hnext, shuttersOf_append, shuttersOf_closeAll, List.append_nil]
      rw [List.append_assoc, hconserves, List.append_assoc]

/-- What the batches up to the one of an error hold is what the error sends before itself. -/
theorem ShutterInv.flushes (hinv : s.ShutterInv) {n : Nat} {effects : List Effect}
    {removed : List InflightBatch} {batcher : ResultBatcher}
    (h : s.batcher.flushBatches n = some (effects, removed, batcher)) :
    shuttersOf effects = (s.batcher.mInflightBatches.take n).flatMap (·.mShutterMsgs) := by
  rw [ResultBatcher.shuttersOf_flushBatches h]
  apply List.flatMap_congr
  intro b hb
  exact (hinv.batches b (List.mem_of_mem_take hb)).flush _ _

/-- An error sends the shutters of the batches up to its own, in their order. -/
theorem ShutterInv.notifyError (hinv : s.ShutterInv) (frameNumber : Nat) (errorStreamId : Int)
    (errorCode : ErrorCode) :
    (s.next (.notify (.error frameNumber errorStreamId errorCode))).ShutterInv := by
  have hcame : (s.next (.notify (.error frameNumber errorStreamId errorCode))).shutters =
      s.shutters := by
    simp [next, shutters, NotifyMsg.isShutter]
  have hold : shuttersOf s.effects ++ s.batcher.mInflightBatches.flatMap (·.mShutterMsgs) =
      s.shutters := hinv.balance
  have hkeep : ∀ {b}, s.BatchShutters b →
      (s.next (.notify (.error frameNumber errorStreamId errorCode))).BatchShutters b := by
    intro b h
    exact h.mono fun msg hmsg => by rwa [hcame]
  rcases s.batcher.notify_error_split frameNumber errorStreamId errorCode with
    ⟨-, heq⟩ | ⟨i, batch, effects, removed, fds, -, hlt, hflush, heq⟩
  · have hnext : s.next (.notify (.error frameNumber errorStreamId errorCode)) =
        { s with
          effects := s.effects ++
            notifySingleMsg (.error frameNumber errorStreamId errorCode)
          notified := s.notified ++ [.error frameNumber errorStreamId errorCode] } := by
      simp only [next, BatcherState.next, heq]
    refine ⟨by rw [hnext]; exact hinv.ordered, ?_, ?_⟩
    · intro b hb
      rw [hnext] at hb
      exact hkeep (hinv.batches b hb)
    · rw [ShuttersInOrder, hcame, hnext]
      simpa [queuedShutters, notifySingleMsg, NotifyMsg.isShutter] using hold
  · have hnext : s.next (.notify (.error frameNumber errorStreamId errorCode)) =
        { s with
          batcher := { s.batcher with
            mInflightBatches := s.batcher.mInflightBatches.drop (i + 1) }
          effects := s.effects ++ (effects ++
            notifySingleMsg (.error frameNumber errorStreamId errorCode) ++ closeAll fds)
          notified := s.notified ++ [.error frameNumber errorStreamId errorCode] } := by
      simp only [next, BatcherState.next, heq]
    refine ⟨?_, ?_, ?_⟩
    · rw [hnext]
      exact hinv.ordered.of_sublist (List.drop_sublist _ _)
    · intro b hb
      rw [hnext] at hb
      exact hkeep (hinv.batches b (List.mem_of_mem_drop hb))
    · rw [← List.take_append_drop (i + 1) s.batcher.mInflightBatches, List.flatMap_append,
        ← hinv.flushes hflush] at hold
      rw [ShuttersInOrder, hcame, ← hold, hnext]
      simp [queuedShutters, notifySingleMsg, NotifyMsg.isShutter]

/-- Every operation keeps the invariant, as long as no shutter overtakes one that is held back. -/
theorem ShutterInv.next (hinv : s.ShutterInv) {op : BatcherOp}
    (hop : s.ShuttersIncrease op) (hheld : s.NoneHeldBack op) : (s.next op).ShutterInv := by
  cases op with
  | setBatchedStreams streamsToBatch => exact hop.elim
  | registerBatch frameNumber batchSize => exact hinv.registerBatch hop
  | processCaptureResult result => exact hinv.processCaptureResult result
  | notify msg =>
      cases msg with
      | shutter frameNumber timestamp => exact hinv.notifyShutter hop hheld
      | error frameNumber errorStreamId errorCode =>
          exact hinv.notifyError frameNumber errorStreamId errorCode

end

theorem shutterInv_initial (numPartialResults : Nat) (streamsToBatch : List Int) :
    (initial numPartialResults streamsToBatch).ShutterInv :=
  ⟨OrderedIntervals.nil, by simp [initial], rfl⟩

end NotifyState

end LgeHardware.Camera
