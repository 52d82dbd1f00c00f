import LgeHardware.Camera.RequestRace
import Mathlib.Data.Set.Basic
import Mathlib.Order.MinMax

/-! # Batches drain

A batch leaves the deque when it is at the head and an event of its last frame finds
its shutter, its final metadata and its buffers all sent. Callbacks come in the order
of the requests, kind by kind, so an earlier batch is complete no later than a later
one, and the event that completes a batch finds it at the head. This needs that the
batch is in the deque when the callbacks of its last frame come: what came before the
batch was registered went up unbatched, and the batch waits for it forever.
-/

namespace LgeHardware.Camera

open LgeHardware.Foundation

/-! ## Dropping the head of the deque -/

/-- A deque without its first batch, if that is complete. -/
def dropComplete : List InflightBatch → List InflightBatch
  | [] => []
  | first :: rest => if first.allDelivered then rest else first :: rest

theorem dropComplete_of_incomplete {batches : List InflightBatch}
    (h : ∀ batch ∈ batches, ¬ batch.allDelivered = true) : dropComplete batches = batches := by
  cases batches with
  | nil => rfl
  | cons first rest => exact if_neg (h first List.mem_cons_self)

namespace ResultBatcher

theorem finishLastFrame_mInflightBatches (s : ResultBatcher) (batch : InflightBatch)
    (frameNumber : Nat) :
    (s.finishLastFrame batch frameNumber).2.mInflightBatches =
      if frameNumber = batch.mLastFrame then dropComplete s.mInflightBatches
      else s.mInflightBatches := by
  unfold finishLastFrame
  split
  next =>
    dsimp only
    unfold checkAndRemoveFirstBatch
    cases hlist : s.mInflightBatches with
    | nil => exact hlist
    | cons first rest =>
        dsimp only [dropComplete]
        split
        next => rfl
        next => exact hlist
  next => rfl

/-- A frame of a batch: after the section on the batch, the deque has the new batch in its
place, and its head goes if the frame is the last one and the head is complete. -/
theorem finishLastFrame_setBatch {s : ResultBatcher} {frameNumber i : Nat} {batch : InflightBatch}
    (hget : s.getBatch frameNumber = some (i, batch)) :
    ∃ before after, s.mInflightBatches = before ++ batch :: after ∧
      batch.mFirstFrame ≤ frameNumber ∧ frameNumber ≤ batch.mLastFrame ∧
      ∀ queued, ((s.setBatch i queued).finishLastFrame batch frameNumber).2.mInflightBatches =
        if frameNumber = batch.mLastFrame then dropComplete (before ++ queued :: after)
        else before ++ queued :: after := by
  obtain ⟨hat, hfirst, hlast⟩ := getBatch_eq_some hget
  obtain ⟨before, after, hlist, -, hset⟩ := exists_split hat
  refine ⟨before, after, hlist, hfirst, hlast, fun queued => ?_⟩
  rw [finishLastFrame_mInflightBatches, hset]

end ResultBatcher

/-! ## The system -/

/-- The race of requests and callbacks, with the shutters that came. -/
structure BatchRace where
  race : RaceState
  /-- The frames whose shutter was notified, in order. -/
  shutters : List Nat := []

namespace BatchRace

def initial (numPartialResults : Nat) : BatchRace :=
  { race := RaceState.initial numPartialResults }

def next (s : BatchRace) (op : RaceOp) : BatchRace :=
  { race := s.race.next op
    shutters := s.shutters ++ match op with
      | .notify (.shutter frameNumber _) => [frameNumber]
      | _ => [] }

def batcher (s : BatchRace) : ResultBatcher := s.race.batcherState.batcher

/-- The frames submitted to the HAL, in order. -/
def frames (s : BatchRace) : List Nat := s.race.submitted.map (·.frameNumber)

/-- The result carries the last part of the metadata of its frame. -/
def isFinal (s : BatchRace) (result : CaptureResult) : Bool :=
  decide (0 < result.partialResult) &&
    decide (s.batcher.mNumPartialResults ≤ result.partialResult)

/-- The frames whose final metadata came, in order. -/
def finals (s : BatchRace) : List Nat :=
  (s.race.batcherState.results.filter s.isFinal).map (·.frameNumber)

/-- The HAL calls back in the order of the requests, kind by kind. -/
def DrainContract (s : BatchRace) (op : RaceOp) : Prop :=
  s.race.RaceContract op ∧
    match op with
    | .notify (.shutter frameNumber _) => s.shutters ++ [frameNumber] <+: s.frames
    | .processCaptureResult result =>
        s.isFinal result = true → s.finals ++ [result.frameNumber] <+: s.frames
    | _ => True

instance (s : BatchRace) : (op : RaceOp) → Decidable (s.DrainContract op)
  | .notify (.shutter frameNumber _) =>
      inferInstanceAs (Decidable (_ ∧ s.shutters ++ [frameNumber] <+: s.frames))
  | .processCaptureResult result => inferInstanceAs (Decidable
      (_ ∧ (s.isFinal result = true → s.finals ++ [result.frameNumber] <+: s.frames)))
  | .notify (.error ..) | .processCaptureRequest _ | .processOneCaptureRequest _
  | .returnStatus | .setBatchedStreams _ => inferInstanceAs (Decidable (_ ∧ True))

/-- The requests are registered ahead of the callbacks of the frame that `registerBatch`
takes for the last one of the batch. -/
def RegisteredAhead (s : BatchRace) (requests : List CaptureRequest) : Prop :=
  ∃ last ∈ requests,
    last.frameNumber + 1 = (requests.head?.map (·.frameNumber)).getD 0 + requests.length ∧
    last.frameNumber ∉ s.shutters ∧
    (0 < s.batcher.mNumPartialResults → last.frameNumber ∉ s.finals) ∧
    ∀ streamId ∈ s.batcher.mStreamsToBatch,
      ¬ s.race.batcherState.Returned streamId last.frameNumber

instance (s : BatchRace) (requests : List CaptureRequest) :
    Decidable (s.RegisteredAhead requests) :=
  inferInstanceAs (Decidable (∃ last ∈ requests, _))

/-- The interleavings in which every batch is registered ahead. -/
def AheadContract (s : BatchRace) (op : RaceOp) : Prop :=
  s.DrainContract op ∧ (op = .returnStatus → ∀ call ∈ s.race.call,
    call.failed = false → 1 < call.requests.length → s.RegisteredAhead call.requests)

instance (s : BatchRace) (op : RaceOp) : Decidable (s.AheadContract op) := by
  unfold AheadContract
  infer_instance

/-- No call is in progress, and all callbacks of all submitted frames have come. -/
def Quiescent (s : BatchRace) : Prop :=
  s.race.call = none ∧ ∀ request ∈ s.race.submitted,
    request.frameNumber ∈ s.shutters ∧ request.frameNumber ∈ s.finals ∧
      ∀ streamId ∈ request.outputStreams,
        s.race.batcherState.Returned streamId request.frameNumber

instance (s : BatchRace) : Decidable s.Quiescent := inferInstanceAs (Decidable (_ ∧ _))

def Drained (s : BatchRace) : Prop := s.Quiescent → s.batcher.mInflightBatches = []

instance (s : BatchRace) : Decidable s.Drained := inferInstanceAs (Decidable (_ → _))

/-! ## The invariant -/

/-- What callbacks leave alone of a batch: its frames and its streams. -/
structure Shape where
  first : Nat
  last : Nat
  streams : Set Int

/-- All buffers of the last frame have come back. -/
def AllReturned (s : BatchRace) (shape : Shape) : Prop :=
  ∀ streamId ∈ shape.streams, s.race.batcherState.Returned streamId shape.last

/-- All callbacks of the last frame have come. -/
structure Processed (s : BatchRace) (shape : Shape) : Prop where
  shutter : shape.last ∈ s.shutters
  metadata : 0 < s.batcher.mNumPartialResults → shape.last ∈ s.finals
  buffers : s.AllReturned shape

/-- What has come is in the order of the requests. -/
structure InOrder (s : BatchRace) : Prop where
  sorted : s.frames.Pairwise (· < ·)
  shutters : s.shutters <+: s.frames
  finals : s.finals <+: s.frames
  returned : ∀ streamId, (s.race.batcherState.received streamId).map (·.halFrame) <+:
    s.race.submittedOn streamId

/-- Where the batches of the deque come from: each ends with a submitted frame that
outputs to all its streams, and a later one has no fewer streams, unless streams were
configured in between, when all buffers were back. -/
structure Placed (s : BatchRace) (shapes : List Shape) : Prop where
  ordered : OrderedIntervals Shape.first Shape.last shapes
  covered : ∀ shape ∈ shapes, ∃ request ∈ s.race.submitted, request.frameNumber = shape.last ∧
    ∀ streamId ∈ shape.streams, streamId ∈ request.outputStreams
  current : ∀ shape ∈ shapes,
    (∀ streamId ∈ shape.streams, streamId ∈ s.batcher.mStreamsToBatch) ∨ s.AllReturned shape
  nested : shapes.Pairwise fun earlier later =>
    earlier.streams ⊆ later.streams ∨ s.AllReturned earlier

end BatchRace

def InflightBatch.shape (batch : InflightBatch) : BatchRace.Shape where
  first := batch.mFirstFrame
  last := batch.mLastFrame
  streams := { streamId | streamId ∈ batch.mBatchBufs }

namespace BatchRace

/-- The marks of a batch tell what has come for its last frame. -/
structure Tracks (s : BatchRace) (batch : InflightBatch) : Prop where
  present : batch.mRemoved = false
  settled : batch.Settled
  number : batch.mNumPartialResults = s.batcher.mNumPartialResults
  shutter : batch.mShutterDelivered = true ↔ batch.mLastFrame ∈ s.shutters
  metadata : s.batcher.mNumPartialResults ≤ batch.mPartialResultProgress ↔
    (0 < s.batcher.mNumPartialResults → batch.mLastFrame ∈ s.finals)
  buffers : ∀ (streamId : Int) (bb : BufferBatch), batch.mBatchBufs[streamId]? = some bb →
    (bb.mDelivered = true ↔ s.race.batcherState.Returned streamId batch.mLastFrame)

structure DrainInv (s : BatchRace) : Prop where
  inOrder : s.InOrder
  placed : s.Placed (s.batcher.mInflightBatches.map (·.shape))
  tracks : ∀ batch ∈ s.batcher.mInflightBatches, s.Tracks batch
  waiting : ∀ batch ∈ s.batcher.mInflightBatches, ¬ s.Processed batch.shape
  call : ∀ call, s.race.call = some call → s.race.CallInv call

section

variable {s : BatchRace}

/-- A batch that is tracked is complete exactly if all callbacks of its last frame have come. -/
theorem Tracks.allDelivered_iff {batch : InflightBatch} (h : s.Tracks batch) :
    batch.allDelivered = true ↔ s.Processed batch.shape := by
  rw [InflightBatch.allDelivered_eq_true_iff, h.shutter, h.number, h.metadata]
  constructor
  · rintro ⟨hshutter, hmetadata, hdelivered⟩
    refine ⟨hshutter, hmetadata, ?_⟩
    intro streamId hkey
    obtain ⟨bb, hbb⟩ := Std.ExtTreeMap.exists_getElem?_of_mem hkey
    exact (h.buffers streamId bb hbb).mp (hdelivered streamId bb hbb)
  · intro hdone
    refine ⟨hdone.shutter, hdone.metadata, ?_⟩
    intro streamId bb hbb
    apply (h.buffers streamId bb hbb).mpr
    exact hdone.buffers streamId (Std.ExtTreeMap.mem_of_getElem? hbb)

theorem isFinal_congr {s' : BatchRace}
    (hnumber : s'.batcher.mNumPartialResults = s.batcher.mNumPartialResults) :
    s'.isFinal = s.isFinal := by
  funext result
  rw [isFinal, isFinal, hnumber]

theorem finals_congr {s' : BatchRace}
    (hnumber : s'.batcher.mNumPartialResults = s.batcher.mNumPartialResults)
    (hresults : s'.race.batcherState.results = s.race.batcherState.results) :
    s'.finals = s.finals := by
  rw [finals, isFinal_congr hnumber, hresults, finals]

/-- The marks of a batch depend on what has come only. -/
theorem Tracks.congr {s' : BatchRace} {batch : InflightBatch} (h : s.Tracks batch)
    (hshutters : s'.shutters = s.shutters)
    (hnumber : s'.batcher.mNumPartialResults = s.batcher.mNumPartialResults)
    (hresults : s'.race.batcherState.results = s.race.batcherState.results) :
    s'.Tracks batch := by
  refine ⟨h.present, h.settled, h.number.trans hnumber.symm, ?_, ?_, ?_⟩
  · rw [hshutters]
    exact h.shutter
  · rw [hnumber, finals_congr hnumber hresults]
    exact h.metadata
  · rw [BatcherState.returned_congr hresults]
    exact h.buffers

theorem Processed.congr {s' : BatchRace} {shape : Shape} (h : s'.Processed shape)
    (hshutters : s'.shutters = s.shutters)
    (hnumber : s'.batcher.mNumPartialResults = s.batcher.mNumPartialResults)
    (hresults : s'.race.batcherState.results = s.race.batcherState.results) :
    s.Processed shape := by
  refine ⟨hshutters ▸ h.shutter, ?_, ?_⟩
  · rw [← hnumber, ← finals_congr hnumber hresults]
    exact h.metadata
  · rw [AllReturned, ← BatcherState.returned_congr hresults]
    exact h.buffers

/-- A prefix of an increasing list skips nothing below what it holds. -/
theorem mem_past_of_lt {frames past : List Nat} (hsorted : frames.Pairwise (· < ·))
    (hpast : past <+: frames) {frame other : Nat} (hframe : frame ∈ past)
    (hother : other ∈ frames) (hlt : other < frame) : other ∈ past := by
  obtain ⟨before, after, rfl⟩ := List.append_of_mem hframe
  rw [List.append_cons] at hpast
  have hbefore := RaceState.mem_of_prefix hsorted ((List.prefix_append _ _).trans hpast) hother hlt
  exact List.mem_append_left _ hbefore

/-- Complete batches are at the head: one before a complete one is complete. -/
theorem Placed.processed_of_later {shapes before after : List Shape} {later : Shape}
    (hplaced : s.Placed shapes) (hshapes : shapes = before ++ later :: after)
    (horder : s.InOrder) (hdone : s.Processed later) {earlier : Shape}
    (hearlier : earlier ∈ before) : s.Processed earlier := by
  subst hshapes
  have hlater : later ∈ before ++ later :: after := by simp
  have hmem : earlier ∈ before ++ later :: after := List.mem_append_left _ hearlier
  have hlt : earlier.last < later.last := by
    have hsep := (List.pairwise_append.mp hplaced.ordered.separated).2.2 earlier hearlier later
      List.mem_cons_self
    have hnonempty := hplaced.ordered.nonempty later hlater
    omega
  obtain ⟨request, hrequest, hframe, houtputs⟩ := hplaced.covered earlier hmem
  have hframes : earlier.last ∈ s.frames := by
    rw [← hframe]
    exact List.mem_map_of_mem hrequest
  refine ⟨mem_past_of_lt horder.sorted horder.shutters hdone.shutter hframes hlt,
    fun hpos => mem_past_of_lt horder.sorted horder.finals (hdone.metadata hpos) hframes hlt, ?_⟩
  rcases (List.pairwise_append.mp hplaced.nested).2.2 earlier hearlier later List.mem_cons_self with
    hsub | hreturned
  · intro streamId hstream
    have hlast := hdone.buffers streamId (hsub hstream)
    rw [BatcherState.returned_iff] at hlast ⊢
    apply mem_past_of_lt (RaceState.sorted_submittedOn horder.sorted streamId)
      (horder.returned streamId) hlast ?_ hlt
    rw [← hframe]
    apply List.mem_map_of_mem
    rw [List.mem_filter, decide_eq_true_eq]
    exact ⟨hrequest, houtputs streamId hstream⟩
  · exact hreturned

end

/-! ## Callbacks -/

/-- Nothing changes but what has come for one frame, if any. -/
structure Callback (s s' : BatchRace) (frame : Option Nat) : Prop where
  submitted : s'.race.submitted = s.race.submitted
  call : s'.race.call = s.race.call
  streams : s'.batcher.mStreamsToBatch = s.batcher.mStreamsToBatch
  number : s'.batcher.mNumPartialResults = s.batcher.mNumPartialResults
  shutters : ∀ other, frame ≠ some other → (other ∈ s'.shutters ↔ other ∈ s.shutters)
  finals : ∀ other, frame ≠ some other → (other ∈ s'.finals ↔ other ∈ s.finals)
  returned : ∀ streamId other, frame ≠ some other →
    (s'.race.batcherState.Returned streamId other ↔ s.race.batcherState.Returned streamId other)
  kept : ∀ streamId other, s.race.batcherState.Returned streamId other →
    s'.race.batcherState.Returned streamId other

section

variable {s s' : BatchRace} {frame : Option Nat}

theorem Callback.allReturned (hcallback : Callback s s' frame) {shape : Shape}
    (h : s.AllReturned shape) : s'.AllReturned shape :=
  fun streamId hstream => hcallback.kept streamId shape.last (h streamId hstream)

/-- A callback for another frame completes nothing. -/
theorem Callback.processed_iff (hcallback : Callback s s' frame) {shape : Shape}
    (hother : frame ≠ some shape.last) : s'.Processed shape ↔ s.Processed shape := by
  have hshutter := hcallback.shutters shape.last hother
  have hfinal := hcallback.finals shape.last hother
  have hreturned := fun streamId => hcallback.returned streamId shape.last hother
  constructor
  · rintro ⟨hcame, hmetadata, hbuffers⟩
    rw [hcallback.number, hfinal] at hmetadata
    exact ⟨hshutter.mp hcame, hmetadata,
      fun streamId hstream => (hreturned streamId).mp (hbuffers streamId hstream)⟩
  · rintro ⟨hcame, hmetadata, hbuffers⟩
    rw [← hcallback.number, ← hfinal] at hmetadata
    exact ⟨hshutter.mpr hcame, hmetadata,
      fun streamId hstream => (hreturned streamId).mpr (hbuffers streamId hstream)⟩

/-- A callback for another frame concerns no mark of the batch. -/
theorem Tracks.other {batch : InflightBatch} (h : s.Tracks batch)
    (hcallback : Callback s s' frame) (hother : frame ≠ some batch.mLastFrame) :
    s'.Tracks batch := by
  refine ⟨h.present, h.settled, h.number.trans hcallback.number.symm,
    h.shutter.trans (hcallback.shutters _ hother).symm, ?_, ?_⟩
  · rw [hcallback.number, hcallback.finals _ hother]
    exact h.metadata
  · intro streamId bb hbb
    exact (h.buffers streamId bb hbb).trans (hcallback.returned streamId _ hother).symm

theorem Placed.callback {shapes kept : List Shape} (h : s.Placed shapes)
    (hcallback : Callback s s' frame) (hsub : kept.Sublist shapes) : s'.Placed kept := by
  refine ⟨h.ordered.of_sublist hsub, ?_, ?_, ?_⟩
  · intro shape hmem
    rw [hcallback.submitted]
    exact h.covered shape (hsub.subset hmem)
  · intro shape hmem
    rw [hcallback.streams]
    exact (h.current shape (hsub.subset hmem)).imp_right hcallback.allReturned
  · exact (h.nested.sublist hsub).imp fun hnested => hnested.imp_right hcallback.allReturned

/-- After a callback that keeps the shapes of the batches and may drop some of them,
the marks and the missing callbacks of those left are what is to be shown. -/
theorem DrainInv.callback (hinv : s.DrainInv) (hcallback : Callback s s' frame)
    (horder : s'.InOrder) {batches : List InflightBatch}
    (hshapes : batches.map (·.shape) = s.batcher.mInflightBatches.map (·.shape))
    (hsub : s'.batcher.mInflightBatches.Sublist batches)
    (htracks : ∀ batch ∈ s'.batcher.mInflightBatches, s'.Tracks batch)
    (hwaiting : ∀ batch ∈ s'.batcher.mInflightBatches, ¬ s'.Processed batch.shape) :
    s'.DrainInv := by
  have hkept := hsub.map InflightBatch.shape
  rw [hshapes] at hkept
  refine ⟨horder, hinv.placed.callback hcallback hkept, htracks, hwaiting, ?_⟩
  intro call hcall
  rw [hcallback.call] at hcall
  refine (hinv.call call hcall).of_callback hcallback.submitted hcallback.streams ?_
  intro after hafter
  obtain ⟨batch, hbatch, heq⟩ := List.mem_map.mp (hkept.subset (List.mem_map_of_mem hafter))
  exact ⟨batch, hbatch, (congrArg Shape.last heq).symm⟩

/-- The batches are in order, as their shapes are. -/
theorem DrainInv.ordered (hinv : s.DrainInv) :
    ResultBatcher.Ordered s.batcher.mInflightBatches :=
  (OrderedIntervals.map_iff (f := InflightBatch.shape)).mp hinv.placed.ordered

/-- A callback outside all batches, or one that only removes batches. -/
theorem DrainInv.outside (hinv : s.DrainInv) (hcallback : Callback s s' frame)
    (horder : s'.InOrder)
    (hsub : s'.batcher.mInflightBatches.Sublist s.batcher.mInflightBatches)
    (hother : ∀ batch ∈ s.batcher.mInflightBatches, frame ≠ some batch.mLastFrame) :
    s'.DrainInv := by
  refine hinv.callback hcallback horder rfl hsub ?_ ?_
  · intro batch hmem
    have hbatch := hsub.subset hmem
    exact (hinv.tracks batch hbatch).other hcallback (hother batch hbatch)
  · intro batch hmem
    have hbatch := hsub.subset hmem
    rw [hcallback.processed_iff (hother batch hbatch)]
    exact hinv.waiting batch hbatch

/-- A frame outside all batches is the last one of none. -/
theorem DrainInv.ne_last (hinv : s.DrainInv) {frameNumber : Nat}
    (hget : s.batcher.getBatch frameNumber = none) :
    ∀ batch ∈ s.batcher.mInflightBatches, some frameNumber ≠ some batch.mLastFrame := by
  intro batch hmem heq
  have hout := ResultBatcher.not_contains_of_getBatch_eq_none hinv.ordered hget batch hmem
  have hnonempty := hinv.ordered.nonempty batch hmem
  have hframe := Option.some.inj heq
  omega

section

variable {frameNumber : Nat} {before after : List InflightBatch} {batch queued : InflightBatch}

/-- A callback for a frame of one batch leaves the others as they were. -/
theorem DrainInv.beside (hinv : s.DrainInv) (hcallback : Callback s s' (some frameNumber))
    (hlist : s.batcher.mInflightBatches = before ++ batch :: after)
    (hfirst : batch.mFirstFrame ≤ frameNumber) (hlast : frameNumber ≤ batch.mLastFrame) :
    ∀ b, b ∈ before ∨ b ∈ after → s'.Tracks b ∧ ¬ s'.Processed b.shape := by
  have hordered : ResultBatcher.Ordered (before ++ batch :: after) := by
    rw [← hlist]
    exact hinv.ordered
  have haround := hordered.around hfirst hlast
  intro b hb
  have hmem : b ∈ s.batcher.mInflightBatches := by
    rw [hlist, List.mem_append, List.mem_cons]
    exact hb.imp_right .inr
  have hne : some frameNumber ≠ some b.mLastFrame := by
    intro heq
    obtain rfl := Option.some.inj heq
    rcases hb with hb | hb
    · exact absurd (haround.1 b hb) (lt_irrefl _)
    · have hlt := haround.2 b hb
      have hnonempty := hordered.nonempty b (by simp [hb])
      omega
  refine ⟨(hinv.tracks b hmem).other hcallback hne, ?_⟩
  rw [hcallback.processed_iff hne]
  exact hinv.waiting b hmem

/-- A callback for a frame of a batch. If it is the last callback the batch waits for,
then the batches before it are complete, so there are none, and the batch goes. -/
theorem DrainInv.inside (hinv : s.DrainInv) (hcallback : Callback s s' (some frameNumber))
    (horder : s'.InOrder) (hlist : s.batcher.mInflightBatches = before ++ batch :: after)
    (hfirst : batch.mFirstFrame ≤ frameNumber) (hlast : frameNumber ≤ batch.mLastFrame)
    (hshape : queued.shape = batch.shape) (htracks : s'.Tracks queued)
    (hdeque : s'.batcher.mInflightBatches =
      if frameNumber = batch.mLastFrame then dropComplete (before ++ queued :: after)
      else before ++ queued :: after) : s'.DrainInv := by
  have hother := hinv.beside hcallback hlist hfirst hlast
  have hshapes : (before ++ queued :: after).map (·.shape) =
      s.batcher.mInflightBatches.map (·.shape) := by
    simp only [hlist, List.map_append, List.map_cons, hshape]
  by_cases hdone : s'.Processed queued.shape
  · have heq : frameNumber = batch.mLastFrame := by
      by_contra hne
      rw [hshape, hcallback.processed_iff (fun h => hne (Option.some.inj h))] at hdone
      exact hinv.waiting batch (by simp [hlist]) hdone
    have hplaced : s'.Placed ((before ++ queued :: after).map (·.shape)) := by
      rw [hshapes]
      exact hinv.placed.callback hcallback (List.Sublist.refl _)
    -- what is in front of a complete batch is complete, and no other batch is
    have hhead : before = [] := by
      rw [List.eq_nil_iff_forall_not_mem]
      intro b hb
      apply (hother b (.inl hb)).2
      exact hplaced.processed_of_later (by rw [List.map_append, List.map_cons]) horder hdone
        (List.mem_map_of_mem hb)
    subst hhead
    rw [if_pos heq, List.nil_append, dropComplete, if_pos (htracks.allDelivered_iff.mpr hdone)]
      at hdeque
    refine hinv.callback hcallback horder hshapes ?_ ?_ ?_
    · rw [hdeque]
      exact List.sublist_cons_self _ _
    · rw [hdeque]
      exact fun b hb => (hother b (.inr hb)).1
    · rw [hdeque]
      exact fun b hb => (hother b (.inr hb)).2
  · have hall : ∀ b ∈ before ++ queued :: after, s'.Tracks b ∧ ¬ s'.Processed b.shape := by
      intro b hb
      rw [List.mem_append, List.mem_cons] at hb
      rcases hb with hb | rfl | hb
      · exact hother b (.inl hb)
      · exact ⟨htracks, hdone⟩
      · exact hother b (.inr hb)
    have hkept : s'.batcher.mInflightBatches = before ++ queued :: after := by
      rw [hdeque, dropComplete_of_incomplete, ite_self]
      intro b hb
      rw [(hall b hb).1.allDelivered_iff]
      exact (hall b hb).2
    rw [← hkept] at hshapes hall
    exact hinv.callback hcallback horder hshapes (List.Sublist.refl _)
      (fun b hb => (hall b hb).1) fun b hb => (hall b hb).2

end

end

/-! ## Shutters and errors -/

section

variable {s : BatchRace}

theorem next_notify {msg : NotifyMsg} {effects : List Effect} {batcher : ResultBatcher}
    (heq : s.batcher.notify msg = some (effects, batcher)) :
    (s.next (.notify msg)).race =
      { s.race with
        batcherState := { s.race.batcherState with
          batcher
          effects := s.race.batcherState.effects ++ effects } } := by
  have hnotify : s.race.batcherState.batcher.notify msg = some (effects, batcher) := heq
  simp only [next, RaceState.next, BatcherState.next, hnotify]

/-- A message changes nothing but the deque and the shutters that came. -/
theorem Callback.notify {msg : NotifyMsg} {effects : List Effect} {batcher : ResultBatcher}
    (heq : s.batcher.notify msg = some (effects, batcher))
    (hstreams : batcher.mStreamsToBatch = s.batcher.mStreamsToBatch)
    (hnumber : batcher.mNumPartialResults = s.batcher.mNumPartialResults) {frame : Option Nat}
    (hshutters : ∀ other, frame ≠ some other →
      (other ∈ (s.next (.notify msg)).shutters ↔ other ∈ s.shutters)) :
    Callback s (s.next (.notify msg)) frame ∧ (s.next (.notify msg)).finals = s.finals := by
  have hrace := next_notify heq
  have hbatcher : (s.next (.notify msg)).batcher = batcher := by
    rw [BatchRace.batcher, hrace]
  have hfinals : (s.next (.notify msg)).finals = s.finals := by
    apply finals_congr
    · rw [hbatcher, hnumber]
    · rw [hrace]
  have hreturned : (s.next (.notify msg)).race.batcherState.Returned =
      s.race.batcherState.Returned := BatcherState.returned_congr (by rw [hrace])
  refine ⟨⟨by rw [hrace], by rw [hrace], by rw [hbatcher, hstreams], by rw [hbatcher, hnumber],
    hshutters, fun other _ => by rw [hfinals], fun streamId other _ => by rw [hreturned],
    fun streamId other h => by rwa [hreturned]⟩, hfinals⟩

/-- A message keeps the order if the shutters are still a prefix of the frames. -/
theorem InOrder.notify (horder : s.InOrder) {msg : NotifyMsg} {effects : List Effect}
    {batcher : ResultBatcher} (heq : s.batcher.notify msg = some (effects, batcher))
    (hfinals : (s.next (.notify msg)).finals = s.finals)
    (hshutters : (s.next (.notify msg)).shutters <+: s.frames) :
    (s.next (.notify msg)).InOrder := by
  have hrace := next_notify heq
  have hframes : (s.next (.notify msg)).frames = s.frames := by
    rw [frames, hrace]
    rfl
  refine ⟨by rw [hframes]; exact horder.sorted, by rw [hframes]; exact hshutters,
    by rw [hframes, hfinals]; exact horder.finals, ?_⟩
  rw [hrace]
  exact horder.returned

/-- The shutter of a frame of the batch. -/
theorem Tracks.notifyShutter {s' : BatchRace} {batch : InflightBatch} (h : s.Tracks batch)
    {frameNumber : Nat} (timestamp : Int) (hcallback : Callback s s' (some frameNumber))
    (hshutters : s'.shutters = s.shutters ++ [frameNumber]) (hfinals : s'.finals = s.finals)
    (hreturned : s'.race.batcherState.Returned = s.race.batcherState.Returned) :
    s'.Tracks (batch.notifyShutter (.shutter frameNumber timestamp)).2 := by
  have hsent := InflightBatch.notifyShutter_mShutterDelivered h.present
    (.shutter frameNumber timestamp)
  rw [InflightBatch.notifyShutter_frame]
  refine ⟨h.present, h.settled, h.number.trans hcallback.number.symm, ?_, ?_, ?_⟩
  · show (batch.notifyShutter (.shutter frameNumber timestamp)).2.mShutterDelivered = true ↔
      batch.mLastFrame ∈ s'.shutters
    rw [hsent, hshutters, Bool.or_eq_true, h.shutter, List.mem_append, List.mem_singleton,
      decide_eq_true_eq, eq_comm]
    exact Iff.rfl
  · rw [hcallback.number, hfinals]
    exact h.metadata
  · rw [hreturned]
    exact h.buffers

/-- The next shutter keeps the invariant: it is noted in the batch that it ends, and no batch that
is complete stays. -/
theorem DrainInv.notifyShutter (hinv : s.DrainInv) {frameNumber : Nat} {timestamp : Int}
    (hnext : s.shutters ++ [frameNumber] <+: s.frames) :
    (s.next (.notify (.shutter frameNumber timestamp))).DrainInv := by
  have hothers : ∀ other, some frameNumber ≠ some other →
      (other ∈ (s.next (.notify (.shutter frameNumber timestamp))).shutters ↔
        other ∈ s.shutters) := by
    intro other hne
    have hnot : other ≠ frameNumber := fun h => hne (congrArg some h.symm)
    simp [next, hnot]
  cases hget : s.batcher.getBatch frameNumber with
  | none =>
      have heq : s.batcher.notify (.shutter frameNumber timestamp) =
          some (notifySingleMsg (.shutter frameNumber timestamp), s.batcher) := by
        simp only [ResultBatcher.notify, NotifyMsg.frameNumber, hget]
      obtain ⟨hcallback, hfinals⟩ := Callback.notify heq rfl rfl hothers
      refine hinv.outside hcallback (hinv.inOrder.notify heq hfinals hnext) ?_ (hinv.ne_last hget)
      rw [BatchRace.batcher, next_notify heq]
  | some found =>
      obtain ⟨i, batch⟩ := found
      obtain ⟨before, after, hlist, hfirst, hlast, hset⟩ :=
        ResultBatcher.finishLastFrame_setBatch hget
      have htracks := hinv.tracks batch (by simp [hlist])
      let queued := s.batcher.setBatch i (batch.notifyShutter (.shutter frameNumber timestamp)).2
      have heq : s.batcher.notify (.shutter frameNumber timestamp) =
          some ((batch.notifyShutter (.shutter frameNumber timestamp)).1 ++
            (queued.finishLastFrame batch frameNumber).1,
            (queued.finishLastFrame batch frameNumber).2) := by
        simp only [ResultBatcher.notify, NotifyMsg.frameNumber, hget, htracks.present,
          Bool.false_eq_true, if_false, queued]
      obtain ⟨_, -, -, hstreams, hnumber, -⟩ := queued.finishLastFrame_split batch frameNumber
      obtain ⟨hcallback, hfinals⟩ := Callback.notify heq hstreams hnumber hothers
      refine hinv.inside hcallback (hinv.inOrder.notify heq hfinals hnext) hlist hfirst hlast ?_
        (htracks.notifyShutter timestamp hcallback rfl hfinals
          (BatcherState.returned_congr (by rw [next_notify heq]))) ?_
      · rw [InflightBatch.notifyShutter_frame]
        rfl
      · rw [BatchRace.batcher, next_notify heq]
        exact hset _

/-- An error takes batches off the deque and adds nothing to what has come. -/
theorem DrainInv.notifyError (hinv : s.DrainInv) (frameNumber : Nat) (errorStreamId : Int)
    (errorCode : ErrorCode) :
    (s.next (.notify (.error frameNumber errorStreamId errorCode))).DrainInv := by
  obtain ⟨effects, batcher, heq, hstreams, hnumber, flushed, hflushed, -, -⟩ :=
    s.batcher.notify_error_cases frameNumber errorStreamId errorCode
  have hsame : (s.next (.notify (.error frameNumber errorStreamId errorCode))).shutters =
      s.shutters := List.append_nil _
  have hothers : ∀ other, none ≠ some other →
      (other ∈ (s.next (.notify (.error frameNumber errorStreamId errorCode))).shutters ↔
        other ∈ s.shutters) := fun other _ => by rw [hsame]
  obtain ⟨hcallback, hfinals⟩ := Callback.notify heq hstreams hnumber hothers
  refine hinv.outside hcallback (hinv.inOrder.notify heq hfinals ?_) ?_ ?_
  · rw [hsame]
    exact hinv.inOrder.shutters
  · rw [BatchRace.batcher, next_notify heq, hflushed]
    exact List.sublist_append_right flushed _
  · exact fun batch _ h => by cases h

end

/-! ## Results -/

section

variable {s : BatchRace} {result : CaptureResult}

/-- No frame at or above that of an arriving buffer has come back on its stream. -/
theorem InOrder.not_returned (horder : s.InOrder) (hresult : s.race.HalInOrder result)
    {streamId : Int} (hout : result.outputsOn streamId ≠ []) {frame : Nat}
    (hframe : result.frameNumber ≤ frame) :
    ¬ s.race.batcherState.Returned streamId frame := by
  obtain ⟨buffer, hbuffer⟩ := List.exists_mem_of_ne_nil _ hout
  obtain ⟨hmem, rfl⟩ := InflightBatch.mem_outputsOn.mp hbuffer
  have hsorted := (RaceState.sorted_submittedOn horder.sorted buffer.streamId).sublist
    (hresult.inOrder buffer hmem).sublist
  intro hreturned
  rw [BatcherState.returned_iff] at hreturned
  have hlt := (List.pairwise_append.mp hsorted).2.2 frame hreturned result.frameNumber (by simp)
  omega

/-- A result adds its frame to those that are final, or none. -/
theorem finals_next
    (hnumber : (s.next (.processCaptureResult result)).batcher.mNumPartialResults =
      s.batcher.mNumPartialResults) :
    (s.next (.processCaptureResult result)).finals =
      s.finals ++ if s.isFinal result = true then [result.frameNumber] else [] := by
  have hfinal := isFinal_congr hnumber
  have hresults : (s.next (.processCaptureResult result)).race.batcherState.results =
      s.race.batcherState.results ++ [result] := rfl
  rw [finals, hfinal, hresults, List.filter_append, List.map_append, List.filter_singleton]
  cases s.isFinal result <;> rfl

theorem mem_finals_next
    (hnumber : (s.next (.processCaptureResult result)).batcher.mNumPartialResults =
      s.batcher.mNumPartialResults) (frame : Nat) :
    frame ∈ (s.next (.processCaptureResult result)).finals ↔
      frame ∈ s.finals ∨ (s.isFinal result = true ∧ frame = result.frameNumber) := by
  rw [finals_next hnumber, List.mem_append]
  apply or_congr_right
  split
  next hfinal => simp [hfinal]
  next hnot => simp [hnot]

/-- A result changes nothing but the deque and what has come for its frame. -/
theorem Callback.processCaptureResult (hresult : s.race.HalInOrder result)
    (hstreams : (s.next (.processCaptureResult result)).batcher.mStreamsToBatch =
      s.batcher.mStreamsToBatch)
    (hnumber : (s.next (.processCaptureResult result)).batcher.mNumPartialResults =
      s.batcher.mNumPartialResults) :
    Callback s (s.next (.processCaptureResult result)) (some result.frameNumber) := by
  have hshutters : (s.next (.processCaptureResult result)).shutters = s.shutters :=
    List.append_nil _
  refine ⟨rfl, rfl, hstreams, hnumber, fun other _ => by rw [hshutters], ?_, ?_, ?_⟩
  · intro other hne
    rw [mem_finals_next hnumber]
    exact or_iff_left fun h => hne (congrArg some h.2.symm)
  · intro streamId other hne
    exact (BatcherState.returned_next_iff hresult.frames).trans
      (or_iff_left fun h => hne (congrArg some h.1.symm))
  · intro streamId other h
    exact (BatcherState.returned_next_iff hresult.frames).mpr (.inl h)

/-- A result in order keeps the order. -/
theorem InOrder.processCaptureResult (horder : s.InOrder) (hresult : s.race.HalInOrder result)
    (hfinal : s.isFinal result = true → s.finals ++ [result.frameNumber] <+: s.frames)
    (hnumber : (s.next (.processCaptureResult result)).batcher.mNumPartialResults =
      s.batcher.mNumPartialResults) :
    (s.next (.processCaptureResult result)).InOrder := by
  have hshutters : (s.next (.processCaptureResult result)).shutters = s.shutters :=
    List.append_nil _
  refine ⟨horder.sorted, by rw [hshutters]; exact horder.shutters, ?_, ?_⟩
  · rw [finals_next hnumber]
    split
    next hcase => exact hfinal hcase
    next =>
      rw [List.append_nil]
      exact horder.finals
  · exact RaceState.returned_processCaptureResult horder.returned hresult

/-- A stream whose last buffer came gets no more buffers of the batch. -/
theorem Tracks.isOpen {batch : InflightBatch} (h : s.Tracks batch) (horder : s.InOrder)
    (hresult : s.race.HalInOrder result) (hlast : result.frameNumber ≤ batch.mLastFrame) :
    batch.Open result := by
  intro streamId bb hout hbb
  rw [Bool.eq_false_iff, ne_eq, h.buffers streamId bb hbb]
  exact horder.not_returned hresult hout hlast

/-- The result of a frame of the batch. -/
theorem Tracks.processCaptureResult {batch : InflightBatch} (h : s.Tracks batch)
    (horder : s.InOrder) (hresult : s.race.HalInOrder result)
    (hlast : result.frameNumber ≤ batch.mLastFrame)
    (hnumber : (s.next (.processCaptureResult result)).batcher.mNumPartialResults =
      s.batcher.mNumPartialResults) :
    (s.next (.processCaptureResult result)).Tracks (batch.processCaptureResult result).2 := by
  have hshutters : (s.next (.processCaptureResult result)).shutters = s.shutters :=
    List.append_nil _
  have hopen := h.isOpen horder hresult hlast
  have hbufs := InflightBatch.processCaptureResult_mBatchBufs h.present h.settled hopen
  obtain ⟨-, hframe, hremoved, hcount, hsent⟩ := batch.processCaptureResult_keeps result
  refine ⟨hremoved.trans h.present, h.settled.processCaptureResult h.present hopen, ?_, ?_, ?_, ?_⟩
  · rw [hcount, h.number, hnumber]
  · rw [hsent, hframe, hshutters]
    exact h.shutter
  · rw [InflightBatch.processCaptureResult_mPartialResultProgress h.present, hframe,
      mem_finals_next hnumber, hnumber]
    split
    next heq =>
      have hfinal : s.isFinal result = true ↔ 0 < result.partialResult ∧
          s.batcher.mNumPartialResults ≤ result.partialResult := by
        simp [isFinal]
      -- The progress is the largest partial index so far; a result is final if its own reaches the
      -- number of partial results.
      rw [le_max_iff, h.metadata, hfinal]
      constructor
      · intro hle hpos
        rcases hle with hold | hnew
        · exact .inl (hold hpos)
        · exact .inr ⟨⟨hpos.trans_le hnew, hnew⟩, heq.symm⟩
      · intro hcame
        by_cases hpos : 0 < s.batcher.mNumPartialResults
        · exact (hcame hpos).imp (fun hold _ => hold) fun hnew => hnew.1.2
        · exact .inl fun h => absurd h hpos
    next hne =>
      rw [h.metadata, or_iff_left fun hnew => hne hnew.2.symm]
  · intro streamId bb hbb
    have hreturned : (s.next (.processCaptureResult result)).race.batcherState.Returned streamId
        batch.mLastFrame ↔ s.race.batcherState.Returned streamId batch.mLastFrame ∨
          (batch.mLastFrame = result.frameNumber ∧ result.outputsOn streamId ≠ []) :=
      BatcherState.returned_next_iff hresult.frames
    rw [hframe, hreturned]
    rw [hbufs] at hbb
    split at hbb
    next hfilled =>
      obtain rfl := Option.some.inj hbb
      exact iff_of_true rfl (.inr ⟨hfilled.1.symm, hfilled.2.2⟩)
    next hnot =>
      obtain ⟨old, hold, rfl⟩ := Option.map_eq_some_iff.mp hbb
      have hmem := Std.ExtTreeMap.mem_of_getElem? hold
      rw [or_iff_left fun hnew => hnot ⟨hnew.1.symm, hmem, hnew.2⟩]
      exact h.buffers streamId old hold

/-- A result leaves the frames and the streams of the batch as they are. -/
theorem Tracks.shape_processCaptureResult {batch : InflightBatch} (h : s.Tracks batch)
    (horder : s.InOrder) (hresult : s.race.HalInOrder result)
    (hlast : result.frameNumber ≤ batch.mLastFrame) :
    (batch.processCaptureResult result).2.shape = batch.shape := by
  obtain ⟨hfirst, hframe, -⟩ := batch.processCaptureResult_keeps result
  have hkeys := InflightBatch.mem_processCaptureResult_mBatchBufs h.present h.settled
    (h.isOpen horder hresult hlast)
  have hstreams : { streamId | streamId ∈ (batch.processCaptureResult result).2.mBatchBufs } =
      { streamId | streamId ∈ batch.mBatchBufs } := by
    ext streamId
    exact hkeys streamId
  rw [InflightBatch.shape, hfirst, hframe, hstreams, InflightBatch.shape]

/-- A result in order keeps the invariant. -/
theorem DrainInv.processCaptureResult (hinv : s.DrainInv) (hresult : s.race.HalInOrder result)
    (hfinal : s.isFinal result = true → s.finals ++ [result.frameNumber] <+: s.frames) :
    (s.next (.processCaptureResult result)).DrainInv := by
  have hbatcher : (s.next (.processCaptureResult result)).batcher =
      (s.batcher.processCaptureResult result).2 := rfl
  cases hget : s.batcher.getBatch result.frameNumber with
  | none =>
      have heq : s.batcher.processCaptureResult result =
          (Camera.processOneCaptureResult result, s.batcher) := by
        simp only [ResultBatcher.processCaptureResult, hget]
      rw [heq] at hbatcher
      have hstreams := congrArg ResultBatcher.mStreamsToBatch hbatcher
      have hnumber := congrArg ResultBatcher.mNumPartialResults hbatcher
      refine hinv.outside (Callback.processCaptureResult hresult hstreams hnumber)
        (hinv.inOrder.processCaptureResult hresult hfinal hnumber) ?_ (hinv.ne_last hget)
      rw [hbatcher]
  | some found =>
      obtain ⟨i, batch⟩ := found
      obtain ⟨before, after, hlist, hfirst, hlast, hset⟩ :=
        ResultBatcher.finishLastFrame_setBatch hget
      have htracks := hinv.tracks batch (by simp [hlist])
      let queued := s.batcher.setBatch i (batch.processCaptureResult result).2
      have heq : s.batcher.processCaptureResult result =
          ((batch.processCaptureResult result).1 ++
            (queued.finishLastFrame batch result.frameNumber).1,
            (queued.finishLastFrame batch result.frameNumber).2) := by
        simp only [ResultBatcher.processCaptureResult, hget, htracks.present,
          Bool.false_eq_true, if_false, queued]
      rw [heq] at hbatcher
      obtain ⟨_, -, -, hstreams, hnumber, -⟩ :=
        queued.finishLastFrame_split batch result.frameNumber
      have hstreams' := (congrArg ResultBatcher.mStreamsToBatch hbatcher).trans hstreams
      have hnumber' := (congrArg ResultBatcher.mNumPartialResults hbatcher).trans hnumber
      refine hinv.inside (Callback.processCaptureResult hresult hstreams' hnumber')
        (hinv.inOrder.processCaptureResult hresult hfinal hnumber') hlist hfirst hlast
        (htracks.shape_processCaptureResult hinv.inOrder hresult hlast)
        (htracks.processCaptureResult hinv.inOrder hresult hlast hnumber') ?_
      rw [hbatcher]
      exact hset _

end

/-! ## Requests -/

section

variable {s : BatchRace}

/-- A step of the request thread that does not touch the batcher. -/
theorem DrainInv.request (hinv : s.DrainInv) {s' : BatchRace}
    (hbatcher : s'.race.batcherState = s.race.batcherState) (hshutters : s'.shutters = s.shutters)
    (hsorted : s'.frames.Pairwise (· < ·)) (hsubmitted : s.race.submitted <+: s'.race.submitted)
    (hcall : ∀ call, s'.race.call = some call → s'.race.CallInv call) : s'.DrainInv := by
  obtain ⟨⟨batcherState, submitted, call⟩, shutters⟩ := s'
  subst hbatcher hshutters
  have hframes := hsubmitted.map CaptureRequest.frameNumber
  refine ⟨⟨hsorted, hinv.inOrder.shutters.trans hframes, hinv.inOrder.finals.trans hframes, ?_⟩,
    ⟨hinv.placed.ordered, ?_, hinv.placed.current, hinv.placed.nested⟩, ?_, ?_, hcall⟩
  · intro streamId
    exact (hinv.inOrder.returned streamId).trans
      (RaceState.submittedOn_extends hsubmitted streamId)
  · intro shape hmem
    obtain ⟨request, hrequest, h⟩ := hinv.placed.covered shape hmem
    exact ⟨request, hsubmitted.subset hrequest, h⟩
  · exact fun batch hmem => (hinv.tracks batch hmem).congr rfl rfl rfl
  · exact fun batch hmem h => hinv.waiting batch hmem (h.congr rfl rfl rfl)

/-- A call of the client is above all frames so far. -/
theorem DrainInv.processCaptureRequest (hinv : s.DrainInv) {requests : List CaptureRequest}
    (hcall : s.race.ClientCall requests) :
    (s.next (.processCaptureRequest requests)).DrainInv := by
  refine hinv.request rfl (List.append_nil _) hinv.inOrder.sorted (List.prefix_refl _) ?_
  intro call heq
  cases heq
  apply hcall.callInv
  intro batch hbatch
  obtain ⟨request, hrequest, hframe, -⟩ :=
    hinv.placed.covered batch.shape (List.mem_map_of_mem hbatch)
  exact ⟨request, hrequest, hframe⟩

/-- The next request of the call is submitted, or the call has failed. -/
theorem DrainInv.processOneCaptureRequest (hinv : s.DrainInv) (accepted : Bool) :
    (s.next (.processOneCaptureRequest accepted)).DrainInv := by
  simp only [next, RaceState.next, List.append_nil]
  split
  next => exact hinv
  next call hcall =>
    have h := hinv.call call hcall
    split
    next request _ hat =>
      cases accepted with
      | true =>
          refine hinv.request rfl rfl (List.pairwise_append.mp (h.ahead_submit hat)).1
            (List.prefix_append _ _) ?_
          intro call' heq
          cases heq
          exact h.submit hat
      | false =>
          refine hinv.request rfl rfl hinv.inOrder.sorted (List.prefix_refl _) ?_
          intro call' heq
          cases heq
          exact h.refuse
    next => exact hinv

/-- A new batch above all others, for the streams that are configured. -/
theorem Placed.concat {shapes : List Shape} (h : s.Placed shapes) {shape : Shape}
    (hordered : OrderedIntervals Shape.first Shape.last (shapes ++ [shape]))
    (hcovered : ∃ request ∈ s.race.submitted, request.frameNumber = shape.last ∧
      ∀ streamId ∈ shape.streams, streamId ∈ request.outputStreams)
    (hstreams : ∀ streamId, streamId ∈ shape.streams ↔ streamId ∈ s.batcher.mStreamsToBatch) :
    s.Placed (shapes ++ [shape]) := by
  refine ⟨hordered, ?_, ?_, ?_⟩
  · intro other hmem
    rcases List.mem_append.mp hmem with hmem | hmem
    · exact h.covered other hmem
    · rw [List.mem_singleton.mp hmem]
      exact hcovered
  · intro other hmem
    rcases List.mem_append.mp hmem with hmem | hmem
    · exact h.current other hmem
    · rw [List.mem_singleton.mp hmem]
      exact .inl fun streamId hstream => (hstreams streamId).mp hstream
  · rw [List.pairwise_append]
    refine ⟨h.nested, List.pairwise_singleton _ _, ?_⟩
    intro earlier hearlier later hlater
    rw [List.mem_singleton.mp hlater]
    -- an earlier batch has the streams configured now, unless its buffers are all back
    exact (h.current earlier hearlier).imp_left
      fun hsub streamId hstream => (hstreams streamId).mpr (hsub streamId hstream)

/-- A new batch has nothing marked, as nothing of its last frame has come. -/
theorem tracks_newBatch (s : BatchRace) {frameNumber batchSize last : Nat}
    (hend : (s.batcher.newBatch frameNumber batchSize).mLastFrame = last)
    (hshutter : last ∉ s.shutters)
    (hmetadata : 0 < s.batcher.mNumPartialResults → last ∉ s.finals)
    (hbuffers : ∀ streamId ∈ s.batcher.mStreamsToBatch,
      ¬ s.race.batcherState.Returned streamId last) :
    s.Tracks (s.batcher.newBatch frameNumber batchSize) := by
  have hempty : ∀ (streamId : Int) (bb : BufferBatch),
      (s.batcher.newBatch frameNumber batchSize).mBatchBufs[streamId]? = some bb →
        streamId ∈ s.batcher.mStreamsToBatch ∧ bb = {} := by
    intro streamId bb hbb
    refine ⟨ResultBatcher.mem_newBatch.mp (Std.ExtTreeMap.mem_of_getElem? hbb), ?_⟩
    rw [ResultBatcher.newBatch_mBatchBufs] at hbb
    split at hbb
    · exact (Option.some.inj hbb).symm
    · cases hbb
  refine ⟨rfl, ?_, rfl, ?_, ?_, ?_⟩
  · intro streamId bb hbb _
    rw [(hempty streamId bb hbb).2]
  · rw [hend]
    exact iff_of_false Bool.false_ne_true hshutter
  · rw [hend]
    constructor
    · intro hzero hpos
      exact absurd hpos (Nat.not_lt.mpr hzero)
    · intro hcame
      by_contra hnot
      have hpos := Nat.pos_of_ne_zero fun hzero => hnot (Nat.le_of_eq hzero)
      exact hmetadata hpos (hcame hpos)
  · intro streamId bb hbb
    obtain ⟨hmem, rfl⟩ := hempty streamId bb hbb
    rw [hend]
    exact iff_of_false Bool.false_ne_true (hbuffers streamId hmem)

/-- Registering a batch ahead of the callbacks of its last frame. -/
theorem DrainInv.register (hinv : s.DrainInv) {call : RequestCall} (hcall : s.race.call = some call)
    (hall : call.accepted = call.requests.length) {first : CaptureRequest}
    (hfirst : call.requests.head? = some first) (hsize : 1 < call.requests.length)
    (hahead : s.RegisteredAhead call.requests) {s' : BatchRace}
    (hrace : s'.race = { s.race with
      batcherState := s.race.batcherState.next
        (.registerBatch first.frameNumber call.requests.length)
      call := none })
    (hshutters : s'.shutters = s.shutters) : s'.DrainInv := by
  obtain ⟨race, shutters⟩ := s'
  subst hrace hshutters
  have h := hinv.call call hcall
  obtain ⟨last, hlast, hframe, hshutter, hmetadata, hbuffers⟩ := hahead
  rw [hfirst, Option.map_some, Option.getD_some] at hframe
  -- The frames of the list are consecutive and above all batches, so that the new batch ends with
  -- its last request.
  have hrange : s.race.batcherState.RangeIncreasing first.frameNumber call.requests.length := by
    refine ⟨by omega, ?_, ?_⟩
    · have hbound := h.bounded last hlast
      omega
    · exact fun batch hbatch => h.above batch hbatch first (List.mem_of_mem_head? hfirst)
  let batch := s.batcher.newBatch first.frameNumber call.requests.length
  have hend : batch.mLastFrame = last.frameNumber := by
    have hend : batch.mLastFrame = first.frameNumber + call.requests.length - 1 :=
      (BatcherState.newBatch_ends hrange).2
    omega
  have hstreams : ∀ {streamId : Int}, streamId ∈ batch.mBatchBufs ↔
      streamId ∈ s.batcher.mStreamsToBatch := ResultBatcher.mem_newBatch
  refine ⟨⟨hinv.inOrder.sorted, hinv.inOrder.shutters, hinv.inOrder.finals, hinv.inOrder.returned⟩,
    ?_, ?_, ?_, fun _ hnone => by cases hnone⟩
  · have hlist := BatcherState.ordered_registerBatch hinv.ordered hrange
    have hshapes : (s.batcher.mInflightBatches ++ [batch]).map (·.shape) =
        s.batcher.mInflightBatches.map (·.shape) ++ [batch.shape] := List.map_append
    have hordered : OrderedIntervals Shape.first Shape.last
        (s.batcher.mInflightBatches.map (·.shape) ++ [batch.shape]) := by
      rw [← hshapes]
      exact (OrderedIntervals.map_iff (f := InflightBatch.shape)).mpr hlist
    have hplaced := hinv.placed.concat hordered
      ⟨last, h.done last (by rwa [hall, List.take_length]), hend.symm,
        fun streamId hstream => h.batched hsize last hlast streamId (hstreams.mp hstream)⟩
      fun streamId => hstreams
    rw [← hshapes] at hplaced
    exact ⟨hplaced.ordered, hplaced.covered, hplaced.current, hplaced.nested⟩
  · intro batch hmem
    rcases List.mem_append.mp hmem with hmem | hmem
    · exact (hinv.tracks batch hmem).congr rfl rfl rfl
    · rw [List.mem_singleton.mp hmem]
      exact (s.tracks_newBatch hend hshutter hmetadata hbuffers).congr rfl rfl rfl
  · intro batch hmem hdone
    rcases List.mem_append.mp hmem with hmem | hmem
    · exact hinv.waiting batch hmem (hdone.congr rfl rfl rfl)
    -- The new batch is not done: the shutter of its last frame is yet to come.
    · rw [List.mem_singleton.mp hmem] at hdone
      apply hshutter
      rw [← hend]
      exact hdone.shutter

/-- Streams are configured while all submitted buffers are back. -/
theorem DrainInv.setBatchedStreams (hinv : s.DrainInv) {streamsToBatch : List Int}
    (hop : s.race.RaceContract (.setBatchedStreams streamsToBatch)) :
    (s.next (.setBatchedStreams streamsToBatch)).DrainInv := by
  obtain ⟨hcall, -, hreturned⟩ := hop
  simp only [next, RaceState.next, BatcherState.next, List.append_nil]
  refine ⟨⟨hinv.inOrder.sorted, hinv.inOrder.shutters, hinv.inOrder.finals, hinv.inOrder.returned⟩,
    ⟨hinv.placed.ordered, hinv.placed.covered, ?_, hinv.placed.nested⟩, ?_, ?_, ?_⟩
  · intro shape hmem
    obtain ⟨request, hrequest, hframe, houtputs⟩ := hinv.placed.covered shape hmem
    refine .inr fun streamId hstream => ?_
    rw [← hframe]
    exact hreturned request hrequest streamId (houtputs streamId hstream)
  · exact fun batch hmem => (hinv.tracks batch hmem).congr rfl rfl rfl
  · exact fun batch hmem h => hinv.waiting batch hmem (h.congr rfl rfl rfl)
  · intro call heq
    exact absurd (hcall.symm.trans heq) (by simp)

end

/-! ## Every run -/

/-- The call returns, and registers its batch if all its requests were accepted. -/
theorem DrainInv.returnStatus {s : BatchRace} (hinv : s.DrainInv)
    (hop : s.AheadContract .returnStatus) : (s.next .returnStatus).DrainInv := by
  obtain ⟨⟨hdone, -⟩, hahead⟩ := hop
  cases hcall : s.race.call with
  | none =>
      have hsame : s.next .returnStatus = s := by
        simp only [next, RaceState.next, hcall, List.append_nil]
      rw [hsame]
      exact hinv
  | some call =>
      have hrace : (s.next .returnStatus).race =
          { s.race with batcherState := s.race.registerBatch call, call := none } := by
        simp only [next, RaceState.next, hcall]
      have hshutters : (s.next .returnStatus).shutters = s.shutters := List.append_nil _
      unfold RaceState.registerBatch at hrace
      split at hrace
      next first second rest hfailed hrequests =>
        simp only [RaceState.RaceContract, hcall, Option.any_some, hfailed, Bool.false_or,
          beq_iff_eq] at hdone
        have hsize : 1 < call.requests.length := by simp [hrequests]
        rw [← hrequests] at hrace
        exact hinv.register hcall hdone (by rw [hrequests]; rfl) hsize
          (hahead rfl call hcall hfailed hsize) hrace hshutters
      next =>
        refine hinv.request (by rw [hrace]) hshutters ?_ ?_ ?_
        · rw [frames, hrace]
          exact hinv.inOrder.sorted
        · simpa only [hrace] using List.prefix_refl s.race.submitted
        · intro call' heq
          rw [hrace] at heq
          cases heq

/-- Every step within the contract keeps the invariant. -/
theorem DrainInv.next {s : BatchRace} (hinv : s.DrainInv) {op : RaceOp}
    (hop : s.AheadContract op) : (s.next op).DrainInv := by
  cases op with
  | processCaptureRequest requests => exact hinv.processCaptureRequest hop.1.1
  | processOneCaptureRequest accepted => exact hinv.processOneCaptureRequest accepted
  | returnStatus => exact hinv.returnStatus hop
  | processCaptureResult result => exact hinv.processCaptureResult hop.1.1 hop.1.2
  | notify msg =>
      cases msg with
      | shutter frameNumber timestamp => exact hinv.notifyShutter hop.1.2
      | error frameNumber errorStreamId errorCode =>
          exact hinv.notifyError frameNumber errorStreamId errorCode
  | setBatchedStreams streamsToBatch => exact hinv.setBatchedStreams hop.1.1

theorem drainInv_initial (numPartialResults : Nat) : (initial numPartialResults).DrainInv := by
  refine ⟨⟨List.Pairwise.nil, List.prefix_refl _, List.prefix_refl _, fun _ => List.prefix_refl _⟩,
    ⟨OrderedIntervals.nil, by simp [initial, RaceState.initial, BatcherState.initial, batcher],
      by simp [initial, RaceState.initial, BatcherState.initial, batcher], List.Pairwise.nil⟩,
    by simp [initial, RaceState.initial, BatcherState.initial, batcher],
    by simp [initial, RaceState.initial, BatcherState.initial, batcher],
    fun _ h => by cases h⟩

/-- When nothing is left to come, nothing is left to wait for. -/
theorem DrainInv.drained {s : BatchRace} (hinv : s.DrainInv) : s.Drained := by
  rintro ⟨-, hcame⟩
  rw [List.eq_nil_iff_forall_not_mem]
  intro batch hmem
  obtain ⟨request, hrequest, hframe, houtputs⟩ :=
    hinv.placed.covered batch.shape (List.mem_map_of_mem hmem)
  obtain ⟨hshutter, hfinal, hreturned⟩ := hcame request hrequest
  apply hinv.waiting batch hmem
  rw [hframe] at hshutter hfinal hreturned
  exact ⟨hshutter, fun _ => hfinal, fun streamId hstream =>
    hreturned streamId (houtputs streamId hstream)⟩

/-- In every interleaving in which batches are registered ahead of the callbacks of
their last frames, no batch is left once all callbacks have come. -/
theorem batches_drain (numPartialResults : Nat) (ops : List RaceOp)
    (hops : Admits next AheadContract (initial numPartialResults) ops) :
    Throughout next Drained (initial numPartialResults) ops :=
  hops.throughout DrainInv (fun _ _ hinv hop => hinv.next hop) (fun _ hinv => hinv.drained)
    (drainInv_initial numPartialResults)

/-- A result with all the metadata of a frame and its buffer on stream 7. -/
def finalResultFor (frameNumber : Nat) : CaptureResult :=
  { RaceState.resultFor frameNumber with result := [1], partialResult := 1 }

def promptBatch : List RaceOp :=
  [.setBatchedStreams [7],
    .processCaptureRequest [RaceState.requestFor 1, RaceState.requestFor 2],
    .processOneCaptureRequest true, .notify (.shutter 1 10), .processOneCaptureRequest true,
    .returnStatus, .processCaptureResult (finalResultFor 1), .notify (.shutter 2 20),
    .processCaptureResult (finalResultFor 2)]

theorem batches_drain_promptBatch :
    Quiescent (run next (initial 1) promptBatch) ∧
      Throughout next Drained (initial 1) promptBatch :=
  ⟨by decide, batches_drain 1 promptBatch (by decide)⟩

/-- All callbacks of the batch come before it is registered. -/
def belatedBatch : List RaceOp :=
  [.setBatchedStreams [7],
    .processCaptureRequest [RaceState.requestFor 1, RaceState.requestFor 2],
    .processOneCaptureRequest true, .processOneCaptureRequest true, .notify (.shutter 1 10),
    .processCaptureResult (finalResultFor 1), .notify (.shutter 2 20),
    .processCaptureResult (finalResultFor 2), .returnStatus]

/-- The batch stays in the deque although nothing is left to come. -/
theorem belatedBatch_not_drained :
    Admits next DrainContract (initial 1) belatedBatch ∧
      ¬ Drained (run next (initial 1) belatedBatch) := by
  decide

end BatchRace

end LgeHardware.Camera
