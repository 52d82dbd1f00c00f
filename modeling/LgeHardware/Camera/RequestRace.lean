import LgeHardware.Camera.FrameAttribution

/-! # Requests race with the callbacks

`processCaptureRequest` hands its requests to the HAL one by one and registers their
batch after the last one. The HAL may call back at any moment in between. Here the
steps of the one request thread and the callbacks interleave freely.
-/

namespace LgeHardware.Camera

open LgeHardware.Foundation

/-- A call of `processCaptureRequest` in progress. -/
structure RequestCall where
  requests : List CaptureRequest
  /-- How many requests the HAL has accepted. -/
  accepted : Nat := 0
  /-- `processOneCaptureRequest` has returned an error, which ends the loop. -/
  failed : Bool := false
  deriving DecidableEq

structure RaceState where
  batcherState : BatcherState
  /-- The requests the HAL has accepted, in order. -/
  submitted : List CaptureRequest := []
  call : Option RequestCall := none

inductive RaceOp
  /-- The request thread enters `processCaptureRequest`. -/
  | processCaptureRequest (requests : List CaptureRequest)
  /-- One iteration of its loop, with the answer of the HAL. -/
  | processOneCaptureRequest (accepted : Bool)
  /-- It leaves the loop, registers the batch and returns. -/
  | returnStatus
  | processCaptureResult (result : CaptureResult)
  | notify (msg : NotifyMsg)
  | setBatchedStreams (streamsToBatch : List Int)
  deriving DecidableEq

def CaptureRequest.outputStreams (request : CaptureRequest) : List Int :=
  request.outputBuffers.map (·.streamId)

namespace RaceState

def initial (numPartialResults : Nat) : RaceState :=
  { batcherState := BatcherState.initial numPartialResults }

/-- The batch registered when the loop is left. -/
def registerBatch (s : RaceState) (call : RequestCall) : BatcherState :=
  match call.failed, call.requests with
  | false, first :: second :: rest =>
      s.batcherState.next (.registerBatch first.frameNumber (first :: second :: rest).length)
  | _, _ => s.batcherState

def next (s : RaceState) : RaceOp → RaceState
  | .processCaptureRequest requests => { s with call := some { requests } }
  | .processOneCaptureRequest accepted =>
      match s.call with
      | none => s
      | some call =>
          match call.failed, call.requests[call.accepted]? with
          | false, some request =>
              if accepted then
                { s with
                  submitted := s.submitted ++ [request]
                  call := some { call with accepted := call.accepted + 1 } }
              else { s with call := some { call with failed := true } }
          | _, _ => s
  | .returnStatus =>
      match s.call with
      | none => s
      | some call => { s with batcherState := s.registerBatch call, call := none }
  | .processCaptureResult result =>
      { s with batcherState := s.batcherState.next (.processCaptureResult result) }
  | .notify msg => { s with batcherState := s.batcherState.next (.notify msg) }
  | .setBatchedStreams streamsToBatch =>
      { s with batcherState := s.batcherState.next (.setBatchedStreams streamsToBatch) }

/-- The frames submitted with an output buffer on a stream, in order. -/
def submittedOn (s : RaceState) (streamId : Int) : List Nat :=
  (s.submitted.filter fun request => streamId ∈ request.outputStreams).map (·.frameNumber)

/-- The HAL returns the buffers of each stream in the order of the requests. -/
structure HalInOrder (s : RaceState) (result : CaptureResult) : Prop where
  frames : ∀ buffer ∈ result.outputBuffers, buffer.halFrame = result.frameNumber
  streams : (result.outputBuffers.map (·.streamId)).Nodup
  inOrder : ∀ buffer ∈ result.outputBuffers,
    (s.batcherState.received buffer.streamId).map (·.halFrame) ++ [result.frameNumber] <+:
      s.submittedOn buffer.streamId

instance (s : RaceState) (result : CaptureResult) : Decidable (s.HalInOrder result) :=
  decidable_of_iff
    ((∀ buffer ∈ result.outputBuffers, buffer.halFrame = result.frameNumber) ∧
      (result.outputBuffers.map (·.streamId)).Nodup ∧
      ∀ buffer ∈ result.outputBuffers,
        (s.batcherState.received buffer.streamId).map (·.halFrame) ++ [result.frameNumber] <+:
          s.submittedOn buffer.streamId)
    ⟨fun ⟨hframes, hstreams, hinOrder⟩ => ⟨hframes, hstreams, hinOrder⟩,
      fun h => ⟨h.frames, h.streams, h.inOrder⟩⟩

/-- What the camera service promises when it calls: one call at a time, increasing
frame numbers, and requests of a batch that output to every batched stream. -/
structure ClientCall (s : RaceState) (requests : List CaptureRequest) : Prop where
  alone : s.call = none
  increasing : (s.submitted.map (·.frameNumber) ++ requests.map (·.frameNumber)).Pairwise (· < ·)
  bounded : ∀ request ∈ requests, request.frameNumber < 2 ^ 32
  batched : 1 < requests.length → ∀ request ∈ requests,
    ∀ streamId ∈ s.batcherState.batcher.mStreamsToBatch, streamId ∈ request.outputStreams

instance (s : RaceState) (requests : List CaptureRequest) : Decidable (s.ClientCall requests) :=
  decidable_of_iff
    (s.call = none ∧
      (s.submitted.map (·.frameNumber) ++ requests.map (·.frameNumber)).Pairwise (· < ·) ∧
      (∀ request ∈ requests, request.frameNumber < 2 ^ 32) ∧
      (1 < requests.length → ∀ request ∈ requests,
        ∀ streamId ∈ s.batcherState.batcher.mStreamsToBatch, streamId ∈ request.outputStreams))
    ⟨fun ⟨halone, hincreasing, hbounded, hbatched⟩ => ⟨halone, hincreasing, hbounded, hbatched⟩,
      fun h => ⟨h.alone, h.increasing, h.bounded, h.batched⟩⟩

/-- The steps of the interleavings: the request thread keeps to its loop, the HAL
returns buffers in order, and streams are configured while nothing is in flight. -/
def RaceContract (s : RaceState) : RaceOp → Prop
  | .processCaptureRequest requests => s.ClientCall requests
  | .processOneCaptureRequest _ =>
      (s.call.any fun call => !call.failed && decide (call.accepted < call.requests.length)) = true
  | .returnStatus =>
      (s.call.any fun call => call.failed || call.accepted == call.requests.length) = true
  | .processCaptureResult result => s.HalInOrder result
  | .notify _ => True
  | .setBatchedStreams streamsToBatch =>
      s.call = none ∧ streamsToBatch.Nodup ∧ ∀ request ∈ s.submitted,
        ∀ streamId ∈ request.outputStreams,
          s.batcherState.Returned streamId request.frameNumber

instance (s : RaceState) (op : RaceOp) : Decidable (s.RaceContract op) := by
  cases op <;> unfold RaceContract <;> infer_instance

/-- A batch is registered in time: its frames are consecutive, and on each batched
stream the HAL has returned none of its buffers yet, or all of them. -/
def RegisteredInTime (s : RaceState) (requests : List CaptureRequest) : Prop :=
  requests.map (·.frameNumber) =
      List.range' ((requests.head?.map (·.frameNumber)).getD 0) requests.length ∧
    ∀ streamId ∈ s.batcherState.batcher.mStreamsToBatch,
      (∀ request ∈ requests, ¬ s.batcherState.Returned streamId request.frameNumber) ∨
        ∀ request ∈ requests, s.batcherState.Returned streamId request.frameNumber

instance (s : RaceState) (requests : List CaptureRequest) :
    Decidable (s.RegisteredInTime requests) := inferInstanceAs (Decidable (_ ∧ _))

/-- The interleavings in which every batch is registered in time. -/
def TimelyContract (s : RaceState) (op : RaceOp) : Prop :=
  s.RaceContract op ∧ (op = .returnStatus → ∀ call ∈ s.call,
    call.failed = false → 1 < call.requests.length → s.RegisteredInTime call.requests)

instance (s : RaceState) (op : RaceOp) : Decidable (s.TimelyContract op) := by
  unfold TimelyContract
  infer_instance

/-! ## The invariant -/

/-- Below the top of a strictly increasing prefix nothing is missing from the prefix. -/
theorem mem_of_prefix {frames returned : List Nat} {frame : Nat}
    (hsorted : frames.Pairwise (· < ·)) (hreturned : returned ++ [frame] <+: frames) {other : Nat}
    (hmem : other ∈ frames) (hlt : other < frame) : other ∈ returned := by
  obtain ⟨rest, rfl⟩ := hreturned
  rw [List.mem_append, List.mem_append, List.mem_singleton] at hmem
  rcases hmem with (hmem | rfl) | hmem
  · exact hmem
  · omega
  · have habove := (List.pairwise_append.mp hsorted).2.2 frame (by simp) other hmem
    omega

structure CallInv (s : RaceState) (call : RequestCall) : Prop where
  bounded : ∀ request ∈ call.requests, request.frameNumber < 2 ^ 32
  done : ∀ request ∈ call.requests.take call.accepted, request ∈ s.submitted
  ahead : (s.submitted.map (·.frameNumber) ++
    (call.requests.drop call.accepted).map (·.frameNumber)).Pairwise (· < ·)
  batched : 1 < call.requests.length → ∀ request ∈ call.requests,
    ∀ streamId ∈ s.batcherState.batcher.mStreamsToBatch, streamId ∈ request.outputStreams
  above : ∀ batch ∈ s.batcherState.batcher.mInflightBatches,
    ∀ request ∈ call.requests, batch.mLastFrame < request.frameNumber

structure RaceInv (s : RaceState) : Prop where
  attribution : s.batcherState.AttributionInv
  sorted : (s.submitted.map (·.frameNumber)).Pairwise (· < ·)
  covered : ∀ batch ∈ s.batcherState.batcher.mInflightBatches,
    ∀ frame, batch.mFirstFrame ≤ frame → frame ≤ batch.mLastFrame →
      ∃ request ∈ s.submitted, request.frameNumber = frame ∧
        ∀ streamId ∈ batch.mBatchBufs, streamId ∈ request.outputStreams
  returned : ∀ streamId,
    (s.batcherState.received streamId).map (·.halFrame) <+: s.submittedOn streamId
  call : ∀ call, s.call = some call → s.CallInv call

/-- A call starts above everything the HAL has accepted so far. -/
theorem ClientCall.callInv {s : RaceState} {requests : List CaptureRequest}
    (hcall : s.ClientCall requests)
    (hsubmitted : ∀ batch ∈ s.batcherState.batcher.mInflightBatches,
      ∃ request ∈ s.submitted, request.frameNumber = batch.mLastFrame) :
    (s.next (.processCaptureRequest requests)).CallInv { requests } := by
  refine ⟨hcall.bounded, by simp, hcall.increasing, hcall.batched, ?_⟩
  intro batch hbatch request hrequest
  obtain ⟨last, hlast, hframe⟩ := hsubmitted batch hbatch
  rw [← hframe]
  exact (List.pairwise_append.mp hcall.increasing).2.2 _ (List.mem_map_of_mem hlast) _
    (List.mem_map_of_mem hrequest)

/-- A step of another thread that adds no batch leaves the call as it was. -/
theorem CallInv.of_callback {s s' : RaceState} {call : RequestCall} (h : s.CallInv call)
    (hsubmitted : s'.submitted = s.submitted)
    (hstreams : s'.batcherState.batcher.mStreamsToBatch =
      s.batcherState.batcher.mStreamsToBatch)
    (hlast : ∀ after ∈ s'.batcherState.batcher.mInflightBatches,
      ∃ batch ∈ s.batcherState.batcher.mInflightBatches,
        after.mLastFrame = batch.mLastFrame) : s'.CallInv call := by
  refine ⟨h.bounded, by rw [hsubmitted]; exact h.done, by rw [hsubmitted]; exact h.ahead,
    by rw [hstreams]; exact h.batched, ?_⟩
  intro after hmem request hrequest
  obtain ⟨batch, hbatch, heq⟩ := hlast after hmem
  rw [heq]
  exact h.above batch hbatch request hrequest

section

variable {s : RaceState} {call : RequestCall} {request : CaptureRequest}

/-- The next request of a call comes after all submitted ones and before the others. -/
theorem CallInv.ahead_submit (h : s.CallInv call)
    (hat : call.requests[call.accepted]? = some request) :
    ((s.submitted ++ [request]).map (·.frameNumber) ++
      (call.requests.drop (call.accepted + 1)).map (·.frameNumber)).Pairwise (· < ·) := by
  have hahead := h.ahead
  obtain ⟨hlt, rfl⟩ := List.getElem?_eq_some_iff.mp hat
  rw [List.drop_eq_getElem_cons hlt, List.map_cons, List.append_cons] at hahead
  simpa using hahead

/-- The next request of the call is submitted. -/
theorem CallInv.submit (h : s.CallInv call)
    (hat : call.requests[call.accepted]? = some request) :
    ({ s with
      submitted := s.submitted ++ [request]
      call := some { call with accepted := call.accepted + 1 } } : RaceState).CallInv
        { call with accepted := call.accepted + 1 } := by
  refine ⟨h.bounded, ?_, h.ahead_submit hat, h.batched, h.above⟩
  intro request hrequest
  rw [List.take_add_one, hat, List.mem_append] at hrequest
  rcases hrequest with hrequest | hrequest
  · exact List.mem_append_left _ (h.done request hrequest)
  · exact List.mem_append_right _ (by simpa using hrequest)

/-- A request that is refused ends what the call submits. -/
theorem CallInv.refuse (h : s.CallInv call) :
    ({ s with call := some { call with failed := true } } : RaceState).CallInv
      { call with failed := true } :=
  ⟨h.bounded, h.done, h.ahead, h.batched, h.above⟩

end

theorem submittedOn_extends {s s' : RaceState} (h : s.submitted <+: s'.submitted)
    (streamId : Int) : s.submittedOn streamId <+: s'.submittedOn streamId :=
  (h.filter _).map _

theorem sorted_submittedOn {s : RaceState}
    (hsorted : (s.submitted.map (·.frameNumber)).Pairwise (· < ·)) (streamId : Int) :
    (s.submittedOn streamId).Pairwise (· < ·) :=
  hsorted.sublist (List.filter_sublist.map _)

/-- A result in order keeps what was returned in order. -/
theorem returned_processCaptureResult {s : RaceState} {result : CaptureResult}
    (hreturned : ∀ streamId,
      (s.batcherState.received streamId).map (·.halFrame) <+: s.submittedOn streamId)
    (hresult : s.HalInOrder result) (streamId : Int) :
    ((s.batcherState.next (.processCaptureResult result)).received streamId).map (·.halFrame) <+:
      s.submittedOn streamId := by
  rw [BatcherState.received_processCaptureResult, List.map_append]
  rcases CaptureResult.outputsOn_cases hresult.streams streamId with
    hnil | ⟨buffer, hmem, rfl, hout⟩
  · rw [hnil, List.map_nil, List.append_nil]
    exact hreturned streamId
  · rw [hout, List.map_singleton, hresult.frames buffer hmem]
    exact hresult.inOrder buffer hmem

/-- Buffers returned in the order of the requests skip no frame of a batch. -/
theorem RaceInv.buffersInOrder {s : RaceState} (hinv : s.RaceInv) {result : CaptureResult}
    (hresult : s.HalInOrder result) : s.batcherState.BuffersInOrder result := by
  refine ⟨hresult.frames, hresult.streams, ?_, ?_⟩
  · intro buffer hmem earlier hearlier
    have hsorted := (sorted_submittedOn hinv.sorted buffer.streamId).sublist
      (hresult.inOrder buffer hmem).sublist
    exact (List.pairwise_append.mp hsorted).2.2 earlier.halFrame
      (List.mem_map_of_mem hearlier) result.frameNumber (by simp)
  · intro buffer hmem batch hbatch hbatched frame hlt hlo hhi
    obtain ⟨request, hrequest, rfl, houtputs⟩ := hinv.covered batch hbatch frame hlo hhi
    have hsubmitted : request.frameNumber ∈ s.submittedOn buffer.streamId := by
      apply List.mem_map_of_mem
      rw [List.mem_filter, decide_eq_true_eq]
      exact ⟨hrequest, houtputs buffer.streamId hbatched⟩
    have hmem := mem_of_prefix (sorted_submittedOn hinv.sorted buffer.streamId)
      (hresult.inOrder buffer hmem) hsubmitted hlt
    obtain ⟨earlier, hearlier, hframe⟩ := List.mem_map.mp hmem
    exact ⟨earlier, hearlier, hframe⟩

/-- A callback that keeps the batcher invariant and returns no buffer out of order
keeps the invariant. -/
theorem RaceInv.callback {s : RaceState} (hinv : s.RaceInv) (op : BatcherOp)
    (hop : s.batcherState.AttributionContract op)
    (hne : ∀ frameNumber batchSize, op ≠ .registerBatch frameNumber batchSize)
    (hstreams : s.call = none ∨ (s.batcherState.next op).batcher.mStreamsToBatch =
      s.batcherState.batcher.mStreamsToBatch)
    (hreturned : ∀ streamId, ((s.batcherState.next op).received streamId).map (·.halFrame) <+:
      s.submittedOn streamId) :
    ({ s with batcherState := s.batcherState.next op } : RaceState).RaceInv := by
  have hends := hinv.attribution.delivery.ends_next hop.1 hne
  refine ⟨hinv.attribution.next hop, hinv.sorted, ?_, hreturned, ?_⟩
  · intro after hmem frame hlo hhi
    obtain ⟨batch, hbatch, hfirst, hlast, hkeys⟩ := hends after hmem
    obtain ⟨request, hrequest, hframe, houtputs⟩ :=
      hinv.covered batch hbatch frame (hfirst ▸ hlo) (hlast ▸ hhi)
    exact ⟨request, hrequest, hframe, fun streamId h => houtputs streamId ((hkeys streamId).mp h)⟩
  · intro call hcall
    -- streams are reconfigured between calls only, so a call keeps those it started with
    have hsame : (s.batcherState.next op).batcher.mStreamsToBatch =
        s.batcherState.batcher.mStreamsToBatch := by
      rcases hstreams with hnone | hsame
      · rw [hnone] at hcall
        cases hcall
      · exact hsame
    refine (hinv.call call hcall).of_callback rfl hsame ?_
    intro after hmem
    obtain ⟨batch, hbatch, -, hlast, -⟩ := hends after hmem
    exact ⟨batch, hbatch, hlast⟩

/-! ## The steps -/

section

variable {s : RaceState}

/-- A call of the client is above all frames so far. -/
theorem RaceInv.processCaptureRequest (hinv : s.RaceInv) {requests : List CaptureRequest}
    (hcall : s.ClientCall requests) :
    (s.next (.processCaptureRequest requests)).RaceInv := by
  refine ⟨hinv.attribution, hinv.sorted, hinv.covered, hinv.returned, ?_⟩
  intro call heq
  cases heq
  apply hcall.callInv
  intro batch hbatch
  have hnonempty := hinv.attribution.delivery.ordered.nonempty batch hbatch
  obtain ⟨last, hlast, hframe, -⟩ :=
    hinv.covered batch hbatch batch.mLastFrame hnonempty le_rfl
  exact ⟨last, hlast, hframe⟩

/-- One more request at the HAL. -/
theorem RaceInv.submit (hinv : s.RaceInv) {call : RequestCall} (hcall : s.call = some call)
    {request : CaptureRequest} (hat : call.requests[call.accepted]? = some request) :
    ({ s with
      submitted := s.submitted ++ [request]
      call := some { call with accepted := call.accepted + 1 } } : RaceState).RaceInv := by
  have h := hinv.call call hcall
  refine ⟨hinv.attribution, (List.pairwise_append.mp (h.ahead_submit hat)).1, ?_, ?_, ?_⟩
  · intro batch hbatch frame hlo hhi
    obtain ⟨request, hrequest, h⟩ := hinv.covered batch hbatch frame hlo hhi
    exact ⟨request, List.mem_append_left _ hrequest, h⟩
  · exact fun streamId => (hinv.returned streamId).trans
      (submittedOn_extends (List.prefix_append _ _) streamId)
  · intro call' heq
    cases heq
    exact h.submit hat

/-- The next request of the call is submitted, or the call has failed. -/
theorem RaceInv.processOneCaptureRequest (hinv : s.RaceInv) (accepted : Bool) :
    (s.next (.processOneCaptureRequest accepted)).RaceInv := by
  simp only [next]
  split
  next => exact hinv
  next call hcall =>
    split
    next request _ hat =>
      cases accepted with
      | true => exact hinv.submit hcall hat
      | false =>
          refine ⟨hinv.attribution, hinv.sorted, hinv.covered, hinv.returned, ?_⟩
          intro call' heq
          cases heq
          exact (hinv.call call hcall).refuse
    next => exact hinv

theorem exists_request_of_consecutive {requests : List CaptureRequest} {first size : Nat}
    (hframes : requests.map (·.frameNumber) = List.range' first size) (frame : Nat)
    (hlo : first ≤ frame) (hhi : frame < first + size) :
    ∃ request ∈ requests, request.frameNumber = frame := by
  have hmem : frame ∈ requests.map (·.frameNumber) := by
    rw [hframes, List.mem_range'_1]
    exact ⟨hlo, hhi⟩
  exact List.mem_map.mp hmem

/-- Registering a batch whose requests are all at the HAL. -/
theorem RaceInv.register (hinv : s.RaceInv) {call : RequestCall} (hcall : s.call = some call)
    (hall : call.accepted = call.requests.length) {first : CaptureRequest}
    (hfirst : call.requests.head? = some first) (hsize : 1 < call.requests.length)
    (htime : s.RegisteredInTime call.requests) :
    ({ s with
      batcherState := s.batcherState.next
        (.registerBatch first.frameNumber call.requests.length)
      call := none } : RaceState).RaceInv := by
  have h := hinv.call call hcall
  obtain ⟨hframes, hreturned⟩ := htime
  rw [hfirst, Option.map_some, Option.getD_some] at hframes
  have hexists := exists_request_of_consecutive hframes
  have hrange : s.batcherState.RangeIncreasing first.frameNumber call.requests.length := by
    refine ⟨by omega, ?_, ?_⟩
    · obtain ⟨last, hlast, hframe⟩ :=
        hexists (first.frameNumber + call.requests.length - 1) (by omega) (by omega)
      have hbound := h.bounded last hlast
      omega
    · exact fun batch hbatch => h.above batch hbatch first (List.mem_of_mem_head? hfirst)
  -- the frames of the range are those of the requests, so the streams decide for both
  have htimely : s.batcherState.InTime first.frameNumber call.requests.length := by
    intro streamId hbatched
    rcases hreturned streamId hbatched with hnone | hevery
    · refine .inl fun frame hlo hhi => ?_
      obtain ⟨request, hrequest, rfl⟩ := hexists frame hlo hhi
      exact hnone request hrequest
    · obtain ⟨last, hlast, hframe⟩ :=
        hexists (first.frameNumber + call.requests.length - 1) (by omega) (by omega)
      rw [← hframe]
      exact .inr (hevery last hlast)
  refine ⟨hinv.attribution.registerBatch hrange htimely, hinv.sorted, ?_, hinv.returned,
    fun _ hnone => by cases hnone⟩
  obtain ⟨hlo, hhi⟩ := BatcherState.newBatch_ends hrange
  intro batch hmem frame hfrom hto
  rcases List.mem_append.mp hmem with hmem | hmem
  · exact hinv.covered batch hmem frame hfrom hto
  · rw [List.mem_singleton.mp hmem] at hfrom hto ⊢
    rw [hlo] at hfrom
    rw [hhi] at hto
    obtain ⟨request, hrequest, hframe⟩ := hexists frame hfrom (by omega)
    refine ⟨request, h.done request (by rwa [hall, List.take_length]), hframe, ?_⟩
    intro streamId hkey
    exact h.batched hsize request hrequest streamId (ResultBatcher.mem_newBatch.mp hkey)

/-- The call returns, and registers its batch if all its requests were accepted. -/
theorem RaceInv.returnStatus (hinv : s.RaceInv) (hop : s.TimelyContract .returnStatus) :
    (s.next .returnStatus).RaceInv := by
  obtain ⟨hdone, htime⟩ := hop
  simp only [next]
  split
  next => exact hinv
  next call hcall =>
    unfold registerBatch
    split
    next first second rest hfailed hrequests =>
      simp only [RaceContract, hcall, Option.any_some, hfailed, Bool.false_or,
        beq_iff_eq] at hdone
      have hsize : 1 < call.requests.length := by simp [hrequests]
      have h := hinv.register hcall hdone (by rw [hrequests]; rfl) hsize
        (htime rfl call hcall hfailed hsize)
      rwa [hrequests] at h
    next =>
      exact ⟨hinv.attribution, hinv.sorted, hinv.covered, hinv.returned,
        fun _ hnone => by cases hnone⟩

/-- A result in order keeps the invariant. -/
theorem RaceInv.processCaptureResult (hinv : s.RaceInv) {result : CaptureResult}
    (hresult : s.HalInOrder result) : (s.next (.processCaptureResult result)).RaceInv := by
  have horder := hinv.buffersInOrder hresult
  refine hinv.callback (.processCaptureResult result) ⟨horder, fun _ _ h => by cases h⟩
    (fun _ _ h => by cases h)
    (.inr (BatcherState.mStreamsToBatch_processCaptureResult hinv.attribution.delivery)) ?_
  exact returned_processCaptureResult hinv.returned hresult

/-- So does every message. -/
theorem RaceInv.notify (hinv : s.RaceInv) (msg : NotifyMsg) : (s.next (.notify msg)).RaceInv := by
  have hpresent := fun batch hmem => (hinv.attribution.delivery.batches batch hmem).present
  have hframe : (s.batcherState.next (.notify msg)).batcher.mStreamsToBatch =
        s.batcherState.batcher.mStreamsToBatch ∧
      (s.batcherState.next (.notify msg)).results = s.batcherState.results := by
    cases msg with
    | shutter frameNumber timestamp =>
        obtain ⟨effects, batcher, heq, -, hstreams, -⟩ :=
          s.batcherState.batcher.notify_shutter_cases hpresent frameNumber timestamp
        simp only [BatcherState.next, heq]
        exact ⟨hstreams, trivial⟩
    | error frameNumber errorStreamId errorCode =>
        obtain ⟨effects, batcher, heq, hstreams, -⟩ :=
          s.batcherState.batcher.notify_error_cases frameNumber errorStreamId errorCode
        simp only [BatcherState.next, heq]
        exact ⟨hstreams, trivial⟩
  refine hinv.callback (.notify msg) ⟨trivial, fun _ _ h => by cases h⟩
    (fun _ _ h => by cases h) (.inr hframe.1) ?_
  intro streamId
  rw [BatcherState.received, hframe.2]
  exact hinv.returned streamId

/-- Streams are configured while all submitted buffers are back, so no batch waits. -/
theorem RaceInv.setBatchedStreams (hinv : s.RaceInv) {streamsToBatch : List Int}
    (hop : s.RaceContract (.setBatchedStreams streamsToBatch)) :
    (s.next (.setBatchedStreams streamsToBatch)).RaceInv := by
  obtain ⟨hcall, hnodup, hreturned⟩ := hop
  refine hinv.callback (.setBatchedStreams streamsToBatch)
    ⟨⟨hnodup, ?_⟩, fun _ _ h => by cases h⟩ (fun _ _ h => by cases h) (.inl hcall) hinv.returned
  intro batch hbatch streamId hkey
  have hnonempty := hinv.attribution.delivery.ordered.nonempty batch hbatch
  obtain ⟨request, hrequest, hframe, houtputs⟩ :=
    hinv.covered batch hbatch batch.mLastFrame hnonempty le_rfl
  rw [← hframe]
  exact hreturned request hrequest streamId (houtputs streamId (Std.ExtTreeMap.mem_keys.mp hkey))

/-- Every step within the contract keeps the invariant. -/
theorem RaceInv.next (hinv : s.RaceInv) {op : RaceOp} (hop : s.TimelyContract op) :
    (s.next op).RaceInv := by
  cases op with
  | processCaptureRequest requests => exact hinv.processCaptureRequest hop.1
  | processOneCaptureRequest accepted => exact hinv.processOneCaptureRequest accepted
  | returnStatus => exact hinv.returnStatus hop
  | processCaptureResult result => exact hinv.processCaptureResult hop.1
  | notify msg => exact hinv.notify msg
  | setBatchedStreams streamsToBatch => exact hinv.setBatchedStreams hop.1

end

theorem raceInv_initial (numPartialResults : Nat) : (initial numPartialResults).RaceInv :=
  ⟨BatcherState.attributionInv_initial numPartialResults, List.Pairwise.nil,
    by simp [initial, BatcherState.initial], fun _ => List.prefix_refl _, fun _ h => by cases h⟩

/-! ## Frame attribution -/

/-- In every interleaving in which batches are registered in time, the buffers
delivered so far carry the frame numbers of the results they arrived in. -/
theorem delivered_attributed (numPartialResults : Nat) (ops : List RaceOp)
    (hops : Admits next TimelyContract (initial numPartialResults) ops) (streamId : Int) :
    Attributed ((run next (initial numPartialResults) ops).batcherState.delivered streamId) := by
  have hinv := hops.invariant RaceInv (fun s op h hop => h.next hop)
    (raceInv_initial numPartialResults)
  exact hinv.attribution.attributed streamId

/-- A request for stream 7 and the result that returns its buffer. -/
def requestFor (frameNumber : Nat) : CaptureRequest :=
  { frameNumber, outputBuffers := [{ streamId := 7, bufferId := frameNumber }] }

def resultFor (frameNumber : Nat) : CaptureResult :=
  { frameNumber
    inputBuffer := { streamId := -1 }
    outputBuffers := [{ streamId := 7, bufferId := frameNumber, halFrame := frameNumber }] }

def timelyBatch : List RaceOp :=
  [.setBatchedStreams [7], .processCaptureRequest [requestFor 1, requestFor 2],
    .processOneCaptureRequest true, .processOneCaptureRequest true, .returnStatus,
    .processCaptureResult (resultFor 1), .processCaptureResult (resultFor 2)]

theorem delivered_attributed_timelyBatch :
    Admits next TimelyContract (initial 1) timelyBatch ∧
      Attributed ((run next (initial 1) timelyBatch).batcherState.delivered 7) := by
  have hops : Admits next TimelyContract (initial 1) timelyBatch := by decide
  exact ⟨hops, delivered_attributed 1 timelyBatch hops 7⟩

/-- The first frame comes back before its batch is registered. -/
def lateBatch : List RaceOp :=
  [.setBatchedStreams [7], .processCaptureRequest [requestFor 1, requestFor 2],
    .processOneCaptureRequest true, .processCaptureResult (resultFor 1),
    .processOneCaptureRequest true, .returnStatus, .processCaptureResult (resultFor 2)]

/-- The buffer of the second frame is delivered under the number of the first. -/
theorem lateBatch_misattributed :
    Admits next RaceContract (initial 1) lateBatch ∧
      ¬ Attributed ((run next (initial 1) lateBatch).batcherState.delivered 7) := by
  decide

end RaceState

end LgeHardware.Camera
