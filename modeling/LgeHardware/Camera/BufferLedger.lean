import LgeHardware.Foundation.Ledger
import LgeHardware.Camera.InflightDrain

/-! # The books of the buffers

A request puts its buffers in flight. A HAL result takes its buffers out of flight and passes
them on, or drops them where the rest of the result is invalid, and a request that the HAL refuses
takes back its own. Nothing else takes a buffer out of flight, and no buffer is passed on that was
not in flight, whatever the HAL returns and in whichever order.
-/

namespace LgeHardware.Camera

open LgeHardware.Foundation

/-- The streams and frames of the buffers in a result for the camera service. An input buffer of
stream -1 is none. -/
def CaptureResult.bufferKeys (result : CaptureResult) : List (Int × Nat) :=
  (if result.inputBuffer.streamId ≠ -1 then [(result.inputBuffer.streamId, result.frameNumber)]
    else []) ++ result.outputBuffers.map fun buffer => (buffer.streamId, result.frameNumber)

theorem Session.Carries.bufferKeys {result : CaptureResult} {hal : Camera3CaptureResult}
    (h : Session.Carries result hal) (hinput : ∀ buffer ∈ hal.inputBuffer, buffer.stream ≠ -1) :
    result.bufferKeys = hal.inflightKeys := by
  have houtputs : result.outputBuffers.map (·.streamId) = hal.outputBuffers.map (·.stream) := by
    have hstreams := congrArg (List.map Prod.fst) h.outputs
    rwa [List.map_map, List.map_map] at hstreams
  have hkeys : (result.outputBuffers.map fun buffer => (buffer.streamId, result.frameNumber)) =
      hal.outputBuffers.map fun buffer => (buffer.stream, hal.frameNumber) := by
    rw [h.frame]
    have hpairs := congrArg (List.map (·, hal.frameNumber)) houtputs
    rwa [List.map_map, List.map_map] at hpairs
  have hfirst := h.input
  rw [CaptureResult.bufferKeys, hkeys, Camera3CaptureResult.inflightKeys,
    Camera3CaptureResult.buffers, List.map_append]
  congr 1
  cases hbuffer : hal.inputBuffer with
  | none =>
      rw [hbuffer] at hfirst
      rw [if_neg (not_not_intro hfirst)]
      rfl
  | some buffer =>
      rw [hbuffer] at hfirst
      dsimp only at hfirst
      have hstream : result.inputBuffer.streamId = buffer.stream := by rw [hfirst]; rfl
      rw [if_pos (by rw [hstream]; exact hinput buffer hbuffer), hstream, h.frame]
      rfl

namespace Session

/-- A result with a buffer that is not in flight passes nothing on and changes nothing. One whose
buffers are in flight takes them, and what is passed on has them all. -/
theorem acceptCaptureResult_carries (lib : MetadataLib) {s : Session} {hal : Camera3CaptureResult}
    {result : CaptureResult} (h : (s.acceptCaptureResult lib hal).1 = some result) :
    s.ResultInflight hal ∧ Carries result (sShrinkCaptureResult lib s.handlePhysCam hal) := by
  by_cases hinflight : s.ResultInflight hal
  · obtain ⟨taken, s', htaken, hcarries, -⟩ :=
      constructCaptureResult_of_inflight lib s (sShrinkCaptureResult lib s.handlePhysCam hal)
        hinflight
    simp only [acceptCaptureResult, htaken] at h
    split at h
    next =>
      split at h
      next =>
        cases h
        exact ⟨hinflight, hcarries.frame, hcarries.outputs, hcarries.input⟩
      next => cases h
    next =>
      cases h
      exact ⟨hinflight, hcarries⟩
  · rw [acceptCaptureResult_of_not_inflight lib s hal hinflight] at h
    cases h

end Session

namespace DrainState

variable (lib : MetadataLib) (key : Int × Nat)

/-- Whether the buffer is in flight, as a number. -/
def inFlight (s : DrainState) : Nat := if key ∈ s.session.mInflightBuffers then 1 else 0

/-- A request that is recorded puts its buffers in flight. -/
def entered (s : DrainState) : DrainOp → Nat
  | .submit world request =>
      if key ∈ request.inflightKeys ∧ key ∉ s.session.mInflightBuffers ∧
        key ∈ (s.next lib (.submit world request)).session.mInflightBuffers then 1 else 0
  | _ => 0

/-- How often the result that is passed on has the buffer. -/
def passedOn (s : DrainState) : DrainOp → Nat
  | .result hal =>
      match (s.session.acceptCaptureResult lib (s.session.resolve hal)).1 with
      | some result => result.bufferKeys.count key
      | none => 0
  | _ => 0

/-- A result in flight whose physical camera metadata is invalid is dropped with its buffers. -/
def dropped (s : DrainState) : DrainOp → Nat
  | .result hal =>
      match (s.session.acceptCaptureResult lib (s.session.resolve hal)).1 with
      | some _ => 0
      | none => if s.session.ResultInflight (s.session.resolve hal) then
          (s.session.resolve hal).inflightKeys.count key else 0
  | _ => 0

/-- A request that the HAL refuses takes back those of its buffers that are still in flight. -/
def withdrawn (s : DrainState) : DrainOp → Nat
  | .halReturned pending ret =>
      if ret ≠ statusOk ∧ key ∈ pending.request.inflightKeys then inFlight key s else 0
  | _ => 0

/-- All that a step gives away of the buffer. -/
def given (s : DrainState) (op : DrainOp) : Nat :=
  passedOn lib key s op + (dropped lib key s op + withdrawn key s op)

/-- The HAL may return what it likes, but in one result no buffer twice, and an input buffer of a
stream that there is. -/
def ResultDistinct (s : DrainState) : DrainOp → Prop
  | .result hal => (s.session.resolve hal).inflightKeys.Nodup ∧
      ∀ buffer ∈ (s.session.resolve hal).inputBuffer, buffer.stream ≠ -1
  | _ => True

instance (s : DrainState) (op : DrainOp) : Decidable (s.ResultDistinct op) :=
  match op with
  | .result _ => inferInstanceAs (Decidable (_ ∧ _))
  | .submit .. | .halReturned .. | .registerBatch .. | .notifyShutter .. | .notifyError ..
  | .configureStreams .. | .updateBufferCaches .. | .disconnect | .close =>
      inferInstanceAs (Decidable True)

/-! ## One step -/

variable {lib} {key} {s s' : DrainState}

theorem inFlight_congr (h : s'.session.mInflightBuffers = s.session.mInflightBuffers) :
    inFlight key s' = inFlight key s := by
  rw [inFlight, h, inFlight]

theorem inFlight_of_iff {held : Prop} [Decidable held]
    (h : key ∈ s.session.mInflightBuffers ↔ held) :
    inFlight key s = if held then 1 else 0 := if_congr h rfl rfl

/-- A request puts in flight what it has entered, whatever becomes of it afterwards. -/
theorem inFlight_submit (world : RequestWorld) (request : CaptureRequest) :
    inFlight key (s.next lib (.submit world request)) =
      inFlight key s + entered lib key s (.submit world request) := by
  have hkeys : key ∈ (s.next lib (.submit world request)).session.mInflightBuffers ↔
      key ∈ s.session.mInflightBuffers ∨ key ∈ request.inflightKeys ∧
        key ∈ (s.next lib (.submit world request)).session.mInflightBuffers := by
    have hspec := prepareRequest_spec lib world request { session := s.session }
    rw [Ends] at hspec
    simp only [next]
    cases hresult : prepareRequest lib world request { session := s.session } with
    | ok pending c =>
        rw [hresult] at hspec
        have hmem := hspec.2.2.registered.mem_buffers key
        dsimp only at hmem ⊢
        rw [hmem]
        tauto
    | error e c =>
        rw [hresult] at hspec
        dsimp only
        rcases hspec with ⟨-, -, hsame, -⟩ | ⟨-, -, pending, hrecorded⟩
        · rw [hsame.keeps.1.buffers]
          tauto
        · rw [hrecorded.registered.mem_buffers key]
          tauto
  rw [inFlight, inFlight, entered]
  by_cases hbefore : key ∈ s.session.mInflightBuffers
  · rw [if_pos (hkeys.mpr (.inl hbefore)), if_pos hbefore, if_neg fun h => h.2.1 hbefore]
  · rw [if_neg hbefore, Nat.zero_add]
    split
    next hafter =>
      rw [if_pos ⟨((hkeys.mp hafter).resolve_left hbefore).1, hbefore, hafter⟩]
    next hafter => rw [if_neg fun h => hafter h.2.2]

theorem inFlight_halReturned (pending : PendingRequest) (ret : Int) :
    inFlight key (s.next lib (.halReturned pending ret)) +
      withdrawn key s (.halReturned pending ret) = inFlight key s := by
  have hmem : key ∈ (s.next lib (.halReturned pending ret)).session.mInflightBuffers ↔
      key ∈ s.session.mInflightBuffers ∧
        ¬(ret ≠ statusOk ∧ key ∈ pending.request.inflightKeys) := by
    simp only [next, completeRequest_session]
    split
    next hret => simp [hret]
    next hret =>
      rw [Session.dropRequest, Std.ExtTreeMap.mem_eraseAll]
      simp [hret]
  rw [inFlight_of_iff hmem, withdrawn]
  by_cases hkey : ret ≠ statusOk ∧ key ∈ pending.request.inflightKeys
  · rw [if_pos hkey, if_neg fun h => h.2 hkey, Nat.zero_add]
  · rw [if_neg hkey, Nat.add_zero]
    exact if_congr (and_iff_left hkey) rfl rfl

/-- Messages change no record of a buffer. -/
theorem buffers_sNotify {session session' : Session} {msg : NotifyMsg} {effects : List Effect}
    (h : session.sNotify msg = some (effects, session')) :
    session'.mInflightBuffers = session.mInflightBuffers := by
  have haccept : ∀ accepted, session.acceptNotify msg = some accepted →
      accepted.mInflightBuffers = session.mInflightBuffers := by
    intro accepted haccepted
    rw [Session.acceptNotify.eq_def] at haccepted
    split at haccepted
    next => cases haccepted; rfl
    next =>
      split at haccepted
      next => cases haccepted
      next => split at haccepted <;> cases haccepted <;> rfl
  rw [Session.sNotify] at h
  split at h
  next => cases h; rfl
  next accepted haccepted =>
    obtain ⟨⟨_, batcher⟩, -, heq⟩ := Option.map_eq_some_iff.mp h
    cases heq
    exact haccept accepted haccepted

/-- A result takes exactly the buffers out of flight that it passes on or drops. -/
theorem inFlight_result {hal : Camera3CaptureResult} (h : s.ResultDistinct (.result hal)) :
    inFlight key (s.next lib (.result hal)) + (passedOn lib key s (.result hal) +
      dropped lib key s (.result hal)) = inFlight key s := by
  by_cases hinflight : s.session.ResultInflight (s.session.resolve hal)
  · -- the session takes the buffers, and they are counted once, passed on or not
    have hcount : passedOn lib key s (.result hal) + dropped lib key s (.result hal) =
        (s.session.resolve hal).inflightKeys.count key := by
      rw [passedOn, dropped]
      cases haccept : (s.session.acceptCaptureResult lib (s.session.resolve hal)).1 with
      | none => rw [if_pos hinflight, Nat.zero_add]
      | some result =>
          have hkeys := (Session.acceptCaptureResult_carries lib haccept).2.bufferKeys h.2
          dsimp only
          rw [hkeys]
          rfl
    have hmem : key ∈ (s.next lib (.result hal)).session.mInflightBuffers ↔
        key ∈ s.session.mInflightBuffers ∧ key ∉ (s.session.resolve hal).inflightKeys := by
      simp only [next]
      rw [(Session.sProcessCaptureResult_takes lib hinflight).buffers]
      exact Std.ExtTreeMap.mem_eraseAll _ _ key
    rw [hcount, h.1.count, inFlight_of_iff hmem]
    by_cases hkey : key ∈ (s.session.resolve hal).inflightKeys
    · rw [if_pos hkey, if_neg fun h => h.2 hkey, inFlight, if_pos (hinflight key hkey)]
    · rw [if_neg hkey, Nat.add_zero]
      exact if_congr (and_iff_left hkey) rfl rfl
  · have hrefused := Session.acceptCaptureResult_of_not_inflight lib s.session _ hinflight
    have hsame : (s.next lib (.result hal)).session = s.session := by
      simp only [next]
      rw [Session.sProcessCaptureResult_of_not_inflight lib s.session _ hinflight]
    rw [passedOn, dropped, hrefused, if_neg hinflight]
    exact inFlight_congr (congrArg Session.mInflightBuffers hsame)

/-- The operations that are neither requests nor results leave the books of the buffers alone. -/
theorem buffers_others {op : DrainOp} (hsubmit : ∀ world request, op ≠ .submit world request)
    (hreturned : ∀ pending ret, op ≠ .halReturned pending ret)
    (hresult : ∀ hal, op ≠ .result hal) :
    (s.next lib op).session.mInflightBuffers = s.session.mInflightBuffers := by
  cases op with
  | submit world request => exact absurd rfl (hsubmit world request)
  | halReturned pending ret => exact absurd rfl (hreturned pending ret)
  | result hal => exact absurd rfl (hresult hal)
  | registerBatch frameNumber batchSize => rfl
  | notifyShutter frameNumber timestamp =>
      simp only [next]
      split
      next => rfl
      next effects session hnotify => exact buffers_sNotify hnotify
  | notifyError frameNumber errorStream errorCode =>
      simp only [next]
      split
      next => rfl
      next effects session hnotify => exact buffers_sNotify hnotify
  | configureStreams config answer =>
      rcases s.next_configureStreams_cases lib config answer with
        hnext | ⟨-, session, hkeeps, hnext⟩
      · rw [hnext]
      · rw [hnext]
        exact hkeeps.buffers
  | updateBufferCaches cachesToRemove =>
      simp only [next]
      rw [Session.updateBufferCaches_frame]
  | disconnect => rfl
  | close =>
      simp only [next]
      rw [Session.close_frame]

/-- The books of a buffer balance at every step. -/
theorem balance_next (op : DrainOp) (h : s.ResultDistinct op) :
    inFlight key (s.next lib op) + given lib key s op = inFlight key s + entered lib key s op := by
  cases op with
  | submit world request => exact inFlight_submit world request
  | halReturned pending ret =>
      rw [given, passedOn, dropped, Nat.zero_add, Nat.zero_add, entered]
      · exact inFlight_halReturned pending ret
      · simp
      · simp
      · simp
  | result hal => exact inFlight_result h
  | registerBatch frameNumber batchSize => exact inFlight_congr rfl
  | notifyShutter frameNumber timestamp =>
      exact inFlight_congr (buffers_others (by simp) (by simp) (by simp))
  | notifyError frameNumber errorStream errorCode =>
      exact inFlight_congr (buffers_others (by simp) (by simp) (by simp))
  | configureStreams config answer =>
      exact inFlight_congr (buffers_others (by simp) (by simp) (by simp))
  | updateBufferCaches cachesToRemove =>
      exact inFlight_congr (buffers_others (by simp) (by simp) (by simp))
  | disconnect => exact inFlight_congr rfl
  | close => exact inFlight_congr (buffers_others (by simp) (by simp) (by simp))

/-! ## Runs -/

end DrainState

end LgeHardware.Camera
