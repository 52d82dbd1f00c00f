import LgeHardware.Camera.FrameAttribution
import LgeHardware.Camera.InflightDrain

/-! # A session and its result batcher

What a session accepts of the HAL it hands to its result batcher, which passes it on to the
framework or holds it back. So a run of the session is a run of the batcher as well, by the
operations that the session makes of its own.
-/

namespace LgeHardware.Camera

open LgeHardware.Foundation

namespace Session

/-! ## Methods that leave the result batcher alone -/

section

variable (lib : MetadataLib) (s : Session)

theorem resultMetadata_mResultBatcher (hal : Camera3CaptureResult) :
    (s.resultMetadata lib hal).2.mResultBatcher = s.mResultBatcher := by
  rw [resultMetadata]
  split
  next => rfl
  next => rw [applyTriggerOverride_frame, derivePostRawSensKey_frame]

theorem acceptCaptureResult_mResultBatcher (hal : Camera3CaptureResult) :
    (s.acceptCaptureResult lib hal).2.mResultBatcher = s.mResultBatcher := by
  have hconstruct : ∀ shrunk, (s.constructCaptureResult lib shrunk).2.mResultBatcher =
      s.mResultBatcher := by
    intro shrunk
    rw [constructCaptureResult]
    split
    next => rfl
    next =>
      dsimp only
      rw [outputBuffers_frame]
      exact s.resultMetadata_mResultBatcher lib shrunk
  rw [acceptCaptureResult]
  rcases hresult : s.constructCaptureResult lib (sShrinkCaptureResult lib s.handlePhysCam hal)
    with ⟨_ | result, s'⟩
  · exact (congrArg (·.2.mResultBatcher) hresult).symm.trans (hconstruct _)
  · have hsame : s'.mResultBatcher = s.mResultBatcher :=
      (congrArg (·.2.mResultBatcher) hresult).symm.trans (hconstruct _)
    dsimp only
    split
    next =>
      split
      next => exact hsame
      next => exact hsame
    next => exact hsame

theorem acceptNotify_mResultBatcher {s accepted : Session} {msg : NotifyMsg}
    (h : s.acceptNotify msg = some accepted) : accepted.mResultBatcher = s.mResultBatcher := by
  rw [acceptNotify.eq_def] at h
  split at h
  next => cases h; rfl
  next =>
    split at h
    next => cases h
    next => split at h <;> cases h <;> rfl

/-- An accepted message is one for the result batcher. -/
theorem sNotify_of_accepted {s accepted : Session} {msg : NotifyMsg}
    (h : s.acceptNotify msg = some accepted) :
    s.sNotify msg = (s.mResultBatcher.notify msg).map fun (effects, batcher) =>
      (effects, { accepted with mResultBatcher := batcher }) := by
  rw [← acceptNotify_mResultBatcher h, sNotify, h]

theorem preProcessStream_mResultBatcher (stream : Stream) :
    (s.preProcessStream stream).2.mResultBatcher = s.mResultBatcher := by
  rw [preProcessStream]
  split
  next => rfl
  next =>
    split
    next => rfl
    next =>
      dsimp only
      split <;> rfl

theorem preProcessStreams_mResultBatcher (streams : List Stream) :
    (s.preProcessStreams streams).2.mResultBatcher = s.mResultBatcher := by
  induction streams generalizing s with
  | nil => rfl
  | cons stream rest ih =>
      have hone := s.preProcessStream_mResultBatcher stream
      rw [preProcessStreams]
      rcases hresult : s.preProcessStream stream with ⟨_ | _, s'⟩
      · rw [hresult] at hone
        exact hone
      · rw [hresult] at hone
        exact (ih s').trans hone

theorem preProcessConfigurationLocked_mResultBatcher {s s' : Session}
    {config : StreamConfiguration} {ok : Bool} {events : List SessionEvent}
    (h : s.preProcessConfigurationLocked config = some (ok, events, s')) :
    s'.mResultBatcher = s.mResultBatcher := by
  have hstreams := s.preProcessStreams_mResultBatcher config.streams
  rcases preProcessConfigurationLocked_eq_some h with ⟨-, ⟨rfl, rfl, -⟩ | ⟨-, -, hclean⟩⟩
  · exact hstreams
  · rw [cleanupStreams_frame hclean]
    exact hstreams

/-- The streams to batch are those of the session, distinct where the streams of the
configuration are. -/
theorem postProcessConfigurationLocked_batches {s s' : Session} {config : StreamConfiguration}
    {events : List SessionEvent}
    (h : s.postProcessConfigurationLocked config = some (events, s')) :
    s'.mResultBatcher = s.mResultBatcher.setBatchedStreams s'.mVideoStreamIds ∧
      s'.mVideoStreamIds.Sublist (config.streams.map (·.id)) := by
  obtain ⟨⟨freed, s₁⟩, hclean, heq⟩ := Option.map_eq_some_iff.mp h
  cases heq
  have hsame : s₁.mResultBatcher = s.mResultBatcher := by
    split at hclean
    next => cases hclean; rfl
    next => rw [cleanupStreams_frame hclean]
  refine ⟨?_, List.filter_sublist.map _⟩
  dsimp only
  rw [hsame]

/-- Only a configuration that succeeds changes the streams to batch, and it does so while
nothing is in flight. -/
theorem configureStreams_batches {s s' : Session} {config : StreamConfiguration}
    {answer : ConfigureAnswer} {status : Status} {events : List SessionEvent}
    (h : s.configureStreams config answer = some (status, events, s')) :
    status = .ok ∧ s.NothingInflight ∧
        s'.mResultBatcher = s.mResultBatcher.setBatchedStreams s'.mVideoStreamIds ∧
        s'.mVideoStreamIds.Sublist (config.streams.map (·.id)) ∨
      status ≠ .ok ∧ s'.mResultBatcher = s.mResultBatcher := by
  rw [configureStreams] at h
  split at h
  next =>
    cases h
    exact .inr ⟨Status.noConfusion, rfl⟩
  next hidle =>
    rw [configureIdle] at h
    dsimp only at h
    split at h
    next hnot =>
      cases h
      exact .inr ⟨hnot, rfl⟩
    next =>
      obtain ⟨⟨ok, before, s₁⟩, hpre, hrest⟩ := Option.bind_eq_some_iff.mp h
      have hsame := preProcessConfigurationLocked_mResultBatcher hpre
      dsimp only at hsame hrest
      split at hrest
      next =>
        cases hrest
        exact .inr ⟨Status.noConfusion, hsame⟩
      next =>
        split at hrest
        next =>
          obtain ⟨⟨freed, s₂⟩, hpost, heq⟩ := Option.map_eq_some_iff.mp hrest
          cases heq
          obtain ⟨hbatches, hstreams⟩ := postProcessConfigurationLocked_batches hpost
          refine .inl ⟨rfl, Classical.not_not.mp hidle, ?_, hstreams⟩
          rw [← hsame]
          exact hbatches
        next =>
          cases hrest
          refine .inr ⟨?_, ?_⟩
          · split <;> exact Status.noConfusion
          · rw [postProcessConfigurationFailureLocked]
            split
            next => exact hsame
            next => exact hsame

end

end Session

/-! ## Both at once -/

/-- A session at work, the results that it handed to its result batcher, and what the batcher
did to the outside. -/
structure PipelineState where
  drain : DrainState
  results : List CaptureResult := []
  effects : List Effect := []

namespace DrainState

variable (lib : MetadataLib) (s : DrainState)

/-- The message that a notification of the HAL becomes. -/
def message : DrainOp → Option NotifyMsg
  | .notifyShutter frameNumber timestamp => some (.shutter frameNumber timestamp)
  | .notifyError frameNumber errorStream errorCode =>
      some (.error frameNumber (s.session.errorStreamId errorStream) errorCode)
  | _ => none

/-- What the session asks of its result batcher. -/
def asks : DrainOp → Option BatcherOp
  | .registerBatch frameNumber batchSize => some (.registerBatch frameNumber batchSize)
  | .result hal => (s.session.acceptCaptureResult lib (s.session.resolve hal)).1.map
      .processCaptureResult
  | .configureStreams config answer =>
      match s.session.configureStreams config answer with
      | some (.ok, _, session) => some (.setBatchedStreams session.mVideoStreamIds)
      | _ => none
  | op => (s.message op).bind fun msg => (s.session.acceptNotify msg).map fun _ => .notify msg

/-- The result that the session hands over. -/
def handed : DrainOp → List CaptureResult
  | .result hal => (s.session.acceptCaptureResult lib (s.session.resolve hal)).1.toList
  | _ => []

/-- What is done to the outside on the way to the framework. -/
def told : DrainOp → List Effect
  | .result hal => (s.session.sProcessCaptureResult lib (s.session.resolve hal)).1
  | op => ((s.message op).bind s.session.sNotify).elim [] Prod.fst

end DrainState

namespace PipelineState

variable {lib : MetadataLib}

def next (lib : MetadataLib) (p : PipelineState) (op : DrainOp) : PipelineState where
  drain := p.drain.next lib op
  results := p.results ++ p.drain.handed lib op
  effects := p.effects ++ p.drain.told lib op

/-- The run as the result batcher sees it. -/
def batcherState (p : PipelineState) : BatcherState where
  batcher := p.drain.session.mResultBatcher
  effects := p.effects
  results := p.results

theorem batcherState_eq_of_silent {p : PipelineState} {op : DrainOp}
    (hbatcher : (p.drain.next lib op).session.mResultBatcher = p.drain.session.mResultBatcher)
    (hhanded : p.drain.handed lib op = []) (htold : p.drain.told lib op = []) :
    (p.next lib op).batcherState = p.batcherState := by
  rw [batcherState, next, hhanded, htold, List.append_nil, List.append_nil]
  exact congrArg (BatcherState.mk · p.effects p.results) hbatcher

/-- A message goes to the batcher where the session accepts it, and to nowhere otherwise. -/
theorem batcherState_notify {p : PipelineState} {op : DrainOp} {msg : NotifyMsg}
    (hsession : (p.drain.next lib op).session =
      (p.drain.session.sNotify msg).elim p.drain.session Prod.snd)
    (hhanded : p.drain.handed lib op = [])
    (htold : p.drain.told lib op = (p.drain.session.sNotify msg).elim [] Prod.fst) :
    (p.next lib op).batcherState =
      ((p.drain.session.acceptNotify msg).map fun _ => BatcherOp.notify msg).elim
        p.batcherState p.batcherState.next := by
  simp only [batcherState, next, hsession, hhanded, htold, List.append_nil]
  cases haccept : p.drain.session.acceptNotify msg with
  | none => simp [Session.sNotify, haccept]
  | some accepted =>
      rw [Session.sNotify_of_accepted haccept]
      cases hnotify : p.drain.session.mResultBatcher.notify msg with
      | none => simp [BatcherState.next, hnotify]
      | some sent => simp [BatcherState.next, hnotify]

/-- A step of the session is the step of the batcher that the session asks for, or none. -/
theorem batcherState_next (p : PipelineState) (op : DrainOp) :
    (p.next lib op).batcherState =
      (p.drain.asks lib op).elim p.batcherState p.batcherState.next := by
  cases op with
  -- Requests tell the batcher nothing, whether they are recorded or given up.
  | submit world request =>
      refine batcherState_eq_of_silent ?_ rfl rfl
      have hspec := prepareRequest_spec lib world request { session := p.drain.session }
      rw [Ends] at hspec
      simp only [DrainState.next]
      cases hresult : prepareRequest lib world request { session := p.drain.session } with
      | ok pending c =>
          rw [hresult] at hspec
          have hsame := congrArg Session.mResultBatcher hspec.2.2.registered.others
          exact hsame
      | error e c =>
          rw [hresult] at hspec
          rcases hspec with ⟨-, -, hsame, -⟩ | ⟨-, -, pending, hrecorded⟩
          · have hsame := congrArg Session.mResultBatcher hsame
            exact hsame
          · have hsame := congrArg Session.mResultBatcher hrecorded.registered.others
            exact hsame
  | halReturned pending ret =>
      refine batcherState_eq_of_silent ?_ rfl rfl
      simp only [DrainState.next, completeRequest_session]
      split <;> rfl
  | registerBatch frameNumber batchSize =>
      simp [batcherState, next, DrainState.handed, DrainState.told, DrainState.message,
        DrainState.asks, DrainState.next, BatcherState.next]
  | result hal =>
      have hsame := p.drain.session.acceptCaptureResult_mResultBatcher lib
        (p.drain.session.resolve hal)
      simp only [batcherState, next, DrainState.next, DrainState.handed, DrainState.told,
        DrainState.asks, Session.sProcessCaptureResult]
      -- A result that is not accepted does not get as far as the batcher.
      rcases haccept : p.drain.session.acceptCaptureResult lib (p.drain.session.resolve hal)
        with ⟨_ | result, s⟩
      · rw [haccept] at hsame
        dsimp only at hsame
        simp [hsame]
      · rw [haccept] at hsame
        dsimp only at hsame
        simp [hsame, BatcherState.next]
  | notifyShutter frameNumber timestamp =>
      have htold : p.drain.told lib (.notifyShutter frameNumber timestamp) =
          (p.drain.session.sNotify (.shutter frameNumber timestamp)).elim [] Prod.fst := rfl
      refine batcherState_notify ?_ rfl htold
      simp only [DrainState.next]
      cases p.drain.session.sNotify (.shutter frameNumber timestamp) <;> rfl
  | notifyError frameNumber errorStream errorCode =>
      have htold : p.drain.told lib (.notifyError frameNumber errorStream errorCode) =
          (p.drain.session.sNotify (.error frameNumber
            (p.drain.session.errorStreamId errorStream) errorCode)).elim [] Prod.fst := rfl
      refine batcherState_notify ?_ rfl htold
      simp only [DrainState.next]
      cases p.drain.session.sNotify (.error frameNumber
        (p.drain.session.errorStreamId errorStream) errorCode) <;> rfl
  -- The one call that changes the streams to batch: only a configuration that is accepted does.
  | configureStreams config answer =>
      simp only [batcherState, next, DrainState.next, DrainState.handed, DrainState.told,
        DrainState.message, DrainState.asks, Option.bind_none, Option.elim_none, List.append_nil]
      cases hresult : p.drain.session.configureStreams config answer with
      | none => rfl
      | some found =>
          obtain ⟨status, events, session⟩ := found
          rcases Session.configureStreams_batches hresult with
            ⟨rfl, -, hbatches, -⟩ | ⟨hnot, hsame⟩
          · simp [hbatches, BatcherState.next]
          · cases status with
            | ok => exact absurd rfl hnot
            | _ => simp [hsame]
  | updateBufferCaches cachesToRemove =>
      refine batcherState_eq_of_silent ?_ rfl rfl
      simp only [DrainState.next]
      rw [Session.updateBufferCaches_frame]
  | disconnect => exact batcherState_eq_of_silent rfl rfl rfl
  | close =>
      refine batcherState_eq_of_silent ?_ rfl rfl
      simp only [DrainState.next]
      rw [Session.close_frame]

end PipelineState

end LgeHardware.Camera
