import LgeHardware.Camera.ConfigureSteps
import LgeHardware.Camera.InflightDrain

/-! # The calls of a session

The constructor and the destructor of `CameraDeviceSession` and its methods that
keep no records. With the methods of the other modules they are the operations of
one state machine, in which each call is atomic and the HAL may answer anything.
-/

namespace LgeHardware.Camera

open LgeHardware.Foundation

/-! ## Construction -/

/-- `CAMERA_REQUEST_METADATA_QUEUE_SIZE`. -/
def cameraRequestMetadataQueueSize : Nat := 1 <<< 20

/-- `ANDROID_CONTROL_AE_LOCK_AVAILABLE_TRUE`. -/
def aeLockAvailableTrue : Int := 1

/-- What the constructor reads of the device and its static metadata. -/
structure DeviceInfo where
  deviceVersion : Nat
  partialResultCount : Option Int := none
  aeLockAvailable : Option Int := none
  postRawSensitivityBoostRange : Bool := false
  physicalCameraIds : Std.ExtTreeSet String := ∅

def DeviceInfo.numPartialResults (device : DeviceInfo) : Nat :=
  device.partialResultCount.elim 1 fun count => (count % 2 ^ 32).toNat

/-- The answers of the environment to the constructor: the system properties, what the HAL
returns from `initialize`, and whether the two metadata queues come out valid. -/
structure SessionWorld where
  propertyGetInt32 : String → Option Int := fun _ => none
  propertyGetBool : String → Bool := fun _ => false
  initializeHal : Int := statusOk
  requestQueueValid : Bool := true
  resultQueueValid : Bool := true

/-- The size of the request queue, from the vendor property, the old one or the default. -/
def SessionWorld.reqFMQSize (world : SessionWorld) : Nat :=
  let vendor := (world.propertyGetInt32 "ro.vendor.camera.req.fmq.size").getD (-1)
  let old := (world.propertyGetInt32 "ro.camera.req.fmq.size").getD (-1)
  if 0 ≤ vendor then vendor.toNat
  else if 0 ≤ old then old.toNat
  else cameraRequestMetadataQueueSize

namespace Session

/-- `CameraDeviceSession::initialize`, which returns whether it failed. -/
def initializeSession (s : Session) (world : SessionWorld) :
    Bool × List SessionEvent × Session :=
  if world.initializeHal ≠ statusOk then
    (true, [.initializeHal, .closeDevice], { s with mClosed := true })
  else
    let s := { s with mRequestMetadataQueue := .empty world.reqFMQSize }
    if !world.requestQueueValid then (true, [.initializeHal], s)
    else (!world.resultQueueValid, [.initializeHal], s)

/-- The constructor. -/
def construct (device : DeviceInfo) (world : SessionWorld) : List SessionEvent × Session :=
  let s : Session :=
    { mDeviceVersion := device.deviceVersion
      mFreeBufEarly := world.propertyGetBool "ro.vendor.camera.free_buf_early"
      mIsAELockAvailable := device.aeLockAvailable = some aeLockAvailableTrue
      mDerivePostRawSensKey := device.postRawSensitivityBoostRange
      mNumPartialResults := device.numPartialResults
      mPhysicalCameraIds := device.physicalCameraIds
      mRequestMetadataQueue := .empty 0
      mResultBatcher := { mNumPartialResults := device.numPartialResults } }
  let (mInitFail, events, s) := s.initializeSession world
  (events, { s with mInitFail })

/-! ## Calls without records -/

/-- `flush`, with what the HAL returns. -/
def flush (s : Session) (ret : Int) : Status × List SessionEvent :=
  if s.initStatus ≠ .ok then (s.initStatus, [])
  else (if ret ≠ statusOk then .internalError else .ok, [.flush])

/-- `constructDefaultRequestSettingsRaw`, with the packet the HAL returns and the metadata
for the caller. -/
def constructDefaultRequestSettingsRaw (lib : MetadataLib) (s : Session) (type : Int)
    (rawRequest : Option Blob) : Status × List SessionEvent × Option Blob :=
  if s.initStatus ≠ .ok then (s.initStatus, [], none)
  else
    match rawRequest with
    | none => (.illegalArgument, [.constructDefaultRequestSettings type], none)
    | some packet =>
        let mOverridenRequest := lib.append packet
        let mOverridenRequest :=
          if s.mDerivePostRawSensKey ∧
              lib.find mOverridenRequest .controlPostRawSensitivityBoost = none then
            lib.update mOverridenRequest .controlPostRawSensitivityBoost [defaultBoost]
          else mOverridenRequest
        (.ok, [.constructDefaultRequestSettings type], some mOverridenRequest)

/-- `signalStreamFlush`, which always returns `OK`. `supported` says whether the HAL has the
function. The counter is compared as a `uint32_t`. -/
def signalStreamFlush (s : Session) (streamIds : List Int) (streamConfigCounter : Int)
    (supported : Bool) : List SessionEvent :=
  if !supported then [.readSignalStreamFlush]
  else if (streamConfigCounter % 2 ^ 32).toNat < s.mStreamConfigCounter then
    [.readSignalStreamFlush]
  else if ∀ id ∈ streamIds, id ∈ s.mStreamMap then
    [.readSignalStreamFlush, .signalStreamFlush streamIds]
  else [.readSignalStreamFlush]

/-- The signal always looks at the device, and is passed on to it or not. -/
theorem signalStreamFlush_cases (s : Session) (streamIds : List Int) (streamConfigCounter : Int)
    (supported : Bool) :
    s.signalStreamFlush streamIds streamConfigCounter supported = [.readSignalStreamFlush] ∨
      s.signalStreamFlush streamIds streamConfigCounter supported =
        [.readSignalStreamFlush, .signalStreamFlush streamIds] := by
  rw [signalStreamFlush]
  split
  · exact .inl rfl
  · split
    · exact .inl rfl
    · split
      · exact .inr rfl
      · exact .inl rfl

/-- `~CameraDeviceSession`. -/
def destroy (s : Session) : List SessionEvent × Session :=
  if s.mClosed then ([], s) else s.close

end Session

/-! ## What the calls leave alone -/

namespace Session

/-- The sessions agree on what says whether they are open, and on when they free buffers. -/
structure SameStanding (s s' : Session) : Prop where
  initFail : s'.mInitFail = s.mInitFail
  disconnected : s'.mDisconnected = s.mDisconnected
  closed : s'.mClosed = s.mClosed
  freeBufEarly : s'.mFreeBufEarly = s.mFreeBufEarly

theorem SameStanding.refl (s : Session) : s.SameStanding s := ⟨rfl, rfl, rfl, rfl⟩

theorem SameStanding.trans {s s' s'' : Session} (h : s.SameStanding s')
    (h' : s'.SameStanding s'') : s.SameStanding s'' where
  initFail := h'.initFail.trans h.initFail
  disconnected := h'.disconnected.trans h.disconnected
  closed := h'.closed.trans h.closed
  freeBufEarly := h'.freeBufEarly.trans h.freeBufEarly

theorem initStatus_of_closed {s : Session} (h : s.mClosed = true) : s.initStatus ≠ .ok := by
  rw [initStatus, h]
  cases s.mInitFail <;> cases s.mDisconnected <;> nofun

theorem updateBufferCaches_sameStanding (s : Session) (caches : List BufferCache) :
    s.SameStanding (s.updateBufferCaches caches).2 := by
  rw [updateBufferCaches_frame]
  exact ⟨rfl, rfl, rfl, rfl⟩

/-- A HAL result touches nothing but the records it takes from and the batcher. -/
theorem sProcessCaptureResult_withoutResults (lib : MetadataLib) (s : Session)
    (hal : Camera3CaptureResult) :
    (s.sProcessCaptureResult lib hal).2.withoutResults = s.withoutResults := by
  by_cases hinflight : s.ResultInflight hal
  · exact (sProcessCaptureResult_takes lib hinflight).others
  · rw [sProcessCaptureResult_of_not_inflight lib s hal hinflight]

theorem sNotify_withoutResults {s s' : Session} {msg : NotifyMsg} {effects : List Effect}
    (h : s.sNotify msg = some (effects, s')) : s'.withoutResults = s.withoutResults := by
  have haccept : ∀ s₁, s.acceptNotify msg = some s₁ → s₁.withoutResults = s.withoutResults := by
    intro s₁ haccepted
    cases msg with
    | shutter frameNumber timestamp =>
        cases haccepted
        rfl
    | error frameNumber errorStreamId errorCode =>
        simp only [acceptNotify] at haccepted
        split at haccepted
        next => cases haccepted
        next => cases errorCode <;> cases haccepted <;> rfl
  rw [sNotify] at h
  split at h
  next =>
    cases h
    rfl
  next s₁ haccepted =>
    obtain ⟨⟨effects, batcher⟩, -, heq⟩ := Option.map_eq_some_iff.mp h
    cases heq
    exact haccept s₁ haccepted

theorem sameStanding_of_withoutResults {s s' : Session}
    (h : s'.withoutResults = s.withoutResults) : s.SameStanding s' where
  initFail := by
    have hsame := congrArg Session.mInitFail h
    exact hsame
  disconnected := by
    have hsame := congrArg Session.mDisconnected h
    exact hsame
  closed := by
    have hsame := congrArg Session.mClosed h
    exact hsame
  freeBufEarly := by
    have hsame := congrArg Session.mFreeBufEarly h
    exact hsame

end Session

theorem RequestStep.sameStanding {c c' : Call} (h : RequestStep c c') :
    c.session.SameStanding c'.session := by
  cases h with
  | reads h =>
      obtain ⟨queue, events, rfl, -⟩ := h
      exact ⟨rfl, rfl, rfl, rfl⟩
  | setOverride frameNumber override => cases override <;> exact ⟨rfl, rfl, rfl, rfl⟩
  | _ => exact ⟨rfl, rfl, rfl, rfl⟩

theorem ConfigureStep.sameStanding {c c' : Call} (h : ConfigureStep c c') :
    c.session.SameStanding c'.session := by
  cases h <;> exact ⟨rfl, rfl, rfl, rfl⟩

theorem Call.Path.sameStanding {c c' : Call} (h : c.Path c') :
    c.session.SameStanding c'.session := by
  induction h with
  | refl => exact .refl _
  | tail _ hstep ih => exact ih.trans hstep.sameStanding

theorem Call.Configures.sameStanding {c c' : Call} (h : c.Configures c') :
    c.session.SameStanding c'.session := by
  induction h with
  | refl => exact .refl _
  | tail _ hstep ih => exact ih.trans hstep.sameStanding

/-! ## The session as a state machine -/

/-- Whether calls can still be made: a destroyed session takes none, nor does one whose
process aborted or went on undefined. -/
inductive Stage
  | live
  | destroyed
  | aborted
  deriving DecidableEq, Repr

/-- A session and what it did to its environment since its construction. -/
structure SessionState where
  session : Session
  events : List SessionEvent
  stage : Stage := .live

/-- A call of the session by its client or by the HAL, with all answers it gets. -/
inductive SessionOp
  | configureStreams (config : StreamConfiguration) (answer : ConfigureAnswer)
  | processCaptureRequest (requests : List (RequestWorld × CaptureRequest))
      (cachesToRemove : List BufferCache)
  | processCaptureResult (hal : Camera3CaptureResult)
  | notifyShutter (frameNumber : Nat) (timestamp : Int)
  | notifyError (frameNumber : Nat) (errorStream : Option Int) (errorCode : ErrorCode)
  | flush (ret : Int)
  | constructDefaultRequestSettings (type : Int) (rawRequest : Option Blob)
  | signalStreamFlush (streamIds : List Int) (streamConfigCounter : Int) (supported : Bool)
  | disconnect
  | close
  | destroy

namespace SessionState

def constructed (device : DeviceInfo) (world : SessionWorld) : SessionState :=
  { session := (Session.construct device world).2
    events := (Session.construct device world).1 }

/-- The state after a call that did not abort. -/
def after (s : SessionState) (events : List SessionEvent) (session : Session) : SessionState :=
  { s with session, events := s.events ++ events }

def abort (s : SessionState) : SessionState := { s with stage := .aborted }

/-- The state after a HAL callback, which is undefined where the result batcher is. -/
def afterNotify (s : SessionState) (result : Option (List Effect × Session)) : SessionState :=
  match result with
  | none => s.abort
  | some (effects, session) => s.after (effects.map .batcher) session

/-- A call of a live session. -/
def perform (lib : MetadataLib) (s : SessionState) : SessionOp → SessionState
  | .configureStreams config answer =>
      match s.session.configureStreams config answer with
      | none => s.abort
      | some (_, events, session) => s.after events session
  | .processCaptureRequest requests cachesToRemove =>
      match processCaptureRequest lib s.session requests cachesToRemove with
      | none => s.abort
      | some (_, _, c) => s.after c.events c.session
  | .processCaptureResult hal =>
      let (effects, session) := s.session.sProcessCaptureResult lib (s.session.resolve hal)
      s.after (effects.map .batcher) session
  | .notifyShutter frameNumber timestamp =>
      s.afterNotify (s.session.sNotify (.shutter frameNumber timestamp))
  | .notifyError frameNumber errorStream errorCode =>
      s.afterNotify
        (s.session.sNotify (.error frameNumber (s.session.errorStreamId errorStream) errorCode))
  | .flush ret => s.after (s.session.flush ret).2 s.session
  | .constructDefaultRequestSettings type rawRequest =>
      s.after (s.session.constructDefaultRequestSettingsRaw lib type rawRequest).2.1 s.session
  | .signalStreamFlush streamIds streamConfigCounter supported =>
      s.after (s.session.signalStreamFlush streamIds streamConfigCounter supported) s.session
  | .disconnect => s.after s.session.disconnect.1 s.session.disconnect.2
  | .close => s.after s.session.close.1 s.session.close.2
  | .destroy => { s.after s.session.destroy.1 s.session.destroy.2 with stage := .destroyed }

def next (lib : MetadataLib) (s : SessionState) (op : SessionOp) : SessionState :=
  if s.stage = .live then s.perform lib op else s

/-- The session is there and its device is not closed. -/
def Open (s : SessionState) : Prop := s.stage = .live ∧ s.session.mClosed = false

instance (s : SessionState) : Decidable s.Open := inferInstanceAs (Decidable (_ ∧ _))

end SessionState

/-! ## What a call can do -/

/-- What a call makes of a session, and what it adds to the log. -/
inductive SessionCall (lib : MetadataLib) (s : Session) :
    SessionOp → List SessionEvent → Session → Prop
  | refused (op : SessionOp) : SessionCall lib s op [] s
  | callback (op : SessionOp) {s' : Session} (effects : List Effect)
      (h : s'.withoutResults = s.withoutResults) :
      SessionCall lib s op (effects.map .batcher) s'
  | configures {config : StreamConfiguration} {answer : ConfigureAnswer} {status : Status}
      {events : List SessionEvent} {s' : Session} (hopened : s.initStatus = .ok)
      (hpath : ({ session := s } : Call).Configures { session := s', events })
      (h : s.configureStreams config answer = some (status, events, s')) :
      SessionCall lib s (.configureStreams config answer) events s'
  | removesCaches (requests : List (RequestWorld × CaptureRequest))
      (cachesToRemove : List BufferCache) :
      SessionCall lib s (.processCaptureRequest requests cachesToRemove)
        (s.cachesRemoved cachesToRemove).events (s.cachesRemoved cachesToRemove).session
  | requests {requests : List (RequestWorld × CaptureRequest)} {cachesToRemove : List BufferCache}
      {status : Status} {count : Nat} {c : Call}
      (hopened : (s.cachesRemoved cachesToRemove).session.initStatus = .ok)
      (hpath : (s.cachesRemoved cachesToRemove).Path c)
      (h : processCaptureRequest lib s requests cachesToRemove = some (status, count, c)) :
      SessionCall lib s (.processCaptureRequest requests cachesToRemove) c.events c.session
  | flushes (ret : Int) (hopened : s.initStatus = .ok) : SessionCall lib s (.flush ret) [.flush] s
  | constructs (type : Int) (rawRequest : Option Blob) (hopened : s.initStatus = .ok) :
      SessionCall lib s (.constructDefaultRequestSettings type rawRequest)
        [.constructDefaultRequestSettings type] s
  | signals (streamIds : List Int) (streamConfigCounter : Int) (supported : Bool) :
      SessionCall lib s (.signalStreamFlush streamIds streamConfigCounter supported)
        (s.signalStreamFlush streamIds streamConfigCounter supported) s
  | disconnects : SessionCall lib s .disconnect s.disconnect.1 s.disconnect.2
  | closes (op : SessionOp) : SessionCall lib s op s.close.1 s.close.2

namespace SessionState

/-- What each call of the framework or the HAL does to the session and the log. -/
theorem perform_call (lib : MetadataLib) (s : SessionState) (op : SessionOp) :
    ∃ events, (s.perform lib op).events = s.events ++ events ∧
      SessionCall lib s.session op events (s.perform lib op).session := by
  -- A call that throws leaves no events of its own, and both kinds of notification are alike.
  have haborted : ∃ events, s.abort.events = s.events ++ events ∧
      SessionCall lib s.session op events s.abort.session :=
    ⟨[], (List.append_nil _).symm, .refused op⟩
  have hnotify : ∀ msg, ∃ events,
      (s.afterNotify (s.session.sNotify msg)).events = s.events ++ events ∧
        SessionCall lib s.session op events (s.afterNotify (s.session.sNotify msg)).session := by
    intro msg
    cases hresult : s.session.sNotify msg with
    | none => exact haborted
    | some result => exact ⟨_, rfl, .callback op _ (Session.sNotify_withoutResults hresult)⟩
  cases op with
  | configureStreams config answer =>
      rw [perform]
      cases hresult : s.session.configureStreams config answer with
      | none => exact haborted
      | some result =>
          obtain ⟨status, events, session⟩ := result
          refine ⟨events, rfl, ?_⟩
          rcases Session.configureStreams_configures hresult with
            ⟨hopened, hpath⟩ | ⟨rfl, rfl⟩
          · exact .configures hopened hpath hresult
          · exact .refused _
  | processCaptureRequest requests cachesToRemove =>
      rw [perform]
      cases hresult : processCaptureRequest lib s.session requests cachesToRemove with
      | none => exact haborted
      | some result =>
          obtain ⟨status, count, c⟩ := result
          refine ⟨c.events, rfl, ?_⟩
          rcases processCaptureRequest_path lib hresult with ⟨hopened, hpath⟩ | rfl
          · exact .requests hopened hpath hresult
          · exact .removesCaches requests cachesToRemove
  | processCaptureResult hal =>
      exact ⟨_, rfl, .callback _ _ (Session.sProcessCaptureResult_withoutResults lib _ _)⟩
  | notifyShutter frameNumber timestamp => exact hnotify _
  | notifyError frameNumber errorStream errorCode => exact hnotify _
  | flush ret =>
      refine ⟨_, rfl, ?_⟩
      by_cases hopened : s.session.initStatus = .ok
      · rw [Session.flush, if_neg (not_not_intro hopened)]
        exact .flushes ret hopened
      · rw [Session.flush, if_pos hopened]
        exact .refused _
  | constructDefaultRequestSettings type rawRequest =>
      refine ⟨_, rfl, ?_⟩
      by_cases hopened : s.session.initStatus = .ok
      · have hevents : (s.session.constructDefaultRequestSettingsRaw lib type rawRequest).2.1 =
            [.constructDefaultRequestSettings type] := by
          simp only [Session.constructDefaultRequestSettingsRaw,
            if_neg (not_not_intro hopened)]
          cases rawRequest <;> rfl
        rw [hevents]
        exact .constructs type rawRequest hopened
      · have hevents :
            (s.session.constructDefaultRequestSettingsRaw lib type rawRequest).2.1 = [] := by
          simp only [Session.constructDefaultRequestSettingsRaw, if_pos hopened]
        rw [hevents]
        exact .refused _
  | signalStreamFlush streamIds streamConfigCounter supported =>
      exact ⟨_, rfl, .signals streamIds streamConfigCounter supported⟩
  | disconnect => exact ⟨_, rfl, .disconnects⟩
  | close => exact ⟨_, rfl, .closes _⟩
  | destroy =>
      refine ⟨_, rfl, ?_⟩
      have hdestroy : SessionCall lib s.session .destroy s.session.destroy.1
          s.session.destroy.2 := by
        rw [Session.destroy]
        split
        next => exact .refused _
        next => exact .closes _
      exact hdestroy

/-- A call of a session that is gone does nothing. -/
theorem next_call (lib : MetadataLib) (s : SessionState) (op : SessionOp) :
    ∃ events, (s.next lib op).events = s.events ++ events ∧
      SessionCall lib s.session op events (s.next lib op).session := by
  rw [next]
  split
  next => exact s.perform_call lib op
  next => exact ⟨[], (List.append_nil _).symm, .refused op⟩

end SessionState

/-! ## How a session ages -/

/-- What says whether a session is open stays as it is, but for being closed. -/
structure Session.Ages (s s' : Session) : Prop where
  initFail : s'.mInitFail = s.mInitFail
  disconnected : s'.mDisconnected = s.mDisconnected
  closed : s.mClosed = true → s'.mClosed = true

namespace Session

theorem SameStanding.ages {s s' : Session} (h : s.SameStanding s') : s.Ages s' where
  initFail := h.initFail
  disconnected := h.disconnected
  closed := h.closed.trans

theorem close_ages (s : Session) : s.Ages s.close.2 where
  initFail := by rw [close_frame]
  disconnected := by rw [close_frame]
  closed hclosed := by
    rw [close, hclosed]
    exact hclosed

end Session

/-- A session is disconnected by nothing but `disconnect`. -/
theorem SessionCall.ages {lib : MetadataLib} {s s' : Session} {op : SessionOp}
    {events : List SessionEvent} (h : SessionCall lib s op events s')
    (hop : op ≠ .disconnect) : s.Ages s' := by
  cases h with
  | refused | flushes | constructs | signals => exact (Session.SameStanding.refl s).ages
  | callback op effects hsame => exact (Session.sameStanding_of_withoutResults hsame).ages
  | configures hstatus hpath => exact hpath.sameStanding.ages
  | removesCaches requests cachesToRemove =>
      exact (s.updateBufferCaches_sameStanding cachesToRemove).ages
  | @requests _ cachesToRemove _ _ c hstatus hpath =>
      have hremoved := s.updateBufferCaches_sameStanding cachesToRemove
      exact (hremoved.trans hpath.sameStanding).ages
  | disconnects => exact absurd rfl hop
  | closes => exact s.close_ages

namespace SessionState

/-- A session that is open after a call was open before it. -/
theorem Open.of_next {lib : MetadataLib} {s : SessionState} {op : SessionOp}
    (h : (s.next lib op).Open) (hop : op ≠ .disconnect) : s.Open := by
  have hlive : s.stage = .live := by
    by_contra hgone
    rw [next, if_neg hgone] at h
    exact hgone h.1
  obtain ⟨events, -, hcall⟩ := s.next_call lib op
  refine ⟨hlive, ?_⟩
  by_contra hclosed
  rw [Bool.not_eq_false] at hclosed
  exact Bool.false_ne_true (h.2.symm.trans ((hcall.ages hop).closed hclosed))

end SessionState

end LgeHardware.Camera
