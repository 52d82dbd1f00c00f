import LgeHardware.Camera.Session

/-! # Stream configuration

`configureStreams` adds the streams that are new to the session, asks the HAL, and
on success forgets the streams that are gone. It is refused while the in-flight
records of requests and results are not empty.
-/

namespace LgeHardware.Camera

/-- `StreamType::OUTPUT`. -/
def streamTypeOutput : Int := 0

/-- `Stream`. `usage` is the bit pattern of the 64-bit field. -/
structure Stream where
  id : Int
  streamType : Int := streamTypeOutput
  width : Int := 0
  height : Int := 0
  format : Int := 0
  usage : Nat := 0
  dataSpace : Int := 0
  rotation : Int := 0
  physicalCameraId : String := ""
  deriving DecidableEq, Repr

/-- `StreamConfiguration`. -/
structure StreamConfiguration where
  streams : List Stream
  operationMode : Int := 0
  sessionParams : Blob := []
  streamConfigCounter : Nat := 0
  deriving DecidableEq, Repr

/-- The stream has `BufferUsage::VIDEO_ENCODER`. -/
def Stream.videoEncoder (stream : Stream) : Bool := stream.usage.testBit 16

/-- `convertFromAidl(Stream)`. -/
def Stream.convertFromAidl (src : Stream) : Camera3Stream :=
  { mId := src.id
    streamType := src.streamType
    width := src.width
    height := src.height
    format := src.format
    dataSpace := src.dataSpace
    rotation := src.rotation
    usage := uint32 src.usage
    maxBuffers := 0
    priv := 0
    physicalCameraId := none }

/-- `requestedConfiguration.streams` has a stream with this id. -/
def StreamConfiguration.found (config : StreamConfiguration) (id : Int) : Bool :=
  config.streams.any (·.id == id)

/-- The fields of a stream that the HAL may fill. -/
structure FilledByHal where
  format : Int
  dataSpace : Int
  usage : Int
  maxBuffers : Nat
  priv : Nat
  deriving DecidableEq, Repr

def Camera3Stream.fill (fields : FilledByHal) (stream : Camera3Stream) : Camera3Stream :=
  { stream with
    format := fields.format
    dataSpace := fields.dataSpace
    usage := fields.usage
    maxBuffers := fields.maxBuffers
    priv := fields.priv }

/-- The HAL's answer to `configure_streams`: what it writes into streams it has pointers
to, by their ids, and what it returns. -/
structure ConfigureAnswer where
  ret : Int
  filled : List (Int × FilledByHal) := []
  deriving DecidableEq, Repr

namespace Session

/-- The body of the loop of `preProcessConfigurationLocked` over the requested streams.
It fails where the configuration of a known stream changes. -/
def preProcessStream (s : Session) (stream : Stream) : Bool × Session :=
  match s.mStreamMap[stream.id]? with
  | none =>
      (true, { s with
        mStreamMap := s.mStreamMap.insert stream.id
          { stream.convertFromAidl with physicalCameraId := some stream.physicalCameraId }
        mPhysicalCameraIdMap := s.mPhysicalCameraIdMap.insert stream.id stream.physicalCameraId
        mCirculatingBuffers := s.mCirculatingBuffers.insertIfNew stream.id ∅ })
  | some old =>
      if old.streamType ≠ stream.streamType ∨ old.width ≠ stream.width ∨
          old.height ≠ stream.height then (false, s)
      else
        let physicalCameraId := s.mPhysicalCameraIdMap.getD stream.id ""
        let s := { s with
          mPhysicalCameraIdMap := s.mPhysicalCameraIdMap.insertIfNew stream.id "" }
        if physicalCameraId ≠ stream.physicalCameraId then (false, s)
        else
          (true, { s with mStreamMap := s.mStreamMap.insert stream.id { old with
            format := stream.format
            dataSpace := stream.dataSpace
            rotation := stream.rotation
            usage := uint32 stream.usage
            physicalCameraId := some physicalCameraId } })

def preProcessStreams (s : Session) : List Stream → Bool × Session
  | [] => (true, s)
  | stream :: rest =>
      match s.preProcessStream stream with
      | (true, s) => s.preProcessStreams rest
      | (false, s) => (false, s)

/-- The streams of the session that are not in the configuration. -/
def removedStreams (s : Session) (config : StreamConfiguration) : List Int :=
  s.mStreamMap.keys.filter fun id => !config.found id

/-- `cleanupBuffersLocked` for each stream of a list. -/
def cleanupStreams (s : Session) : List Int → Option (List SessionEvent × Session)
  | [] => some ([], s)
  | id :: rest =>
      (s.cleanupBuffersLocked id).bind fun (first, s) =>
        (s.cleanupStreams rest).map fun (more, s) => (first ++ more, s)

/-- `preProcessConfigurationLocked`, `none` where it throws. -/
def preProcessConfigurationLocked (s : Session) (config : StreamConfiguration) :
    Option (Bool × List SessionEvent × Session) :=
  match s.preProcessStreams config.streams with
  | (false, s) => some (false, [], s)
  | (true, s) =>
      if s.mFreeBufEarly then
        (s.cleanupStreams (s.removedStreams config)).map fun (events, s) => (true, events, s)
      else some (true, [], s)

/-- Only after all streams have passed are the removed ones cleaned up, and only early. -/
theorem preProcessConfigurationLocked_eq_some {s s' : Session} {config : StreamConfiguration}
    {ok : Bool} {events : List SessionEvent}
    (h : s.preProcessConfigurationLocked config = some (ok, events, s')) :
    let s₁ := (s.preProcessStreams config.streams).2
    ok = (s.preProcessStreams config.streams).1 ∧
      (events = [] ∧ s' = s₁ ∧ (ok = true → s₁.mFreeBufEarly = false) ∨
        ok = true ∧ s₁.mFreeBufEarly = true ∧
          s₁.cleanupStreams (s₁.removedStreams config) = some (events, s')) := by
  rw [preProcessConfigurationLocked] at h
  rcases hresult : s.preProcessStreams config.streams with ⟨_ | _, s₁⟩
  · rw [hresult] at h
    cases h
    exact ⟨rfl, .inl ⟨rfl, rfl, fun hfails => absurd hfails Bool.false_ne_true⟩⟩
  · rw [hresult] at h
    dsimp only at h ⊢
    split at h
    next hearly =>
      obtain ⟨⟨freed, s₂⟩, hclean, heq⟩ := Option.map_eq_some_iff.mp h
      cases heq
      exact ⟨rfl, .inr ⟨rfl, hearly, hclean⟩⟩
    next hlate =>
      cases h
      exact ⟨rfl, .inl ⟨rfl, rfl, fun _ => eq_false_of_ne_true hlate⟩⟩

/-- `postProcessConfigurationLocked`, `none` where it throws. -/
def postProcessConfigurationLocked (s : Session) (config : StreamConfiguration) :
    Option (List SessionEvent × Session) :=
  let removed := s.removedStreams config
  (if s.mFreeBufEarly then some ([], s) else s.cleanupStreams removed).map fun (events, s) =>
    let videoStreamIds := (config.streams.filter fun stream =>
      stream.streamType == streamTypeOutput && stream.videoEncoder).map (·.id)
    (events, { s with
      mStreamMap := s.mStreamMap.eraseAll removed
      mVideoStreamIds := videoStreamIds
      mResultBatcher := s.mResultBatcher.setBatchedStreams videoStreamIds })

def postProcessConfigurationFailureLocked (s : Session) (config : StreamConfiguration) :
    Session :=
  if s.mFreeBufEarly then
    let cbs := (s.removedStreams config).foldl (fun cbs id => cbs.insertIfNew id ∅)
      s.mCirculatingBuffers
    { s with mCirculatingBuffers := cbs }
  else s

/-- The in-flight records that block a configuration are empty. -/
def NothingInflight (s : Session) : Prop :=
  s.mInflightBuffers.isEmpty = true ∧ s.mInflightAETriggerOverrides.isEmpty = true ∧
    s.mInflightRawBoostPresent.isEmpty = true

instance (s : Session) : Decidable s.NothingInflight :=
  inferInstanceAs (Decidable (_ ∧ _ ∧ _))

/-- The streams as the HAL leaves them. -/
def fillStreams (s : Session) (filled : List (Int × FilledByHal)) : Session :=
  { s with mStreamMap := s.mStreamMap.updateAll Camera3Stream.fill filled }

/-- `configureStreams` from the check of the status on, with the HAL's answer. -/
def configureIdle (s : Session) (config : StreamConfiguration) (answer : ConfigureAnswer) :
    Option (Status × List SessionEvent × Session) :=
  let status := s.initStatus
  if status ≠ .ok then some (status, [], s)
  else
    let s := { s with mStreamConfigCounter := config.streamConfigCounter }
    (s.preProcessConfigurationLocked config).bind fun (ok, events, s) =>
      if !ok then some (.internalError, events, s)
      else
        let halStreams := config.streams.map fun stream => s.mStreamMap.getD stream.id {}
        let events := events ++ [.configureStreams halStreams]
        let s := s.fillStreams answer.filled
        if answer.ret = statusOk then
          (s.postProcessConfigurationLocked config).map fun (freed, s) =>
            (.ok, events ++ freed, { s with mFirstRequest := true })
        else
          some (if answer.ret = badValue then .illegalArgument else .internalError, events,
            s.postProcessConfigurationFailureLocked config)

/-- `configureStreams`, `none` where it throws. -/
def configureStreams (s : Session) (config : StreamConfiguration) (answer : ConfigureAnswer) :
    Option (Status × List SessionEvent × Session) :=
  if ¬s.NothingInflight then some (.internalError, [], s)
  else s.configureIdle config answer

/-- A session of a camera with one stream, before its first request. -/
def withOneStream : Session :=
  let s := Session.opened cameraDeviceApiVersion35 1 64 false false false ∅
  (s.configureStreams { streams := [{ id := 1 }] } { ret := statusOk }).elim s fun (_, _, s) => s

end Session

end LgeHardware.Camera
