import Mathlib.Data.Nat.Basic
import LgeHardware.Foundation.OrdMap
import LgeHardware.Foundation.BoundedQueue
import LgeHardware.Camera.ResultBatcher

/-! # The state of a capture session

The data of `CameraDeviceSession` and the methods that open, close and clean up.
Buffer handles are imported and freed by the graphics mapper and fences by the
handle importer, so a session is compared with its environment through the log of
what it asked of them.
-/

namespace LgeHardware.Camera

open LgeHardware.Foundation

/-- `CAMERA_DEVICE_API_VERSION_3_2`. -/
def cameraDeviceApiVersion32 : Nat := 0x302
/-- `CAMERA_DEVICE_API_VERSION_3_5`. -/
def cameraDeviceApiVersion35 : Nat := 0x305
/-- `BUFFER_ID_NO_BUFFER`. -/
def bufferIdNoBuffer : Nat := 0

/-- `AETriggerCancelOverride`. -/
structure AETriggerCancelOverride where
  applyAeLock : Bool
  aeLock : Int
  applyAePrecaptureTrigger : Bool
  aePrecaptureTrigger : Int
  deriving DecidableEq, Repr

/-- `Camera3Stream`. A stream that `mStreamMap[id]` creates is value initialised. -/
structure Camera3Stream where
  mId : Int := 0
  streamType : Int := 0
  width : Int := 0
  height : Int := 0
  format : Int := 0
  dataSpace : Int := 0
  rotation : Int := 0
  usage : Int := 0
  maxBuffers : Nat := 0
  priv : Nat := 0
  physicalCameraId : Option String := none
  deriving DecidableEq, Repr

/-- The `camera3_stream_buffer_t` of a request. `stream` is the key of the stream in
`mStreamMap`, `buffer` what the buffer pointer leads to, null for `sEmptyBuffer`. -/
structure Camera3StreamBuffer where
  stream : Int
  buffer : Option BufferHandle
  status : Int
  acquireFence : Int
  releaseFence : Int := -1
  deriving DecidableEq, Repr

/-- `camera3_capture_request_t`. -/
structure Camera3CaptureRequest where
  frameNumber : Nat
  settings : Option Blob
  inputBuffer : Option Camera3StreamBuffer
  outputBuffers : List Camera3StreamBuffer
  physcamId : List String
  physcamSettings : List (Option Blob)
  deriving DecidableEq, Repr

/-- What a session does to its environment. A read of the request queue records whose
settings the session takes the bytes for: `none` the main settings of the request,
`some i` those of its `i`-th physical camera. `readSignalStreamFlush` is the look at a
function pointer in `mDevice->ops` that is not called at once. -/
inductive SessionEvent
  | importBuffer (buffer : BufferHandle)
  | freeBuffer (buffer : BufferHandle)
  | importFence (fd : Int)
  | closeFence (fd : Int)
  | readSettings (frameNumber : Nat) (camera : Option Nat) (settings : Blob)
  | initializeHal
  | processCaptureRequest (halRequest : Camera3CaptureRequest)
  | configureStreams (streams : List Camera3Stream)
  | constructDefaultRequestSettings (type : Int)
  | flush
  | readSignalStreamFlush
  | signalStreamFlush (streams : List Int)
  | closeDevice
  | batcher (effect : Effect)
  deriving DecidableEq, Repr

abbrev CirculatingBuffers := Std.ExtTreeMap Nat BufferHandle

abbrev InflightBuffers := Std.ExtTreeMap (Int × Nat) Camera3StreamBuffer pairCompare

structure Session where
  mDeviceVersion : Nat
  mFreeBufEarly : Bool := false
  mIsAELockAvailable : Bool := false
  mDerivePostRawSensKey : Bool := false
  mNumPartialResults : Nat
  mPhysicalCameraIds : Std.ExtTreeSet String := ∅
  mInitFail : Bool := false
  mClosed : Bool := false
  mDisconnected : Bool := false
  mFirstRequest : Bool := false
  mStreamMap : Std.ExtTreeMap Int Camera3Stream := ∅
  mPhysicalCameraIdMap : Std.ExtTreeMap Int String := ∅
  mStreamConfigCounter : Nat := 1
  mInflightBuffers : InflightBuffers := ∅
  mInflightAETriggerOverrides : Std.ExtTreeMap Nat AETriggerCancelOverride := ∅
  mInflightRawBoostPresent : Std.ExtTreeMap Nat Bool := ∅
  mCirculatingBuffers : Std.ExtTreeMap Int CirculatingBuffers := ∅
  mBufferIdMaps : Std.ExtTreeMap Int (Std.ExtTreeMap BufferHandle Nat) := ∅
  mRequestMetadataQueue : BoundedQueue UInt8
  mVideoStreamIds : List Int := []
  mResultBatcher : ResultBatcher

namespace Session

/-- A session of a device whose HAL accepted `initialize`. The two queues are valid. -/
def opened (deviceVersion numPartialResults queueSize : Nat)
    (freeBufEarly isAELockAvailable derivePostRawSensKey : Bool)
    (physicalCameraIds : Std.ExtTreeSet String) : Session :=
  { mDeviceVersion := deviceVersion
    mFreeBufEarly := freeBufEarly
    mIsAELockAvailable := isAELockAvailable
    mDerivePostRawSensKey := derivePostRawSensKey
    mNumPartialResults := numPartialResults
    mPhysicalCameraIds := physicalCameraIds
    mRequestMetadataQueue := .empty queueSize
    mResultBatcher := { mNumPartialResults := numPartialResults } }

def initStatus (s : Session) : Status :=
  if s.mInitFail then .internalError
  else if s.mDisconnected then .cameraDisconnected
  else if s.mClosed then .internalError
  else .ok

/-- The id that is found behind the pointer to `mStreamMap[id]`. -/
def streamId (s : Session) (id : Int) : Int := (s.mStreamMap.getD id {}).mId

def disconnect (s : Session) : List SessionEvent × Session :=
  (if s.mClosed then [] else [.closeDevice], { s with mDisconnected := true, mClosed := true })

/-- Free every buffer of a stream's cache. -/
def freeBuffers (cbs : CirculatingBuffers) : List SessionEvent :=
  cbs.toList.map fun entry => .freeBuffer entry.2

def close (s : Session) : List SessionEvent × Session :=
  if s.mClosed then ([], s)
  else
    (.closeDevice :: s.mCirculatingBuffers.toList.flatMap (fun entry => freeBuffers entry.2),
      { s with mCirculatingBuffers := ∅, mClosed := true })

/-- `cleanupBuffersLocked`. `at` throws for a stream without a cache. -/
def cleanupBuffersLocked (s : Session) (id : Int) : Option (List SessionEvent × Session) :=
  s.mCirculatingBuffers[id]?.map fun cbs =>
    (freeBuffers cbs, { s with mCirculatingBuffers := s.mCirculatingBuffers.erase id })

/-- The loop body of `updateBufferCaches`. -/
def removeCached (s : Session) (cache : BufferCache) : List SessionEvent × Session :=
  match s.mCirculatingBuffers[cache.streamId]? with
  | none => ([], s)
  | some cbs =>
      match cbs[cache.bufferId]? with
      | none => ([], s)
      | some buffer =>
          ([.freeBuffer buffer],
            { s with mCirculatingBuffers :=
                s.mCirculatingBuffers.insert cache.streamId (cbs.erase cache.bufferId) })

/-- A cached buffer is freed and forgotten, one that is not cached is left alone. -/
theorem removeCached_cases (s : Session) (cache : BufferCache) :
    s.removeCached cache = ([], s) ∨ ∃ cbs buffer,
      s.mCirculatingBuffers[cache.streamId]? = some cbs ∧ cbs[cache.bufferId]? = some buffer ∧
        s.removeCached cache = ([.freeBuffer buffer],
          { s with mCirculatingBuffers :=
              s.mCirculatingBuffers.insert cache.streamId (cbs.erase cache.bufferId) }) := by
  rw [removeCached]
  cases hcbs : s.mCirculatingBuffers[cache.streamId]? with
  | none => exact .inl rfl
  | some cbs =>
      cases hbuffer : cbs[cache.bufferId]? with
      | none =>
          left
          simp only [hbuffer]
      | some buffer =>
          right
          refine ⟨cbs, buffer, rfl, hbuffer, ?_⟩
          simp only [hbuffer]

def updateBufferCaches (s : Session) : List BufferCache → List SessionEvent × Session
  | [] => ([], s)
  | cache :: cachesToRemove =>
      let (first, s) := s.removeCached cache
      let (rest, s) := s.updateBufferCaches cachesToRemove
      (first ++ rest, s)

theorem updateBufferCaches_cons (s : Session) (cache : BufferCache) (rest : List BufferCache) :
    s.updateBufferCaches (cache :: rest) =
      ((s.removeCached cache).1 ++ ((s.removeCached cache).2.updateBufferCaches rest).1,
        ((s.removeCached cache).2.updateBufferCaches rest).2) := rfl

/-- `popBufferId`, with the id it finds. -/
def popBufferId (s : Session) (buf : BufferHandle) (streamId : Int) : Nat × Session :=
  match s.mBufferIdMaps[streamId]? with
  | none => (bufferIdNoBuffer, s)
  | some bIdMap =>
      match bIdMap[buf]? with
      | none => (bufferIdNoBuffer, s)
      | some bufId =>
          let bIdMap := bIdMap.erase buf
          (bufId, { s with mBufferIdMaps :=
            if bIdMap.isEmpty then s.mBufferIdMaps.erase streamId
            else s.mBufferIdMaps.insert streamId bIdMap })

/-- `getCapResultBufferId`, which subclasses may override. -/
def getCapResultBufferId (s : Session) (buf : BufferHandle) (streamId : Int) : Nat × Session :=
  s.popBufferId buf streamId

end Session

end LgeHardware.Camera
