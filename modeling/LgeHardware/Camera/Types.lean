import LgeHardware.Foundation.OrdMap
import LgeHardware.Camera.Metadata

/-! # Data exchanged between the camera service, the session and the HAL

The AIDL parcelables and the `camera3` structures, with the fields the session
reads or writes. A stream pointer of the HAL interface is represented by the
stream id that the wrapper finds behind it.
-/

namespace LgeHardware.Camera

/-- `aidl::android::hardware::camera::common::Status`. -/
inductive Status
  | ok
  | illegalArgument
  | cameraInUse
  | maxCamerasInUse
  | methodNotSupported
  | operationNotSupported
  | cameraDisconnected
  | internalError
  deriving DecidableEq, Repr

/-- The `status_t` value `OK`. -/
def statusOk : Int := 0
/-- The `status_t` value `BAD_VALUE`, which is `-EINVAL`. -/
def badValue : Int := -22

/-- An opaque `buffer_handle_t`. -/
abbrev BufferHandle := Nat

/-- `StreamBuffer`. `buffer` is what `makeFromAidl` makes of the handle, and the two
fences list the file descriptors their `NativeHandle` owns. The field `halFrame` is
not part of the parcelable and no code reads it: it records the frame number of the
HAL result the buffer arrived in. -/
structure StreamBuffer where
  streamId : Int := 0
  bufferId : Nat := 0
  buffer : Option BufferHandle := none
  status : Int := 0
  acquireFence : List Int := []
  releaseFence : List Int := []
  halFrame : Nat := 0
  deriving DecidableEq, Repr

/-- `PhysicalCameraMetadata`. -/
structure PhysicalCameraMetadata where
  fmqMetadataSize : Nat := 0
  physicalCameraId : String
  metadata : Blob
  deriving DecidableEq, Repr

/-- `CaptureResult`. -/
structure CaptureResult where
  frameNumber : Nat := 0
  physicalCameraMetadata : List PhysicalCameraMetadata := []
  fmqResultSize : Nat := 0
  result : Blob := []
  partialResult : Nat := 0
  outputBuffers : List StreamBuffer := []
  inputBuffer : StreamBuffer := {}
  deriving DecidableEq, Repr

/-- `ErrorCode`. -/
inductive ErrorCode
  | errorDevice
  | errorRequest
  | errorResult
  | errorBuffer
  deriving DecidableEq, Repr

/-- `NotifyMsg`, the union of `ShutterMsg` and `ErrorMsg`. -/
inductive NotifyMsg
  | shutter (frameNumber : Nat) (timestamp : Int)
  | error (frameNumber : Nat) (errorStreamId : Int) (errorCode : ErrorCode)
  deriving DecidableEq, Repr

/-- The frame a message is about. -/
def NotifyMsg.frameNumber : NotifyMsg → Nat
  | .shutter frameNumber _ => frameNumber
  | .error frameNumber _ _ => frameNumber

/-- `PhysicalCameraSetting`. -/
structure PhysicalCameraSetting where
  fmqSettingsSize : Int := 0
  physicalCameraId : String
  settings : Blob := []
  deriving DecidableEq, Repr

/-- `CaptureRequest`. -/
structure CaptureRequest where
  frameNumber : Nat
  fmqSettingsSize : Int := 0
  settings : Blob := []
  inputBuffer : StreamBuffer := { streamId := -1 }
  outputBuffers : List StreamBuffer
  physicalCameraSettings : List PhysicalCameraSetting := []
  deriving DecidableEq, Repr

/-- `BufferCache`. -/
structure BufferCache where
  streamId : Int
  bufferId : Nat
  deriving DecidableEq, Repr

/-- A `camera3_stream_buffer_t` of a HAL result. -/
structure HalStreamBuffer where
  stream : Int
  buffer : Option BufferHandle := none
  status : Int := 0
  releaseFence : Int := -1
  deriving DecidableEq, Repr

/-- `camera3_capture_result`. The physical camera arrays are one list of ids with
their packets. -/
structure Camera3CaptureResult where
  frameNumber : Nat
  result : Option Blob := none
  outputBuffers : List HalStreamBuffer := []
  inputBuffer : Option HalStreamBuffer := none
  partialResult : Nat := 0
  physcamMetadata : List (String × Blob) := []
  deriving DecidableEq, Repr

end LgeHardware.Camera
