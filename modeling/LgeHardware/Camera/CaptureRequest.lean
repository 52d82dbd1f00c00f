import LgeHardware.Foundation.Staged
import LgeHardware.Camera.Session

/-! # Capture requests

`processOneCaptureRequest` acquires what a request needs stage by stage, and most
stages can end the call. The call is split where it enters the HAL, because the
HAL may call back before it returns.
-/

namespace LgeHardware.Camera

open LgeHardware.Foundation

/-- How a request call ends early: with an error status, or not at all, where the
behaviour is undefined or the process aborts. -/
inductive RequestExit
  | status (status : Status)
  | undefined
  deriving DecidableEq, Repr

/-- The session during a call, and what the call did to the environment so far. -/
structure Call where
  session : Session
  events : List SessionEvent := []

abbrev RequestM := EStateM RequestExit Call

namespace RequestM

def getSession : RequestM Session := do return (← get).session

def update (f : Session → Session) : RequestM PUnit :=
  modify fun c => { c with session := f c.session }

def emit (events : List SessionEvent) : RequestM PUnit :=
  modify fun c => { c with events := c.events ++ events }

def refuse {α : Type} (status : Status) : RequestM α := throw (.status status)

def check (condition : Prop) [Decidable condition] (status : Status) : RequestM PUnit :=
  if condition then pure ⟨⟩ else refuse status

end RequestM

open RequestM

/-- The answers of the environment during one request: the handle importer's for the
`i`-th buffer and fence, and the HAL's. A failed import has no answer. -/
structure RequestWorld where
  importBuffer : Nat → Option BufferHandle → Option BufferHandle
  importFence : Nat → List Int → Option Int
  processCaptureRequest : Int

/-- An environment that imports everything, with the HAL's answer. -/
def RequestWorld.obliging (ret : Int) : RequestWorld :=
  { importBuffer := fun _ buffer => buffer
    importFence := fun _ fds => some (fds.head?.getD (-1))
    processCaptureRequest := ret }

namespace CaptureRequest

def hasInputBuf (request : CaptureRequest) : Bool :=
  request.inputBuffer.streamId ≠ -1 && request.inputBuffer.bufferId ≠ 0

/-- The buffers of a request, the input buffer last. -/
def buffers (request : CaptureRequest) : List StreamBuffer :=
  request.outputBuffers ++ if request.hasInputBuf then [request.inputBuffer] else []

/-- The keys of a request's buffers in `mInflightBuffers`. -/
def inflightKeys (request : CaptureRequest) : List (Int × Nat) :=
  request.buffers.map fun buffer => (buffer.streamId, request.frameNumber)

end CaptureRequest

/-! ## Importing buffers and fences -/

def importBuffer (world : RequestWorld) (i : Nat) (streamId : Int) (bufId : Nat)
    (buf : Option BufferHandle) (allowEmptyBuf : Bool) : RequestM (Option BufferHandle) :=
  if buf = none ∧ bufId = bufferIdNoBuffer then
    if allowEmptyBuf then pure none else refuse .illegalArgument
  else do
    -- `mCirculatingBuffers[streamId]` creates the cache of a new stream
    update fun s => { s with mCirculatingBuffers := s.mCirculatingBuffers.insertIfNew streamId ∅ }
    let cbs := (← getSession).mCirculatingBuffers.getD streamId ∅
    match cbs[bufId]? with
    | some imported => pure (some imported)
    | none =>
        match world.importBuffer i buf with
        | none => refuse .internalError
        | some imported =>
            emit [.importBuffer imported]
            update fun s => { s with mCirculatingBuffers :=
              s.mCirculatingBuffers.insert streamId (cbs.insert bufId imported) }
            pure (some imported)

/-- The first loop of `importRequestImpl`, from the `i`-th buffer on. -/
def importBuffers (world : RequestWorld) (numOutputBufs : Nat) (allowEmptyBuf : Bool) :
    Nat → List StreamBuffer → RequestM (List (Option BufferHandle))
  | _, [] => pure []
  | i, buffer :: rest => do
      let bufPtr ← importBuffer world i buffer.streamId buffer.bufferId buffer.buffer
        (if i = numOutputBufs then false else allowEmptyBuf)
      let bufPtrs ← importBuffers world numOutputBufs allowEmptyBuf (i + 1) rest
      pure (bufPtr :: bufPtrs)

def cleanupInflightFences (allFences : List Int) : RequestM PUnit :=
  emit (allFences.map .closeFence)

/-- The loops of `importRequestImpl` over the acquire fences, given those imported. -/
def importFences (world : RequestWorld) : List Int → List StreamBuffer → RequestM (List Int)
  | allFences, [] => pure allFences
  | allFences, buffer :: rest =>
      match world.importFence allFences.length buffer.acquireFence with
      | none => do
          cleanupInflightFences allFences
          refuse .internalError
      | some fd => do
          emit [.importFence fd]
          importFences world (allFences ++ [fd]) rest

def importRequestImpl (world : RequestWorld) (request : CaptureRequest) (allowEmptyBuf : Bool) :
    RequestM (List (Option BufferHandle) × List Int) := do
  let allBufPtrs ← importBuffers world request.outputBuffers.length allowEmptyBuf 0 request.buffers
  let allFences ← importFences world [] request.buffers
  pure (allBufPtrs, allFences)

def importRequest (world : RequestWorld) (request : CaptureRequest) :
    RequestM (List (Option BufferHandle) × List Int) :=
  importRequestImpl world request true

/-! ## Settings -/

/-- A read of `n` bytes of the request queue, if so many are there. -/
def readRequestQueue (frameNumber : Nat) (camera : Option Nat) (n : Nat) :
    RequestM (Option Blob) := do
  match (← getSession).mRequestMetadataQueue.read n with
  | none => pure none
  | some (settings, queue) =>
      update fun s => { s with mRequestMetadataQueue := queue }
      emit [.readSettings frameNumber camera settings]
      pure (some settings)

/-- The checks of settings: they convert, and those of a first request are not null. -/
def checkSettings (converted : Option (Option Blob)) : RequestM (Option Blob) :=
  match converted with
  | none => refuse .illegalArgument
  | some settings => do
      check (¬((← getSession).mFirstRequest ∧ settings = none)) .illegalArgument
      pure settings

def readSettings (lib : MetadataLib) (request : CaptureRequest) : RequestM (Option Blob) := do
  let converted ←
    if 0 < request.fmqSettingsSize then do
      let read ← readRequestQueue request.frameNumber none request.fmqSettingsSize.toNat
      pure (read.bind lib.convertFromAidl)
    else pure (lib.convertFromAidl request.settings)
  checkSettings converted

/-- The settings of the `i`-th physical camera, with `numFmq` elements in `physicalFmq`.
The size is cast to `uint64_t`, so that a negative one cannot be allocated, and the
element that is read into is `physicalFmq[i]`, which only exists if all earlier settings
came through the queue as well. -/
def readPhysicalSetting (lib : MetadataLib) (frameNumber i numFmq : Nat)
    (setting : PhysicalCameraSetting) : RequestM (Option Blob) := do
  let converted ←
    if setting.fmqSettingsSize = 0 then pure (lib.convertFromAidl setting.settings)
    else if setting.fmqSettingsSize < 0 ∨ numFmq ≠ i then throw .undefined
    else do
      let read ← readRequestQueue frameNumber (some i) setting.fmqSettingsSize.toNat
      pure (read.bind lib.convertFromAidl)
  checkSettings converted

/-- The loop over the physical camera settings, from the `i`-th on. -/
def readPhysicalSettings (lib : MetadataLib) (frameNumber : Nat) :
    Nat → Nat → List PhysicalCameraSetting → RequestM (List (Option Blob))
  | _, _, [] => pure []
  | i, numFmq, setting :: rest => do
      let settings ← readPhysicalSetting lib frameNumber i numFmq setting
      let numFmq := if setting.fmqSettingsSize = 0 then numFmq else numFmq + 1
      let more ← readPhysicalSettings lib frameNumber (i + 1) numFmq rest
      pure (settings :: more)

namespace Session

/-- `handleAePrecaptureCancelRequestLocked`: the settings for the HAL and the override,
where it returns true. -/
def handleAePrecaptureCancelRequestLocked (lib : MetadataLib) (s : Session) :
    Option Blob → Option (Blob × AETriggerCancelOverride)
  | none => none
  | some packet =>
      if cameraDeviceApiVersion32 < s.mDeviceVersion ∨ lib.entryCount packet = 0 then none
      else
        let settings := lib.append packet
        if lib.first settings .controlAePrecaptureTrigger = some aePrecaptureTriggerCancel then
          let settings :=
            lib.update settings .controlAePrecaptureTrigger [aePrecaptureTriggerIdle]
          let override : AETriggerCancelOverride :=
            ⟨false, aeLockOff, true, aePrecaptureTriggerCancel⟩
          let aeLock := lib.first settings .controlAeLock
          if s.mIsAELockAvailable ∧ (aeLock = none ∨ aeLock = some aeLockOff) then
            some (lib.update settings .controlAeLock [aeLockOn],
              { override with applyAeLock := true, aeLock := aeLockOff })
          else some (settings, override)
        else none

/-! ## The in-flight records -/

/-- `convertFromAidl` of a stream buffer. -/
def halBuffer (buffer : StreamBuffer) (bufPtr : Option BufferHandle) (acquireFence : Int) :
    Camera3StreamBuffer :=
  { stream := buffer.streamId, buffer := bufPtr, status := buffer.status, acquireFence }

/-- Record one buffer of a request. Both `mStreamMap[streamId]` and
`mPhysicalCameraIdMap[streamId]` create the entry of a new stream. -/
def addInflightBuffer (s : Session) (frameNumber : Nat) (buffer : Camera3StreamBuffer) :
    Session :=
  let stream := s.mStreamMap.getD buffer.stream {}
  let physicalCameraId := s.mPhysicalCameraIdMap.getD buffer.stream ""
  { s with
    mInflightBuffers := s.mInflightBuffers.insert (buffer.stream, frameNumber) buffer
    mStreamMap := s.mStreamMap.insert buffer.stream
      { stream with physicalCameraId := some physicalCameraId }
    mPhysicalCameraIdMap := s.mPhysicalCameraIdMap.insertIfNew buffer.stream "" }

def addInflightBuffers (s : Session) (frameNumber : Nat) (buffers : List Camera3StreamBuffer) :
    Session :=
  buffers.foldl (fun s buffer => s.addInflightBuffer frameNumber buffer) s

/-- Record the override of a precapture cancel, if one is needed. -/
def setOverride (s : Session) (frameNumber : Nat) :
    Option (Blob × AETriggerCancelOverride) → Session
  | none => s
  | some (_, override) =>
      { s with mInflightAETriggerOverrides :=
          s.mInflightAETriggerOverrides.insert frameNumber override }

/-- What a failed HAL call takes back. -/
def dropRequest (s : Session) (request : CaptureRequest) (aeCancelTriggerNeeded : Bool) :
    Session :=
  { s with
    mInflightBuffers := s.mInflightBuffers.eraseAll request.inflightKeys
    mInflightAETriggerOverrides :=
      if aeCancelTriggerNeeded then s.mInflightAETriggerOverrides.erase request.frameNumber
      else s.mInflightAETriggerOverrides }

end Session

/-- A request at the HAL whose `process_capture_request` has not returned. -/
structure PendingRequest where
  request : CaptureRequest
  halRequest : Camera3CaptureRequest
  allFences : List Int
  aeCancelTriggerNeeded : Bool
  deriving DecidableEq, Repr

/-- The HAL's form of a request's buffers, the input buffer last. -/
def CaptureRequest.halBuffers (request : CaptureRequest) (allBufPtrs : List (Option BufferHandle))
    (allFences : List Int) : List Camera3StreamBuffer :=
  List.zipWith (fun buffer (bufPtr, fence) => Session.halBuffer buffer bufPtr fence)
    request.buffers (allBufPtrs.zip allFences)

/-- The section of `processOneCaptureRequest` under the in-flight lock: record the
buffers, the input buffer first, and the override of a precapture cancel. -/
def registerInflight (lib : MetadataLib) (request : CaptureRequest) (settings : Option Blob)
    (allBufPtrs : List (Option BufferHandle)) (allFences : List Int) : RequestM PendingRequest := do
  let halBuffers := request.halBuffers allBufPtrs allFences
  let outputs := halBuffers.take request.outputBuffers.length
  let input := halBuffers.drop request.outputBuffers.length
  update (·.addInflightBuffers request.frameNumber (input ++ outputs))
  let override := (← getSession).handleAePrecaptureCancelRequestLocked lib settings
  update (·.setOverride request.frameNumber override)
  pure
    { request
      halRequest :=
        { frameNumber := request.frameNumber
          settings := (override.map Prod.fst).or settings
          inputBuffer := input.head?
          outputBuffers := outputs
          physcamId := []
          physcamSettings := [] }
      allFences
      aeCancelTriggerNeeded := override.isSome }

/-- `processOneCaptureRequest` up to the HAL call. -/
def prepareRequest (lib : MetadataLib) (world : RequestWorld) (request : CaptureRequest) :
    RequestM PendingRequest := do
  let status := (← getSession).initStatus
  check (status = .ok) status
  let settings ← readSettings lib request
  check (request.outputBuffers ≠ []) .illegalArgument
  let (allBufPtrs, allFences) ← importRequest world request
  let pending ← registerInflight lib request settings allBufPtrs allFences
  let physicalCameraSettings ←
    readPhysicalSettings lib request.frameNumber 0 0 request.physicalCameraSettings
  let halRequest := { pending.halRequest with
    physcamId := request.physicalCameraSettings.map (·.physicalCameraId)
    physcamSettings := physicalCameraSettings }
  emit [.processCaptureRequest halRequest]
  pure { pending with halRequest }

/-- `processOneCaptureRequest` after the HAL call. -/
def completeRequest (ret : Int) (pending : PendingRequest) : RequestM PUnit :=
  if ret = statusOk then update fun s => { s with mFirstRequest := false }
  else do
    cleanupInflightFences pending.allFences
    update fun s => s.dropRequest pending.request pending.aeCancelTriggerNeeded
    refuse (if ret = badValue then .illegalArgument else .internalError)

def processOneCaptureRequest (lib : MetadataLib) (world : RequestWorld)
    (request : CaptureRequest) : RequestM PUnit := do
  let pending ← prepareRequest lib world request
  completeRequest world.processCaptureRequest pending

/-- The loop of `processCaptureRequest` after `count` requests, with the status and the
number of requests it ends with. -/
def processRequests (lib : MetadataLib) (count : Nat) (c : Call) :
    List (RequestWorld × CaptureRequest) → Option (Status × Nat × Call)
  | [] => some (.ok, count, c)
  | (world, request) :: rest =>
      match processOneCaptureRequest lib world request c with
      | .ok _ c => processRequests lib (count + 1) c rest
      | .error (.status status) c => some (status, count, c)
      | .error .undefined _ => none

/-- `processCaptureRequest`, with the answers of the environment to each request. -/
def processCaptureRequest (lib : MetadataLib) (s : Session)
    (requests : List (RequestWorld × CaptureRequest)) (cachesToRemove : List BufferCache) :
    Option (Status × Nat × Call) :=
  let (events, s) := s.updateBufferCaches cachesToRemove
  (processRequests lib 0 { session := s, events } requests).map fun (status, count, c) =>
    match requests with
    | (_, first) :: _ :: _ =>
        if status = .ok then
          (status, count, { c with session := { c.session with
            mResultBatcher := c.session.mResultBatcher.registerBatch first.frameNumber
              requests.length } })
        else (status, count, c)
    | _ => (status, count, c)

end LgeHardware.Camera
