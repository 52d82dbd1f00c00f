import LgeHardware.Camera.Session

/-! # HAL callbacks

`sProcessCaptureResult` turns a HAL result into the form of the camera service, takes
its buffers out of the in-flight records and hands it to the result batcher, unless
it turns out invalid on the way. `sNotify` clears the records that an error makes
obsolete before it passes the message on.
-/

namespace LgeHardware.Camera

namespace Camera3CaptureResult

/-- The buffers of a HAL result, the input buffer first. -/
def buffers (hal : Camera3CaptureResult) : List HalStreamBuffer :=
  hal.inputBuffer.toList ++ hal.outputBuffers

/-- The keys of a HAL result's buffers in `mInflightBuffers`. -/
def inflightKeys (hal : Camera3CaptureResult) : List (Int × Nat) :=
  hal.buffers.map fun buffer => (buffer.stream, hal.frameNumber)

end Camera3CaptureResult

/-- `sShrinkCaptureResult`. -/
def sShrinkCaptureResult (lib : MetadataLib) (handlePhysCam : Bool)
    (src : Camera3CaptureResult) : Camera3CaptureResult :=
  { src with
    result := lib.shrink src.result
    physcamMetadata :=
      if handlePhysCam then
        src.physcamMetadata.map fun (id, packet) => (id, (lib.shrink (some packet)).getD packet)
      else src.physcamMetadata }

/-- `overrideResultForPrecaptureCancelLocked`. -/
def overrideResultForPrecaptureCancelLocked (lib : MetadataLib)
    (aeTriggerCancelOverride : AETriggerCancelOverride) (settings : Blob) : Blob :=
  let settings :=
    if aeTriggerCancelOverride.applyAeLock then
      lib.update settings .controlAeLock [aeTriggerCancelOverride.aeLock]
    else settings
  if aeTriggerCancelOverride.applyAePrecaptureTrigger then
    lib.update settings .controlAePrecaptureTrigger [aeTriggerCancelOverride.aePrecaptureTrigger]
  else settings

/-- The file descriptors of the release fence of a HAL buffer. -/
def HalStreamBuffer.fences (buffer : HalStreamBuffer) : List Int :=
  if buffer.releaseFence ≠ -1 then [buffer.releaseFence] else []

namespace Session

/-- Every buffer of the result is in flight. -/
def ResultInflight (s : Session) (hal : Camera3CaptureResult) : Prop :=
  ∀ key ∈ hal.inflightKeys, key ∈ s.mInflightBuffers

instance (s : Session) (hal : Camera3CaptureResult) : Decidable (s.ResultInflight hal) :=
  inferInstanceAs (Decidable (∀ key ∈ hal.inflightKeys, _))

/-- The part of `constructCaptureResult` that derives the sensitivity boost key, with
`mOverridenResult` where it is used. -/
def derivePostRawSensKey (lib : MetadataLib) (s : Session) (hal : Camera3CaptureResult)
    (packet : Blob) : Option Blob × Session :=
  if s.mDerivePostRawSensKey then
    let present :=
      if (lib.find packet .controlPostRawSensitivityBoost).isSome then
        s.mInflightRawBoostPresent.insert hal.frameNumber true
      else s.mInflightRawBoostPresent.insertIfNew hal.frameNumber false
    if hal.partialResult = s.mNumPartialResults then
      let overridden :=
        if present.getD hal.frameNumber false then none
        else some (lib.update (lib.append packet) .controlPostRawSensitivityBoost [defaultBoost])
      (overridden, { s with mInflightRawBoostPresent := present.erase hal.frameNumber })
    else (none, { s with mInflightRawBoostPresent := present })
  else (none, s)

/-- The part of `constructCaptureResult` that undoes a precapture cancel. -/
def applyTriggerOverride (lib : MetadataLib) (s : Session) (hal : Camera3CaptureResult)
    (packet : Blob) (overridden : Option Blob) : Option Blob × Session :=
  match s.mInflightAETriggerOverrides[hal.frameNumber]? with
  | none => (overridden, s)
  | some aeTriggerCancelOverride =>
      (some (overrideResultForPrecaptureCancelLocked lib aeTriggerCancelOverride
          (overridden.getD (lib.append packet))),
        if hal.partialResult = s.mNumPartialResults then
          { s with mInflightAETriggerOverrides :=
              s.mInflightAETriggerOverrides.erase hal.frameNumber }
        else s)

/-- The metadata part of `constructCaptureResult`. -/
def resultMetadata (lib : MetadataLib) (s : Session) (hal : Camera3CaptureResult) :
    Blob × Session :=
  match hal.result with
  | none => ([], s)
  | some packet =>
      let (overridden, s) := s.derivePostRawSensKey lib hal packet
      let (overridden, s) := s.applyTriggerOverride lib hal packet overridden
      (overridden.getD packet, s)

/-- A HAL buffer without its id. -/
def resultBuffer (frameNumber : Nat) (buffer : HalStreamBuffer) : StreamBuffer :=
  { streamId := buffer.stream
    status := buffer.status
    releaseFence := buffer.fences
    halFrame := frameNumber }

/-- The loop of `constructCaptureResult` over the output buffers. -/
def outputBuffers (s : Session) (frameNumber : Nat) :
    List HalStreamBuffer → List StreamBuffer × Session
  | [] => ([], s)
  | buffer :: rest =>
      let (bufferId, s) :=
        match buffer.buffer with
        | some handle => s.getCapResultBufferId handle buffer.stream
        | none => (0, s)
      let (more, s) := s.outputBuffers frameNumber rest
      ({ resultBuffer frameNumber buffer with bufferId } :: more, s)

/-- `constructCaptureResult`; `none` stands for `-EINVAL`. -/
def constructCaptureResult (lib : MetadataLib) (s : Session) (hal : Camera3CaptureResult) :
    Option CaptureResult × Session :=
  if ¬s.ResultInflight hal then (none, s)
  else
    let (metadata, s) := s.resultMetadata lib hal
    let (outputBuffers, s) := s.outputBuffers hal.frameNumber hal.outputBuffers
    (some
      { frameNumber := hal.frameNumber
        fmqResultSize := 0
        result := metadata
        partialResult := hal.partialResult
        outputBuffers
        inputBuffer := match hal.inputBuffer with
          | some buffer => resultBuffer hal.frameNumber buffer
          | none => { streamId := -1 } },
      { s with mInflightBuffers := s.mInflightBuffers.eraseAll hal.inflightKeys })

/-- The session checks and forwards the metadata of physical cameras. -/
def handlePhysCam (s : Session) : Bool := cameraDeviceApiVersion35 ≤ s.mDeviceVersion

/-- The physical camera metadata of a result is for known cameras, and not for too many. -/
def PhysicalMetadataValid (s : Session) (hal : Camera3CaptureResult) : Prop :=
  hal.physcamMetadata.length ≤ s.mPhysicalCameraIds.size ∧
    ∀ entry ∈ hal.physcamMetadata, entry.1 ∈ s.mPhysicalCameraIds

instance (s : Session) (hal : Camera3CaptureResult) : Decidable (s.PhysicalMetadataValid hal) :=
  inferInstanceAs (Decidable (_ ∧ _))

/-- `sProcessCaptureResult` up to the result batcher, with the result for it. -/
def acceptCaptureResult (lib : MetadataLib) (s : Session) (hal : Camera3CaptureResult) :
    Option CaptureResult × Session :=
  let shadowResult := sShrinkCaptureResult lib s.handlePhysCam hal
  match s.constructCaptureResult lib shadowResult with
  | (none, s) => (none, s)
  | (some result, s) =>
      if s.handlePhysCam then
        if s.PhysicalMetadataValid shadowResult then
          (some { result with
            physicalCameraMetadata := shadowResult.physcamMetadata.map fun (id, packet) =>
              { physicalCameraId := id, metadata := packet } }, s)
        else (none, s)
      else (some result, s)

def sProcessCaptureResult (lib : MetadataLib) (s : Session) (hal : Camera3CaptureResult) :
    List Effect × Session :=
  match s.acceptCaptureResult lib hal with
  | (none, s) => ([], s)
  | (some result, s) =>
      let (effects, batcher) := s.mResultBatcher.processCaptureResult result
      (effects, { s with mResultBatcher := batcher })

/-- What an error makes `sNotify` forget of its frame. -/
def forgetFrame (s : Session) (frameNumber : Nat) : Session :=
  { s with
    mInflightAETriggerOverrides := s.mInflightAETriggerOverrides.erase frameNumber
    mInflightRawBoostPresent := s.mInflightRawBoostPresent.erase frameNumber }

/-- `sNotify` up to the result batcher; `none` for a message that goes no further. -/
def acceptNotify (s : Session) : NotifyMsg → Option Session
  | .shutter .. => some s
  | .error frameNumber errorStreamId errorCode =>
      if errorStreamId ≠ -1 ∧ errorStreamId ∉ s.mStreamMap then none
      else
        match errorCode with
        | .errorDevice | .errorRequest | .errorResult => some (s.forgetFrame frameNumber)
        | .errorBuffer => some s

/-- `sNotify`. It is undefined where the result batcher is. -/
def sNotify (s : Session) (msg : NotifyMsg) : Option (List Effect × Session) :=
  match s.acceptNotify msg with
  | none => some ([], s)
  | some s => (s.mResultBatcher.notify msg).map fun (effects, batcher) =>
      (effects, { s with mResultBatcher := batcher })

/-! ## What a result changes -/

/-- The session with the parts cleared that a HAL result touches. -/
def withoutResults (s : Session) : Session :=
  { s with
    mInflightBuffers := ∅
    mInflightAETriggerOverrides := ∅
    mInflightRawBoostPresent := ∅
    mBufferIdMaps := ∅
    mResultBatcher := { mNumPartialResults := 0 } }

section

variable (lib : MetadataLib) (s : Session) (hal : Camera3CaptureResult) (packet : Blob)

theorem derivePostRawSensKey_frame :
    (s.derivePostRawSensKey lib hal packet).2 =
      { s with mInflightRawBoostPresent :=
          (s.derivePostRawSensKey lib hal packet).2.mInflightRawBoostPresent } := by
  rw [derivePostRawSensKey]
  split
  next =>
    dsimp only
    split <;> rfl
  next => rfl

theorem applyTriggerOverride_frame (overridden : Option Blob) :
    (s.applyTriggerOverride lib hal packet overridden).2 =
      { s with mInflightAETriggerOverrides :=
          (s.applyTriggerOverride lib hal packet overridden).2.mInflightAETriggerOverrides } := by
  rw [applyTriggerOverride]
  split
  next => rfl
  next =>
    dsimp only
    split <;> rfl

theorem popBufferId_frame (buf : BufferHandle) (streamId : Int) :
    (s.popBufferId buf streamId).2 =
      { s with mBufferIdMaps := (s.popBufferId buf streamId).2.mBufferIdMaps } := by
  rw [popBufferId]
  split
  next => rfl
  next =>
    split
    next => rfl
    next => rfl

theorem outputBuffers_frame (frameNumber : Nat) (buffers : List HalStreamBuffer) :
    (s.outputBuffers frameNumber buffers).2 =
      { s with mBufferIdMaps := (s.outputBuffers frameNumber buffers).2.mBufferIdMaps } := by
  induction buffers generalizing s with
  | nil => rfl
  | cons buffer rest ih =>
      rw [outputBuffers]
      dsimp only
      rw [ih]
      split
      next handle => rw [getCapResultBufferId, popBufferId_frame]
      next => rfl

/-- The derived output buffers differ from the HAL's in their form only. -/
theorem map_outputBuffers {α : Type} (f : StreamBuffer → α) (frameNumber : Nat)
    (hf : ∀ buffer bufferId, f { resultBuffer frameNumber buffer with bufferId } =
      f (resultBuffer frameNumber buffer)) (buffers : List HalStreamBuffer) :
    (s.outputBuffers frameNumber buffers).1.map f =
      buffers.map fun buffer => f (resultBuffer frameNumber buffer) := by
  induction buffers generalizing s with
  | nil => rfl
  | cons buffer rest ih =>
      simp only [outputBuffers, List.map_cons, hf]
      rw [ih]

theorem resultMetadata_buffers :
    (s.resultMetadata lib hal).2.mInflightBuffers = s.mInflightBuffers := by
  rw [resultMetadata]
  split
  next => rfl
  next => rw [applyTriggerOverride_frame, derivePostRawSensKey_frame]

theorem resultMetadata_withoutResults :
    (s.resultMetadata lib hal).2.withoutResults = s.withoutResults := by
  rw [resultMetadata]
  split
  next => rfl
  next =>
    dsimp only
    rw [applyTriggerOverride_frame, derivePostRawSensKey_frame]
    rfl

/-- The result carries all buffers of the HAL result. -/
structure Carries (result : CaptureResult) (hal : Camera3CaptureResult) : Prop where
  frame : result.frameNumber = hal.frameNumber
  outputs : result.outputBuffers.map (fun buffer =>
      (buffer.streamId, buffer.status, buffer.releaseFence)) =
    hal.outputBuffers.map fun buffer => (buffer.stream, buffer.status, buffer.fences)
  input : match hal.inputBuffer with
    | some buffer => result.inputBuffer = resultBuffer hal.frameNumber buffer
    | none => result.inputBuffer.streamId = -1

/-- What `constructCaptureResult` makes of a session when it succeeds. -/
structure TakesResult (s' : Session) : Prop where
  buffers : s'.mInflightBuffers = s.mInflightBuffers.eraseAll hal.inflightKeys
  boosts : s'.mInflightRawBoostPresent = (s.resultMetadata lib hal).2.mInflightRawBoostPresent
  overrides : s'.mInflightAETriggerOverrides =
    (s.resultMetadata lib hal).2.mInflightAETriggerOverrides
  others : s'.withoutResults = s.withoutResults

variable {lib s hal} in
theorem TakesResult.handlePhysCam {s' : Session} (h : s.TakesResult lib hal s') :
    s'.handlePhysCam = s.handlePhysCam := by
  have hsame := congrArg Session.handlePhysCam h.others
  exact hsame

variable {lib s hal} in
theorem TakesResult.mPhysicalCameraIds {s' : Session} (h : s.TakesResult lib hal s') :
    s'.mPhysicalCameraIds = s.mPhysicalCameraIds := by
  have hsame := congrArg Session.mPhysicalCameraIds h.others
  exact hsame

theorem constructCaptureResult_of_inflight (h : s.ResultInflight hal) :
    ∃ result s', s.constructCaptureResult lib hal = (some result, s') ∧ Carries result hal ∧
      s.TakesResult lib hal s' := by
  have hbuffers := s.resultMetadata_buffers lib hal
  have hothers := s.resultMetadata_withoutResults lib hal
  rcases hmetadata : s.resultMetadata lib hal with ⟨metadata, s₁⟩
  have hframe := s₁.outputBuffers_frame hal.frameNumber hal.outputBuffers
  have houtputs := s₁.map_outputBuffers (fun buffer : StreamBuffer =>
    (buffer.streamId, buffer.status, buffer.releaseFence)) hal.frameNumber (fun _ _ => rfl)
    hal.outputBuffers
  rcases houtput : s₁.outputBuffers hal.frameNumber hal.outputBuffers with ⟨outputBuffers, s₂⟩
  rw [hmetadata] at hbuffers hothers
  rw [houtput] at hframe houtputs
  dsimp only at hframe hbuffers hothers
  simp only [constructCaptureResult, if_neg (not_not_intro h), hmetadata, houtput]
  refine ⟨_, _, rfl, ⟨rfl, houtputs, ?_⟩, ⟨?_, ?_, ?_, ?_⟩⟩
  · cases hal.inputBuffer with
    | none => rfl
    | some buffer => rfl
  · rw [hframe]
    exact congrArg (·.eraseAll hal.inflightKeys) hbuffers
  · rw [hmetadata, hframe]
  · rw [hmetadata, hframe]
  · rw [hframe]
    exact hothers

theorem constructCaptureResult_of_not_inflight (h : ¬s.ResultInflight hal) :
    s.constructCaptureResult lib hal = (none, s) := if_pos h

/-- A result with a buffer that is not in flight is refused, and nothing changes. -/
theorem acceptCaptureResult_of_not_inflight (h : ¬s.ResultInflight hal) :
    s.acceptCaptureResult lib hal = (none, s) := by
  have hrefused : s.constructCaptureResult lib (sShrinkCaptureResult lib s.handlePhysCam hal) =
      (none, s) := constructCaptureResult_of_not_inflight lib s _ h
  rw [acceptCaptureResult, hrefused]

theorem sProcessCaptureResult_of_not_inflight (h : ¬s.ResultInflight hal) :
    s.sProcessCaptureResult lib hal = ([], s) := by
  rw [sProcessCaptureResult, acceptCaptureResult_of_not_inflight lib s hal h]

end

end Session

end LgeHardware.Camera
