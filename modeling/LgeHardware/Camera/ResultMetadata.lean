import LgeHardware.Camera.InflightDrain

/-! # Result metadata over a run

The metadata of a result may be changed in two ways before it is handed on. A missing
sensitivity boost is filled in with the final metadata of a frame, as far as the boost
record knows, and the override record of the frame undoes a precapture cancel. What a
client reads is given here by the content of the HAL's packet and by these two records,
and what each operation does to the records is said once.
-/

namespace LgeHardware.Camera

open LgeHardware.Foundation

/-! ## Content -/

/-- The override writes values that the session writes. -/
def AETriggerCancelOverride.Restores (override : AETriggerCancelOverride) : Prop :=
  override.aeLock = aeLockOff ∧ override.aePrecaptureTrigger = aePrecaptureTriggerCancel

/-- The content after an override. -/
def AETriggerCancelOverride.restore (override : AETriggerCancelOverride) (content : Content) :
    Content :=
  let content :=
    if override.applyAeLock then
      Function.update content .controlAeLock (some [override.aeLock])
    else content
  if override.applyAePrecaptureTrigger then
    Function.update content .controlAePrecaptureTrigger (some [override.aePrecaptureTrigger])
  else content

/-- What a client reads where the HAL's metadata has the given content. -/
def clientContent (override : Option AETriggerCancelOverride) (boostMissing : Prop)
    [Decidable boostMissing] (content : Content) : Content :=
  let content :=
    if boostMissing then
      Function.update content .controlPostRawSensitivityBoost (some [defaultBoost])
    else content
  override.elim content (·.restore content)

theorem clientContent_congr {boostMissing boostMissing' : Prop} [Decidable boostMissing]
    [Decidable boostMissing'] (h : boostMissing ↔ boostMissing')
    (override : Option AETriggerCancelOverride) (content : Content) :
    clientContent override boostMissing content =
      clientContent override boostMissing' content := by
  simp only [clientContent, h]

/-- Without an override, only the boost can differ. -/
theorem clientContent_of_ne {boostMissing : Prop} [Decidable boostMissing] (content : Content)
    {tag : Tag} (hboost : tag ≠ .controlPostRawSensitivityBoost) :
    clientContent none boostMissing content tag = content tag := by
  simp only [clientContent, Option.elim_none]
  split
  next => rw [Function.update_of_ne hboost]
  next => rfl

section

variable {lib : MetadataLib} (hlib : lib.Lawful)

include hlib

theorem find_overrideResult {override : AETriggerCancelOverride} (h : override.Restores)
    (settings : Blob) :
    lib.find (overrideResultForPrecaptureCancelLocked lib override settings) =
      override.restore (lib.find settings) := by
  have hlock := fun packet => hlib.find_update packet .controlAeLock _ (.inl h.1)
  have htrigger := fun packet =>
    hlib.find_update packet .controlAePrecaptureTrigger _ (.inr h.2)
  rw [overrideResultForPrecaptureCancelLocked, AETriggerCancelOverride.restore]
  split
  next =>
    split
    next => rw [htrigger, hlock]
    next => exact htrigger settings
  next =>
    split
    next => exact hlock settings
    next => rfl

end

namespace Session

/-- The final metadata of a frame comes without a boost, and so did all metadata before. -/
def LacksBoost (lib : MetadataLib) (s : Session) (hal : Camera3CaptureResult) (packet : Blob) :
    Prop :=
  s.mDerivePostRawSensKey = true ∧ hal.partialResult = s.mNumPartialResults ∧
    lib.find packet .controlPostRawSensitivityBoost = none ∧
    s.mInflightRawBoostPresent.getD hal.frameNumber false = false

instance (lib : MetadataLib) (s : Session) (hal : Camera3CaptureResult) (packet : Blob) :
    Decidable (s.LacksBoost lib hal packet) :=
  inferInstanceAs (Decidable (_ ∧ _ ∧ _ ∧ _))

/-- The boost is filled in where the frame lacks it, in a copy or in the packet itself. -/
theorem find_derivePostRawSensKey {lib : MetadataLib} (hlib : lib.Lawful) (s : Session)
    (hal : Camera3CaptureResult) {packet fallback : Blob}
    (hfallback : lib.find fallback = lib.find packet) :
    lib.find ((s.derivePostRawSensKey lib hal packet).1.getD fallback) =
      if s.LacksBoost lib hal packet then
        Function.update (lib.find packet) .controlPostRawSensitivityBoost (some [defaultBoost])
      else lib.find packet := by
  have hpresent := s.getElem?_boostPresent lib hal.frameNumber hal.frameNumber packet
  rw [if_pos rfl] at hpresent
  have hwritten : Tag.Written .controlPostRawSensitivityBoost defaultBoost := rfl
  rw [derivePostRawSensKey]
  by_cases hderive : s.mDerivePostRawSensKey = true
  · rw [if_pos hderive]
    dsimp only
    by_cases hfinal : hal.partialResult = s.mNumPartialResults
    · have hlacks : s.LacksBoost lib hal packet ↔
          ((lib.find packet .controlPostRawSensitivityBoost).isSome ||
            s.mInflightRawBoostPresent.getD hal.frameNumber false) = false := by
        rw [Bool.or_eq_false_iff, Option.isSome_eq_false_iff, Option.isNone_iff_eq_none]
        exact ⟨fun h => h.2.2, fun h => ⟨hderive, hfinal, h⟩⟩
      rw [if_pos hfinal, Std.ExtTreeMap.getD_eq_getD_getElem?, hpresent, Option.getD_some]
      by_cases hlack : s.LacksBoost lib hal packet
      · rw [if_pos hlack, hlacks.mp hlack, if_neg Bool.false_ne_true, Option.getD_some,
          hlib.find_update _ _ _ hwritten, hlib.find_append]
      · rw [if_neg hlack, if_pos (Bool.not_eq_false _ ▸ mt hlacks.mpr hlack), Option.getD_none]
        exact hfallback
    · have hnot : ¬s.LacksBoost lib hal packet := fun h => hfinal h.2.1
      rw [if_neg hfinal, if_neg hnot]
      exact hfallback
  · have hnot : ¬s.LacksBoost lib hal packet := fun h => hderive h.1
    rw [if_neg hderive, if_neg hnot]
    exact hfallback

/-- The client reads the HAL's metadata through the two records. -/
theorem find_resultMetadata {lib : MetadataLib} (hlib : lib.Lawful) {s : Session}
    {hal : Camera3CaptureResult} {packet : Blob} (hpacket : hal.result = some packet)
    (hrestores : ∀ override, s.mInflightAETriggerOverrides[hal.frameNumber]? = some override →
      override.Restores) :
    lib.find (s.resultMetadata lib hal).1 =
      clientContent s.mInflightAETriggerOverrides[hal.frameNumber]?
        (s.LacksBoost lib hal packet) (lib.find packet) := by
  have hoverrides : (s.derivePostRawSensKey lib hal packet).2.mInflightAETriggerOverrides =
      s.mInflightAETriggerOverrides := by
    rw [derivePostRawSensKey_frame]
  simp only [resultMetadata, hpacket, applyTriggerOverride, hoverrides]
  cases hoverride : s.mInflightAETriggerOverrides[hal.frameNumber]? with
  | none => exact find_derivePostRawSensKey hlib s hal rfl
  | some override =>
      rw [Option.getD_some, find_overrideResult hlib (hrestores override hoverride),
        find_derivePostRawSensKey hlib s hal (hlib.find_append packet)]
      rfl

theorem constructCaptureResult_metadata (lib : MetadataLib) {s : Session}
    {hal : Camera3CaptureResult} (hinflight : s.ResultInflight hal) :
    ∃ result s', s.constructCaptureResult lib hal = (some result, s') ∧
      result.result = (s.resultMetadata lib hal).1 :=
  ⟨_, _, if_neg (not_not_intro hinflight), rfl⟩

/-- A result that gets past the checks carries its metadata, as changed on the way. -/
theorem acceptCaptureResult_metadata {lib : MetadataLib} {s : Session}
    {hal : Camera3CaptureResult} {result : CaptureResult}
    (h : (s.acceptCaptureResult lib hal).1 = some result) :
    s.ResultInflight hal ∧
      result.result = (s.resultMetadata lib (sShrinkCaptureResult lib s.handlePhysCam hal)).1 := by
  by_cases hinflight : s.ResultInflight hal
  · refine ⟨hinflight, ?_⟩
    obtain ⟨taken, s', htaken, hmetadata⟩ :=
      @constructCaptureResult_metadata lib s (sShrinkCaptureResult lib s.handlePhysCam hal)
        hinflight
    simp only [acceptCaptureResult, htaken] at h
    split at h
    next =>
      split at h
      next => exact Option.some.inj h ▸ hmetadata
      next => cases h
    next => exact Option.some.inj h ▸ hmetadata
  · rw [acceptCaptureResult_of_not_inflight lib s hal hinflight] at h
    cases h

/-- Once its buffers are found, nothing but physical camera metadata stops a result. -/
theorem acceptCaptureResult_isSome (lib : MetadataLib) {s : Session} {hal : Camera3CaptureResult}
    (hinflight : s.ResultInflight hal)
    (hvalid : s.handlePhysCam = true → s.PhysicalMetadataValid hal) :
    (s.acceptCaptureResult lib hal).1.isSome = true := by
  obtain ⟨result, s', hresult, -, htakes⟩ :=
    constructCaptureResult_of_inflight lib s (sShrinkCaptureResult lib s.handlePhysCam hal)
      hinflight
  simp only [acceptCaptureResult, hresult]
  split
  next hhandled =>
    rw [htakes.handlePhysCam] at hhandled
    have hshrunk : s'.PhysicalMetadataValid
        (sShrinkCaptureResult lib s.handlePhysCam hal) := by
      rw [PhysicalMetadataValid, htakes.mPhysicalCameraIds]
      exact (physicalMetadataValid_shrink s.handlePhysCam).mpr (hvalid hhandled)
    rw [if_pos hshrunk]
    rfl
  next => rfl

end Session

/-! ## What an operation does to the records -/

/-- The records that change metadata, and whether boosts are derived. -/
structure MetadataRecords where
  overrides : Std.ExtTreeMap Nat AETriggerCancelOverride
  boosts : Std.ExtTreeMap Nat Bool
  derives : Bool

def Session.metadataRecords (s : Session) : MetadataRecords :=
  ⟨s.mInflightAETriggerOverrides, s.mInflightRawBoostPresent, s.mDerivePostRawSensKey⟩

theorem Session.KeepsRecords.metadataRecords {s s' : Session} (h : s.KeepsRecords s') :
    s'.metadataRecords = s.metadataRecords := by
  rw [Session.metadataRecords, h.overrides, h.boosts, h.derives, Session.metadataRecords]

theorem Session.TakesResult.metadataRecords {lib : MetadataLib} {s s' : Session}
    {hal : Camera3CaptureResult} (h : s.TakesResult lib hal s') :
    s'.metadataRecords = (s.resultMetadata lib hal).2.metadataRecords := by
  have hderives : (s.resultMetadata lib hal).2.mDerivePostRawSensKey = s.mDerivePostRawSensKey :=
    (congrArg Session.mDerivePostRawSensKey (s.resultMetadata_withoutResults lib hal) :)
  rw [Session.metadataRecords, h.overrides, h.boosts, h.derives, Session.metadataRecords, hderives]

/-- What an operation makes of the records of a session. -/
inductive RecordsStep (lib : MetadataLib) (s : Session) : DrainOp → MetadataRecords → Prop
  | keeps {op : DrainOp} (hop : ∀ hal, op = .result hal → ¬s.ResultInflight (s.resolve hal)) :
      RecordsStep lib s op s.metadataRecords
  | submits (world : RequestWorld) (request : CaptureRequest) (settings : Option Blob) :
      RecordsStep lib s (.submit world request) (s.setOverride request.frameNumber
        (s.handleAePrecaptureCancelRequestLocked lib settings)).metadataRecords
  | refuses (pending : PendingRequest) {ret : Int} (hret : ret ≠ statusOk) :
      RecordsStep lib s (.halReturned pending ret)
        (s.dropRequest pending.request pending.aeCancelTriggerNeeded).metadataRecords
  | takes {hal : Camera3CaptureResult} (htakes : s.ResultInflight (s.resolve hal)) :
      RecordsStep lib s (.result hal) (s.resultMetadata lib
        (sShrinkCaptureResult lib s.handlePhysCam (s.resolve hal))).2.metadataRecords
  | forgets (frameNumber : Nat) (errorStream : Option Int) {errorCode : ErrorCode}
      (hcode : errorCode ≠ .errorBuffer) :
      RecordsStep lib s (.notifyError frameNumber errorStream errorCode)
        (s.forgetFrame frameNumber).metadataRecords

/-- Whether and how a precapture cancel is overridden depends on the device only. -/
theorem Session.handleAePrecaptureCancelRequestLocked_congr (lib : MetadataLib) {s s' : Session}
    (hversion : s'.mDeviceVersion = s.mDeviceVersion)
    (hlock : s'.mIsAELockAvailable = s.mIsAELockAvailable) (settings : Option Blob) :
    s'.handleAePrecaptureCancelRequestLocked lib settings =
      s.handleAePrecaptureCancelRequestLocked lib settings := by
  cases settings with
  | none => rfl
  | some packet => simp only [handleAePrecaptureCancelRequestLocked, hversion, hlock]

theorem Session.SameRecords.handleAePrecaptureCancelRequestLocked {s s' : Session}
    (h : s.SameRecords s') (lib : MetadataLib) (settings : Option Blob) :
    s'.handleAePrecaptureCancelRequestLocked lib settings =
      s.handleAePrecaptureCancelRequestLocked lib settings := by
  rw [Session.SameRecords] at h
  apply Session.handleAePrecaptureCancelRequestLocked_congr
  · rw [h]
  · rw [h]

theorem Session.handle_addInflightBuffers (lib : MetadataLib) (s : Session) (frameNumber : Nat)
    (buffers : List Camera3StreamBuffer) (settings : Option Blob) :
    (s.addInflightBuffers frameNumber buffers).handleAePrecaptureCancelRequestLocked lib settings =
      s.handleAePrecaptureCancelRequestLocked lib settings := by
  have hsame := s.addInflightBuffers_withoutRecords frameNumber buffers
  exact Session.handleAePrecaptureCancelRequestLocked_congr lib
    (congrArg Session.mDeviceVersion hsame :) (congrArg Session.mIsAELockAvailable hsame :) settings

theorem Session.addInflightBuffers_metadataRecords (s : Session) (frameNumber : Nat)
    (buffers : List Camera3StreamBuffer) :
    (s.addInflightBuffers frameNumber buffers).metadataRecords = s.metadataRecords := by
  induction buffers generalizing s with
  | nil => rfl
  | cons buffer rest ih => exact ih (s.addInflightBuffer frameNumber buffer)

theorem Session.setOverride_metadataRecords {s s' : Session}
    (h : s'.metadataRecords = s.metadataRecords) (frameNumber : Nat)
    (override : Option (Blob × AETriggerCancelOverride)) :
    (s'.setOverride frameNumber override).metadataRecords =
      (s.setOverride frameNumber override).metadataRecords := by
  cases override with
  | none => exact h
  | some override =>
      have hoverrides := congrArg MetadataRecords.overrides h
      have hboosts := congrArg MetadataRecords.boosts h
      have hderives := congrArg MetadataRecords.derives h
      simp only [metadataRecords] at hoverrides hboosts hderives
      simp only [setOverride, metadataRecords, hoverrides, hboosts, hderives]

/-- What preparing a request does to the records: nothing, or the override of a precapture
cancel is recorded, and the HAL is given the settings that go with it. -/
theorem prepareRequest_overrides (lib : MetadataLib) (world : RequestWorld)
    (request : CaptureRequest) (c : Call) :
    Ends (prepareRequest lib world request) c
      (fun pending c' => ∃ settings,
        (c.session.mainSettings request).bytes.bind lib.convertFromAidl = some settings ∧
        pending.halRequest.settings =
          ((c.session.handleAePrecaptureCancelRequestLocked lib settings).map Prod.fst).or
            settings ∧
        c'.events.getLast? = some (.processCaptureRequest pending.halRequest) ∧
        c'.session.metadataRecords = (c.session.setOverride request.frameNumber
          (c.session.handleAePrecaptureCancelRequestLocked lib settings)).metadataRecords)
      (fun _ c' => c'.session.metadataRecords = c.session.metadataRecords ∨ ∃ settings,
        c'.session.metadataRecords = (c.session.setOverride request.frameNumber
          (c.session.handleAePrecaptureCancelRequestLocked lib settings)).metadataRecords) := by
  simp only [prepareRequest, ends_bind, ends_getSession, ends_check]
  refine ⟨fun _ => ?_, fun _ => .inl trivial⟩
  refine (readSettings_spec lib request c).mono ?_ ?_
  · rintro settings _ ⟨hsettings, -, rfl⟩
    refine ⟨fun _ => ?_, fun _ => .inl rfl⟩
    refine (importRequest_spec world request _).mono ?_ ?_
    · rintro ⟨allBufPtrs, allFences⟩ c₁ ⟨-, -, -, hsame₁, -⟩
      simp only [registerInflight, ends_bind, ends_update, ends_getSession, ends_pure]
      generalize hs : c₁.session.addInflightBuffers request.frameNumber _ = s
      have hrecords : s.metadataRecords = c.session.metadataRecords := by
        rw [← hs, Session.addInflightBuffers_metadataRecords]
        exact hsame₁.keeps.1.metadataRecords
      have hoverride : s.handleAePrecaptureCancelRequestLocked lib settings =
          c.session.handleAePrecaptureCancelRequestLocked lib settings := by
        rw [← hs, Session.handle_addInflightBuffers]
        exact hsame₁.handleAePrecaptureCancelRequestLocked lib settings
      have hset := Session.setOverride_metadataRecords hrecords request.frameNumber
        (c.session.handleAePrecaptureCancelRequestLocked lib settings)
      rw [hoverride]
      refine (readPhysicalSettings_spec lib request.frameNumber request.physicalCameraSettings 0 0
        _).mono ?_ ?_
      · rintro physicalCameraSettings c₂ ⟨-, hreads⟩
        simp only [ends_emit]
        refine ⟨settings, hsettings, rfl, by simp, ?_⟩
        exact hreads.sameRecords.keeps.1.metadataRecords.trans hset
      · rintro e c₂ ⟨-, hreads⟩
        exact .inr ⟨settings, hreads.sameRecords.keeps.1.metadataRecords.trans hset⟩
    · rintro e c' ⟨-, -, hsame, -⟩
      exact .inl hsame.keeps.1.metadataRecords
  · rintro e _ ⟨-, -, rfl⟩
    exact .inl rfl

namespace DrainState

/-- The session finds all buffers of the result, and so takes it. -/
def Takes (s : DrainState) (hal : Camera3CaptureResult) : Prop :=
  s.session.ResultInflight (s.session.resolve hal)

instance (s : DrainState) (hal : Camera3CaptureResult) : Decidable (s.Takes hal) :=
  inferInstanceAs (Decidable (s.session.ResultInflight _))

/-- The result that the session hands on to its batcher for a HAL result, if any. -/
def handedOn (lib : MetadataLib) (s : DrainState) (hal : Camera3CaptureResult) :
    Option CaptureResult :=
  (s.session.acceptCaptureResult lib (s.session.resolve hal)).1

section

variable (lib : MetadataLib) (s : DrainState)

theorem submit_records (world : RequestWorld) (request : CaptureRequest) :
    RecordsStep lib s.session (.submit world request)
      (s.next lib (.submit world request)).session.metadataRecords := by
  have hends := prepareRequest_overrides lib world request { session := s.session }
  rw [Ends] at hends
  simp only [next]
  cases hresult : prepareRequest lib world request { session := s.session } with
  | ok pending c =>
      rw [hresult] at hends
      obtain ⟨settings, -, -, -, hrecords⟩ := hends
      dsimp only
      rw [hrecords]
      exact .submits world request settings
  | error e c =>
      rw [hresult] at hends
      dsimp only
      rcases hends with hsame | ⟨settings, hrecords⟩
      · rw [hsame]
        exact .keeps (by simp)
      · rw [hrecords]
        exact .submits world request settings

theorem result_records (hal : Camera3CaptureResult) :
    RecordsStep lib s.session (.result hal)
      (s.next lib (.result hal)).session.metadataRecords := by
  simp only [next]
  by_cases htakes : s.Takes hal
  · rw [(Session.sProcessCaptureResult_takes lib htakes).metadataRecords]
    exact .takes htakes
  · rw [Session.sProcessCaptureResult_of_not_inflight lib s.session _ htakes]
    exact .keeps fun _ heq => DrainOp.result.inj heq ▸ htakes

/-- An error drops the records of its frame, or none. -/
theorem notifyError_records (frameNumber : Nat) (errorStream : Option Int)
    (errorCode : ErrorCode) :
    RecordsStep lib s.session (.notifyError frameNumber errorStream errorCode)
      (s.next lib (.notifyError frameNumber errorStream errorCode)).session.metadataRecords := by
  by_cases hknown : s.session.errorStreamId errorStream = -1 ∨
      s.session.errorStreamId errorStream ∈ s.session.mStreamMap
  · obtain ⟨effects, batcher, hnotify⟩ := s.session.sNotify_error frameNumber errorCode hknown
    simp only [next, hnotify]
    split
    next => exact .keeps (by simp)
    next hcode => exact .forgets frameNumber errorStream hcode
  · have hunknown := not_or.mp hknown
    simp only [next, Session.sNotify, Session.acceptNotify, ne_eq, if_pos hunknown]
    exact .keeps (by simp)

/-- Every operation does one of these things to the records. -/
theorem next_records (op : DrainOp) :
    RecordsStep lib s.session op (s.next lib op).session.metadataRecords := by
  cases op with
  | submit world request => exact s.submit_records lib world request
  | halReturned pending ret =>
      simp only [next, completeRequest_session]
      split
      next => exact .keeps (by simp)
      next hret => exact .refuses pending hret
  | registerBatch frameNumber batchSize => exact .keeps (by simp)
  | result hal => exact s.result_records lib hal
  | notifyShutter frameNumber timestamp =>
      obtain ⟨batcher, hnext⟩ := s.next_notifyShutter lib frameNumber timestamp
      rw [hnext]
      exact .keeps (by simp)
  | notifyError frameNumber errorStream errorCode =>
      exact s.notifyError_records lib frameNumber errorStream errorCode
  | configureStreams config answer =>
      rcases s.next_configureStreams_cases lib config answer with
        hnext | ⟨-, session, hkept, hnext⟩
      · rw [hnext]
        exact .keeps (by simp)
      · rw [hnext, hkept.metadataRecords]
        exact .keeps (by simp)
  | updateBufferCaches cachesToRemove =>
      simp only [next]
      rw [Session.updateBufferCaches_frame]
      exact .keeps (by simp)
  | disconnect => exact .keeps (by simp)
  | close =>
      simp only [next]
      rw [Session.close_frame]
      exact .keeps (by simp)

end

end DrainState

/-! ## What becomes of the records of one frame -/

/-- The client submits a request of the frame. -/
def DrainOp.Submits (frameNumber : Nat) : DrainOp → Prop
  | .submit _ request => request.frameNumber = frameNumber
  | _ => False

/-- The HAL refuses the request of the frame. -/
def DrainOp.Refuses (frameNumber : Nat) : DrainOp → Prop
  | .halReturned pending ret => pending.request.frameNumber = frameNumber ∧ ret ≠ statusOk
  | _ => False

namespace DrainState

/-- The session takes the final metadata of the frame, or an error makes it forget the frame. -/
def Concludes (frameNumber : Nat) (s : DrainState) : DrainOp → Prop
  | .result hal => hal.frameNumber = frameNumber ∧ s.Takes hal ∧
      hal.Final s.session.mNumPartialResults
  | .notifyError number _ errorCode => number = frameNumber ∧ errorCode ≠ .errorBuffer
  | _ => False

/-- The metadata that the session takes for the frame. -/
def metadataTaken (frameNumber : Nat) (s : DrainState) : DrainOp → List Blob
  | .result hal => if hal.frameNumber = frameNumber ∧ s.Takes hal then hal.result.toList else []
  | _ => []

end DrainState

instance (frameNumber : Nat) (op : DrainOp) : Decidable (op.Submits frameNumber) :=
  match op with
  | .submit .. => inferInstanceAs (Decidable (_ = _))
  | .halReturned .. | .registerBatch .. | .result .. | .notifyShutter .. | .notifyError ..
  | .configureStreams .. | .updateBufferCaches _ | .disconnect | .close => isFalse not_false

instance (frameNumber : Nat) (op : DrainOp) : Decidable (op.Refuses frameNumber) :=
  match op with
  | .halReturned .. => inferInstanceAs (Decidable (_ ∧ _))
  | .submit .. | .registerBatch .. | .result .. | .notifyShutter .. | .notifyError ..
  | .configureStreams .. | .updateBufferCaches _ | .disconnect | .close => isFalse not_false

instance (frameNumber : Nat) (s : DrainState) (op : DrainOp) :
    Decidable (s.Concludes frameNumber op) :=
  match op with
  | .result .. => inferInstanceAs (Decidable (_ ∧ _ ∧ _))
  | .notifyError .. => inferInstanceAs (Decidable (_ ∧ _))
  | .submit .. | .halReturned .. | .registerBatch .. | .notifyShutter ..
  | .configureStreams .. | .updateBufferCaches _ | .disconnect | .close => isFalse not_false

section

variable {lib : MetadataLib} {s : DrainState} {op : DrainOp} {records : MetadataRecords}

/-- An override is kept, dropped, or comes from a new request of its frame. -/
theorem RecordsStep.override_cases (h : RecordsStep lib s.session op records)
    (frameNumber : Nat) :
    records.overrides[frameNumber]? = s.session.mInflightAETriggerOverrides[frameNumber]? ∨
      records.overrides[frameNumber]? = none ∧
        (s.Concludes frameNumber op ∨ op.Refuses frameNumber) ∨
      ∃ settings found, op.Submits frameNumber ∧
        s.session.handleAePrecaptureCancelRequestLocked lib settings = some found ∧
        records.overrides[frameNumber]? = some found.2 := by
  cases h with
  | keeps => exact .inl rfl
  | submits world request settings =>
      cases hfound : s.session.handleAePrecaptureCancelRequestLocked lib settings with
      | none => exact .inl rfl
      | some found =>
          by_cases heq : request.frameNumber = frameNumber
          · refine .inr (.inr ⟨settings, found, heq, hfound, ?_⟩)
            exact (Std.ExtTreeMap.getElem?_insert_of_eq _ _ _ _).trans (if_pos heq)
          · exact .inl ((Std.ExtTreeMap.getElem?_insert_of_eq _ _ _ _).trans (if_neg heq))
  | @refuses pending ret hret =>
      simp only [Session.metadataRecords, Session.dropRequest]
      split
      next =>
        have hlookup := Std.ExtTreeMap.getElem?_erase_of_eq s.session.mInflightAETriggerOverrides
          pending.request.frameNumber frameNumber
        by_cases heq : pending.request.frameNumber = frameNumber
        · exact .inr (.inl ⟨hlookup.trans (if_pos heq), .inr ⟨heq, hret⟩⟩)
        · exact .inl (hlookup.trans (if_neg heq))
      next => exact .inl rfl
  | @takes hal htakes =>
      have hlookup := Session.resultMetadata_overrides_getElem? lib s.session
        (sShrinkCaptureResult lib s.session.handlePhysCam (s.session.resolve hal)) frameNumber
      rw [if_congr (and_congr_left' (Session.final_shrink _ _)) rfl rfl] at hlookup
      by_cases hlast : hal.Final s.session.mNumPartialResults ∧ frameNumber = hal.frameNumber
      · refine .inr (.inl ⟨hlookup.trans (if_pos hlast), .inl ?_⟩)
        exact ⟨hlast.2.symm, htakes, hlast.1⟩
      · exact .inl (hlookup.trans (if_neg hlast))
  | @forgets number errorStream errorCode hcode =>
      have hlookup := Std.ExtTreeMap.getElem?_erase_of_eq s.session.mInflightAETriggerOverrides
        number frameNumber
      by_cases heq : number = frameNumber
      · exact .inr (.inl ⟨hlookup.trans (if_pos heq), .inl ⟨heq, hcode⟩⟩)
      · exact .inl (hlookup.trans (if_neg heq))

/-- The record of a boost takes in the metadata of its frame, until the last of it. -/
theorem RecordsStep.boost_cases (h : RecordsStep lib s.session op records) (hlib : lib.Lawful)
    (hderive : s.session.mDerivePostRawSensKey = true) {frameNumber : Nat}
    (hopen : ¬s.Concludes frameNumber op) :
    s.metadataTaken frameNumber op = [] ∧
        records.boosts[frameNumber]? = s.session.mInflightRawBoostPresent[frameNumber]? ∨
      ∃ packet, s.metadataTaken frameNumber op = [packet] ∧ records.boosts[frameNumber]? =
        some ((lib.find packet .controlPostRawSensitivityBoost).isSome ||
          s.session.mInflightRawBoostPresent.getD frameNumber false) := by
  cases h with
  | @keeps op hop =>
      refine .inl ⟨?_, rfl⟩
      cases op with
      | result hal => exact if_neg fun h => hop hal rfl h.2
      | _ => rfl
  | submits world request settings =>
      refine .inl ⟨rfl, ?_⟩
      cases s.session.handleAePrecaptureCancelRequestLocked lib settings <;> rfl
  | refuses => exact .inl ⟨rfl, rfl⟩
  | @takes hal htakes =>
      cases hpacket : hal.result with
      | none =>
          refine .inl ⟨by simp [DrainState.metadataTaken, hpacket], ?_⟩
          have hnone : (sShrinkCaptureResult lib s.session.handlePhysCam
              (s.session.resolve hal)).result = none :=
            (congrArg lib.shrink hpacket).trans rfl
          rw [Session.resultMetadata, hnone]
          rfl
      | some packet =>
          obtain ⟨shrunk, hshrunk, hfind⟩ := hlib.exists_shrink packet
          have hlookup := @Session.resultMetadata_boosts_getElem? lib s.session
            (sShrinkCaptureResult lib s.session.handlePhysCam (s.session.resolve hal)) shrunk
            ((congrArg lib.shrink hpacket).trans hshrunk) frameNumber
          rw [hfind] at hlookup
          by_cases heq : hal.frameNumber = frameNumber
          · obtain rfl := heq
            have htaken : s.metadataTaken hal.frameNumber (.result hal) = hal.result.toList :=
              if_pos ⟨rfl, htakes⟩
            have hpartial : hal.partialResult ≠ s.session.mNumPartialResults :=
              fun hlast => hopen ⟨rfl, htakes, by rw [hpacket]; rfl, hlast⟩
            rw [htaken, hpacket]
            exact .inr ⟨packet, rfl,
              hlookup.trans ((if_pos ⟨hderive, rfl⟩).trans (if_neg hpartial))⟩
          · refine .inl ⟨if_neg fun h => heq h.1, ?_⟩
            exact hlookup.trans (if_neg fun h => heq h.2)
  | @forgets number errorStream errorCode hcode =>
      have hlookup := Std.ExtTreeMap.getElem?_erase_of_eq s.session.mInflightRawBoostPresent
        number frameNumber
      exact .inl ⟨rfl, hlookup.trans (if_neg fun heq => hopen ⟨heq, hcode⟩)⟩

theorem RecordsStep.derives (h : RecordsStep lib s.session op records) :
    records.derives = s.session.mDerivePostRawSensKey := by
  cases h with
  | keeps | refuses | forgets => rfl
  | submits world request settings =>
      cases s.session.handleAePrecaptureCancelRequestLocked lib settings <;> rfl
  | takes => exact (congrArg Session.mDerivePostRawSensKey
      (s.session.resultMetadata_withoutResults lib _) :)

end

/-! ## Along a run -/

theorem Session.handleAePrecaptureCancelRequestLocked_restores {lib : MetadataLib} {s : Session}
    {settings : Option Blob} {found : Blob × AETriggerCancelOverride}
    (h : s.handleAePrecaptureCancelRequestLocked lib settings = some found) :
    found.2.Restores := by
  cases settings with
  | none => exact nomatch h
  | some packet =>
      simp only [handleAePrecaptureCancelRequestLocked] at h
      split at h
      next => exact nomatch h
      next =>
        split at h
        next =>
          split at h
          next => exact Option.some.inj h ▸ ⟨rfl, rfl⟩
          next => exact Option.some.inj h ▸ ⟨rfl, rfl⟩
        next => exact nomatch h

namespace DrainState

/-- All overrides in flight are those of precapture cancels. -/
def OverridesRestore (s : DrainState) : Prop :=
  ∀ (frameNumber : Nat) (override : AETriggerCancelOverride),
    s.session.mInflightAETriggerOverrides[frameNumber]? = some override → override.Restores

/-- Only precapture cancels put an override on record. -/
theorem OverridesRestore.next {s : DrainState} (h : s.OverridesRestore) (lib : MetadataLib)
    (op : DrainOp) : (s.next lib op).OverridesRestore := by
  intro frameNumber override hafter
  rcases (s.next_records lib op).override_cases frameNumber with
    hsame | ⟨hnone, -⟩ | ⟨settings, found, -, hfound, hsome⟩
  · exact h frameNumber override (hsame.symm.trans hafter)
  · exact nomatch hnone.symm.trans hafter
  · have heq := Option.some.inj (hsome.symm.trans hafter)
    exact heq ▸ Session.handleAePrecaptureCancelRequestLocked_restores hfound

theorem OverridesRestore.run {start : DrainState} (h : start.OverridesRestore)
    (lib : MetadataLib) (ops : List DrainOp) :
    (run (DrainState.next lib) start ops).OverridesRestore :=
  (Admits.always start ops).invariant OverridesRestore (fun _ op h _ => h.next lib op) h

theorem overridesRestore_initial {session : Session} (hidle : session.NothingInflight) :
    ({ session } : DrainState).OverridesRestore := by
  intro frameNumber override h
  have hnot := (Session.nothingInflight_iff.mp hidle).2.1 frameNumber
  exact absurd (Std.ExtTreeMap.mem_of_getElem? h) hnot

/-- What is handed on for a packet of metadata. -/
theorem handedOn_content {lib : MetadataLib} (hlib : lib.Lawful) {s : DrainState}
    {hal : Camera3CaptureResult} {packet : Blob} (hpacket : hal.result = some packet)
    (hrestores : s.OverridesRestore) {result : CaptureResult}
    (h : s.handedOn lib hal = some result) :
    lib.find result.result =
      clientContent s.session.mInflightAETriggerOverrides[hal.frameNumber]?
        (s.session.LacksBoost lib hal packet) (lib.find packet) := by
  obtain ⟨shrunk, hshrunk, hfind⟩ := hlib.exists_shrink packet
  have hmetadata := (Session.acceptCaptureResult_metadata h).2
  have hcontent := @Session.find_resultMetadata lib hlib s.session
    (sShrinkCaptureResult lib s.session.handlePhysCam (s.session.resolve hal)) shrunk
    ((congrArg lib.shrink hpacket).trans hshrunk) (hrestores hal.frameNumber)
  have hlacks : s.session.LacksBoost lib
      (sShrinkCaptureResult lib s.session.handlePhysCam (s.session.resolve hal)) shrunk ↔
      s.session.LacksBoost lib hal packet := by
    rw [Session.LacksBoost, hfind]
    rfl
  rw [hmetadata, hcontent, hfind]
  exact clientContent_congr hlacks _ _

end DrainState

end LgeHardware.Camera
