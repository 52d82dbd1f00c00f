import LgeHardware.Camera.BatcherLaws
import LgeHardware.Camera.RequestLaws
import LgeHardware.Camera.ResultAtomicity

/-! # What each operation does to the in-flight records

The records of the buffers, trigger overrides and sensitivity boosts in flight are
filled by requests and results and cleared by results, errors and failed requests.
All other methods of a session leave them alone.
-/

namespace LgeHardware.Camera

open LgeHardware.Foundation

namespace Session

/-- Every stream of the session is kept under its own id. -/
def StreamsNamed (s : Session) : Prop := ∀ id ∈ s.mStreamMap, s.streamId id = id

/-- Nothing is in flight where all three records are empty. -/
theorem nothingInflight_iff {s : Session} :
    s.NothingInflight ↔ (∀ key, key ∉ s.mInflightBuffers) ∧
      (∀ frameNumber, frameNumber ∉ s.mInflightAETriggerOverrides) ∧
      ∀ frameNumber, frameNumber ∉ s.mInflightRawBoostPresent := by
  simp only [NothingInflight, Std.ExtTreeMap.isEmpty_iff,
    Std.ExtTreeMap.eq_empty_iff_forall_not_mem]

/-- The in-flight records are the same, and named streams stay named. -/
structure KeepsRecords (s s' : Session) : Prop extends s.SameInflight s' where
  derives : s'.mDerivePostRawSensKey = s.mDerivePostRawSensKey
  named : s.StreamsNamed → s'.StreamsNamed

theorem KeepsRecords.trans {s s' s'' : Session} (h : s.KeepsRecords s')
    (h' : s'.KeepsRecords s'') : s.KeepsRecords s'' where
  buffers := h'.buffers.trans h.buffers
  boosts := h'.boosts.trans h.boosts
  overrides := h'.overrides.trans h.overrides
  derives := h'.derives.trans h.derives
  named hnamed := h'.named (h.named hnamed)

theorem streamId_congr {s s' : Session} {id : Int}
    (h : s'.mStreamMap[id]? = s.mStreamMap[id]?) : s'.streamId id = s.streamId id := by
  rw [streamId, streamId, Std.ExtTreeMap.getD_eq_getD_getElem?, h,
    ← Std.ExtTreeMap.getD_eq_getD_getElem?]

theorem StreamsNamed.of_streams_eq {s s' : Session} (hnamed : s.StreamsNamed)
    (h : s'.mStreamMap = s.mStreamMap) : s'.StreamsNamed := by
  intro id hid
  have hsame : s'.mStreamMap[id]? = s.mStreamMap[id]? := by rw [h]
  rw [h] at hid
  exact (streamId_congr hsame).trans (hnamed id hid)

theorem StreamsNamed.insert {s s' : Session} (hnamed : s.StreamsNamed) {id : Int}
    {stream : Camera3Stream} (h : s'.mStreamMap = s.mStreamMap.insert id stream)
    (hid : stream.mId = id) : s'.StreamsNamed := by
  intro a ha
  rw [h, Std.ExtTreeMap.mem_insert_iff] at ha
  by_cases heq : a = id
  · rw [streamId, h, heq, Std.ExtTreeMap.getD_insert_self, hid]
  · have hsame : s'.mStreamMap[a]? = s.mStreamMap[a]? := by
      rw [h, Std.ExtTreeMap.getElem?_insert_of_eq, if_neg (Ne.symm heq)]
    exact (streamId_congr hsame).trans (hnamed a (ha.resolve_right heq))

theorem StreamsNamed.eraseAll {s s' : Session} (hnamed : s.StreamsNamed) {ids : List Int}
    (h : s'.mStreamMap = s.mStreamMap.eraseAll ids) : s'.StreamsNamed := by
  intro a ha
  rw [h, Std.ExtTreeMap.mem_eraseAll] at ha
  have hsame : s'.mStreamMap[a]? = s.mStreamMap[a]? := by
    rw [h, Std.ExtTreeMap.getElem?_eraseAll, if_neg ha.2]
  exact (streamId_congr hsame).trans (hnamed a ha.1)

theorem KeepsRecords.of_streams_eq {s s' : Session} (hsame : s.SameInflight s')
    (hderives : s'.mDerivePostRawSensKey = s.mDerivePostRawSensKey)
    (hstreams : s'.mStreamMap = s.mStreamMap) : s.KeepsRecords s' :=
  ⟨hsame, hderives, fun hnamed => hnamed.of_streams_eq hstreams⟩

theorem KeepsRecords.refl (s : Session) : s.KeepsRecords s := .of_streams_eq ⟨rfl, rfl, rfl⟩ rfl rfl

/-! ## Methods that leave the records alone -/

theorem withBatcher_keeps (s : Session) (batcher : ResultBatcher) :
    s.KeepsRecords { s with mResultBatcher := batcher } := .of_streams_eq ⟨rfl, rfl, rfl⟩ rfl rfl

theorem updateBufferCaches_frame (s : Session) (caches : List BufferCache) :
    (s.updateBufferCaches caches).2 =
      { s with mCirculatingBuffers := (s.updateBufferCaches caches).2.mCirculatingBuffers } := by
  induction caches generalizing s with
  | nil => rfl
  | cons cache rest ih =>
      have hone : (s.removeCached cache).2 =
          { s with mCirculatingBuffers := (s.removeCached cache).2.mCirculatingBuffers } := by
        rcases s.removeCached_cases cache with hnone | ⟨cbs, buffer, -, -, hsome⟩
        · rw [hnone]
        · rw [hsome]
      rw [updateBufferCaches_cons, ih, hone]

theorem close_frame (s : Session) :
    s.close.2 = { s with
      mCirculatingBuffers := s.close.2.mCirculatingBuffers
      mClosed := s.close.2.mClosed } := by
  rw [close]
  split <;> rfl

theorem cleanupStreams_frame {ids : List Int} {s s' : Session} {events : List SessionEvent}
    (h : s.cleanupStreams ids = some (events, s')) :
    s' = { s with mCirculatingBuffers := s'.mCirculatingBuffers } := by
  induction ids generalizing s events with
  | nil =>
      cases h
      rfl
  | cons id rest ih =>
      obtain ⟨⟨first, s₁⟩, hfirst, hrest⟩ := Option.bind_eq_some_iff.mp h
      obtain ⟨⟨more, s₂⟩, hmore, heq⟩ := Option.map_eq_some_iff.mp hrest
      obtain ⟨cbs, -, hone⟩ := Option.map_eq_some_iff.mp hfirst
      cases heq
      cases hone
      rw [ih hmore]

theorem cleanupStreams_keeps {ids : List Int} {s s' : Session} {events : List SessionEvent}
    (h : s.cleanupStreams ids = some (events, s')) : s.KeepsRecords s' := by
  rw [cleanupStreams_frame h]
  exact .of_streams_eq ⟨rfl, rfl, rfl⟩ rfl rfl

theorem preProcessStream_keeps (s : Session) (stream : Stream) :
    s.KeepsRecords (s.preProcessStream stream).2 := by
  rw [preProcessStream]
  split
  next => exact ⟨⟨rfl, rfl, rfl⟩, rfl, fun hnamed => hnamed.insert rfl rfl⟩
  next old hold =>
    split
    next => exact .refl s
    next =>
      dsimp only
      split
      next => exact .of_streams_eq ⟨rfl, rfl, rfl⟩ rfl rfl
      next =>
        refine ⟨⟨rfl, rfl, rfl⟩, rfl, fun hnamed => hnamed.insert rfl ?_⟩
        have hid := hnamed stream.id (Std.ExtTreeMap.mem_of_getElem? hold)
        rwa [streamId, Std.ExtTreeMap.getD_eq_getD_getElem?, hold] at hid

theorem preProcessStreams_keeps (s : Session) (streams : List Stream) :
    s.KeepsRecords (s.preProcessStreams streams).2 := by
  induction streams generalizing s with
  | nil => exact .refl s
  | cons stream rest ih =>
      have hone := s.preProcessStream_keeps stream
      rw [preProcessStreams]
      rcases hresult : s.preProcessStream stream with ⟨_ | _, s'⟩
      · rw [hresult] at hone
        exact hone
      · rw [hresult] at hone
        exact hone.trans (ih s')

theorem preProcessConfigurationLocked_keeps {s s' : Session} {config : StreamConfiguration}
    {ok : Bool} {events : List SessionEvent}
    (h : s.preProcessConfigurationLocked config = some (ok, events, s')) : s.KeepsRecords s' := by
  have hstreams := s.preProcessStreams_keeps config.streams
  rcases preProcessConfigurationLocked_eq_some h with ⟨-, ⟨rfl, rfl, -⟩ | ⟨-, -, hclean⟩⟩
  · exact hstreams
  · exact hstreams.trans (cleanupStreams_keeps hclean)

theorem postProcessConfigurationLocked_keeps {s s' : Session} {config : StreamConfiguration}
    {events : List SessionEvent}
    (h : s.postProcessConfigurationLocked config = some (events, s')) : s.KeepsRecords s' := by
  obtain ⟨⟨freed, s₁⟩, hclean, heq⟩ := Option.map_eq_some_iff.mp h
  cases heq
  have hcleaned : s.KeepsRecords s₁ := by
    split at hclean
    next =>
      cases hclean
      exact .refl s
    next => exact cleanupStreams_keeps hclean
  exact hcleaned.trans ⟨⟨rfl, rfl, rfl⟩, rfl, fun hnamed => hnamed.eraseAll rfl⟩

theorem postProcessConfigurationFailureLocked_keeps (s : Session)
    (config : StreamConfiguration) :
    s.KeepsRecords (s.postProcessConfigurationFailureLocked config) := by
  rw [postProcessConfigurationFailureLocked]
  split
  next => exact .of_streams_eq ⟨rfl, rfl, rfl⟩ rfl rfl
  next => exact .refl s

/-- The HAL does not rename a stream. -/
theorem fillStreams_keeps (s : Session) (filled : List (Int × FilledByHal)) :
    s.KeepsRecords (s.fillStreams filled) := by
  refine ⟨⟨rfl, rfl, rfl⟩, rfl, fun hnamed id hid => ?_⟩
  have hfold : ∀ (updates : List (Int × FilledByHal)) (stream : Camera3Stream),
      (updates.foldl (fun stream entry => stream.fill entry.2) stream).mId = stream.mId := by
    intro updates
    induction updates with
    | nil => exact fun _ => rfl
    | cons entry rest ih => exact fun stream => ih (stream.fill entry.2)
  have hold : id ∈ s.mStreamMap := (Std.ExtTreeMap.mem_updateAll _ _ _ _).mp hid
  obtain ⟨stream, hstream⟩ := Std.ExtTreeMap.exists_getElem?_of_mem hold
  have hname := hnamed id hold
  rw [streamId, Std.ExtTreeMap.getD_eq_getD_getElem?, hstream] at hname
  rw [streamId, Std.ExtTreeMap.getD_eq_getD_getElem?, fillStreams,
    Std.ExtTreeMap.getElem?_updateAll, hstream]
  exact (hfold _ stream).trans hname

theorem configureIdle_keeps {s s' : Session} {config : StreamConfiguration}
    {answer : ConfigureAnswer} {status : Status} {events : List SessionEvent}
    (h : s.configureIdle config answer = some (status, events, s')) : s.KeepsRecords s' := by
  rw [configureIdle] at h
  dsimp only at h
  split at h
  next =>
    cases h
    exact .refl s
  next =>
    obtain ⟨⟨ok, before, s₁⟩, hpre, hrest⟩ := Option.bind_eq_some_iff.mp h
    have hcounted : s.KeepsRecords
        { s with mStreamConfigCounter := config.streamConfigCounter } :=
      .of_streams_eq ⟨rfl, rfl, rfl⟩ rfl rfl
    have hprepared := hcounted.trans (preProcessConfigurationLocked_keeps hpre)
    dsimp only at hrest
    split at hrest
    next =>
      cases hrest
      exact hprepared
    next =>
      have hfilled := hprepared.trans (s₁.fillStreams_keeps answer.filled)
      split at hrest
      next =>
        obtain ⟨⟨freed, s₂⟩, hpost, heq⟩ := Option.map_eq_some_iff.mp hrest
        cases heq
        refine (hfilled.trans (postProcessConfigurationLocked_keeps hpost)).trans ?_
        exact .of_streams_eq ⟨rfl, rfl, rfl⟩ rfl rfl
      next =>
        cases hrest
        exact hfilled.trans (postProcessConfigurationFailureLocked_keeps _ config)

/-- A configuration is refused as long as something is in flight, and keeps the records. -/
theorem configureStreams_cases {s s' : Session} {config : StreamConfiguration}
    {answer : ConfigureAnswer} {status : Status} {events : List SessionEvent}
    (h : s.configureStreams config answer = some (status, events, s')) :
    s' = s ∨ s.NothingInflight ∧ s.KeepsRecords s' := by
  rw [configureStreams] at h
  split at h
  next =>
    cases h
    exact .inl rfl
  next hidle => exact .inr ⟨Classical.not_not.mp hidle, configureIdle_keeps h⟩

/-! ## Requests -/

theorem SameRecords.keeps {s s' : Session} (h : s.SameRecords s') :
    s.KeepsRecords s' ∧ s'.mStreamMap = s.mStreamMap := by
  rw [SameRecords] at h
  rw [h]
  exact ⟨.of_streams_eq ⟨rfl, rfl, rfl⟩ rfl rfl, rfl⟩

end Session

/-- A request without physical camera settings is recorded or leaves the records alone. -/
theorem prepareRequest_records (lib : MetadataLib) (world : RequestWorld)
    {request : CaptureRequest} (hphysical : request.physicalCameraSettings = []) (c : Call) :
    Ends (prepareRequest lib world request) c
      (fun pending c' => Registered request c.session c'.session pending)
      (fun _ c' => c.session.SameRecords c'.session) := by
  have haccepted : PhysicalAccepted lib c.session request := by
    rw [PhysicalAccepted, hphysical]
    rfl
  refine (prepareRequest_spec lib world request c).mono ?_ ?_
  · exact fun pending c' h => h.2.2.registered
  · rintro e c' (⟨-, -, hsame, -⟩ | ⟨-, hrefused, -⟩)
    · exact hsame
    · exact absurd haccepted hrefused

theorem completeRequest_session (ret : Int) (pending : PendingRequest) (s : Session) :
    (final (completeRequest ret pending) { session := s }).session =
      if ret = statusOk then { s with mFirstRequest := false }
      else s.dropRequest pending.request pending.aeCancelTriggerNeeded := by
  by_cases hret : ret = statusOk
  · rw [completeRequest, if_pos hret, if_pos hret]
    rfl
  · rw [completeRequest, if_neg hret, if_neg hret]
    rfl

/-! ## Results and errors -/

/-- The result carries the last metadata of its frame. -/
def Camera3CaptureResult.Final (hal : Camera3CaptureResult) (numPartialResults : Nat) : Prop :=
  hal.result.isSome = true ∧ hal.partialResult = numPartialResults

instance (hal : Camera3CaptureResult) (numPartialResults : Nat) :
    Decidable (hal.Final numPartialResults) :=
  inferInstanceAs (Decidable (_ ∧ _))

theorem MetadataLib.isSome_shrink (lib : MetadataLib) (packet : Option Blob) :
    (lib.shrink packet).isSome = packet.isSome := by
  rw [MetadataLib.shrink]
  split
  next => rw [Option.isSome_map]
  next => rfl

namespace Session

variable {lib : MetadataLib} {s : Session} {hal : Camera3CaptureResult}

theorem final_shrink (handlePhysCam : Bool) (numPartialResults : Nat) :
    (sShrinkCaptureResult lib handlePhysCam hal).Final numPartialResults ↔
      hal.Final numPartialResults := by
  rw [Camera3CaptureResult.Final, Camera3CaptureResult.Final, sShrinkCaptureResult,
    lib.isSome_shrink]

/-- The boost records after a packet of metadata. -/
theorem getElem?_boostPresent (lib : MetadataLib) (s : Session) (frameNumber other : Nat)
    (packet : Blob) :
    (if (lib.find packet .controlPostRawSensitivityBoost).isSome then
        s.mInflightRawBoostPresent.insert frameNumber true
      else s.mInflightRawBoostPresent.insertIfNew frameNumber false)[other]? =
      if frameNumber = other then
        some ((lib.find packet .controlPostRawSensitivityBoost).isSome ||
          s.mInflightRawBoostPresent.getD frameNumber false)
      else s.mInflightRawBoostPresent[other]? := by
  cases (lib.find packet .controlPostRawSensitivityBoost).isSome with
  | true => rw [if_pos rfl, Std.ExtTreeMap.getElem?_insert_of_eq, Bool.true_or]
  | false =>
      rw [if_neg Bool.false_ne_true, Bool.false_or, Std.ExtTreeMap.getElem?_insertIfNew_of_eq]
      by_cases heq : frameNumber = other
      · rw [if_pos heq, ← heq, Std.ExtTreeMap.getD_eq_getD_getElem?]
        cases hold : s.mInflightRawBoostPresent[frameNumber]? with
        | none => rw [if_pos ⟨rfl, Std.ExtTreeMap.notMem_of_getElem? hold⟩, Option.getD_none]
        | some present =>
            rw [if_neg fun h => h.2 (Std.ExtTreeMap.mem_of_getElem? hold), Option.getD_some]
      · rw [if_neg fun h => heq h.1, if_neg heq]

/-- A packet of metadata changes the boost record of its own frame. -/
theorem resultMetadata_boosts_getElem? {packet : Blob} (hpacket : hal.result = some packet)
    (frameNumber : Nat) :
    (s.resultMetadata lib hal).2.mInflightRawBoostPresent[frameNumber]? =
      if s.mDerivePostRawSensKey = true ∧ hal.frameNumber = frameNumber then
        if hal.partialResult = s.mNumPartialResults then none
        else some ((lib.find packet .controlPostRawSensitivityBoost).isSome ||
          s.mInflightRawBoostPresent.getD hal.frameNumber false)
      else s.mInflightRawBoostPresent[frameNumber]? := by
  simp only [resultMetadata, hpacket]
  rw [applyTriggerOverride_frame, derivePostRawSensKey]
  by_cases hderive : s.mDerivePostRawSensKey = true
  · simp only [if_pos hderive]
    by_cases hfinal : hal.partialResult = s.mNumPartialResults
    · rw [if_pos hfinal, if_pos hfinal, Std.ExtTreeMap.getElem?_erase_of_eq, getElem?_boostPresent]
      by_cases heq : hal.frameNumber = frameNumber
      · rw [if_pos heq, if_pos ⟨hderive, heq⟩]
      · rw [if_neg heq, if_neg heq, if_neg fun h => heq h.2]
    · rw [if_neg hfinal, if_neg hfinal, getElem?_boostPresent]
      exact if_congr (and_iff_right hderive).symm rfl rfl
  · rw [if_neg hderive, if_neg fun h => hderive h.1]

/-- The override record of a frame goes with its final metadata. -/
theorem resultMetadata_overrides_getElem? (lib : MetadataLib) (s : Session)
    (hal : Camera3CaptureResult) (frameNumber : Nat) :
    (s.resultMetadata lib hal).2.mInflightAETriggerOverrides[frameNumber]? =
      if hal.Final s.mNumPartialResults ∧ frameNumber = hal.frameNumber then none
      else s.mInflightAETriggerOverrides[frameNumber]? := by
  rw [resultMetadata]
  split
  next hnone =>
    have hnot : ¬hal.Final s.mNumPartialResults := fun h => by
      rw [Camera3CaptureResult.Final, hnone] at h
      exact Bool.false_ne_true h.1
    rw [if_neg fun h => hnot h.1]
  next packet hsome =>
    have hfinal : hal.Final s.mNumPartialResults ↔ hal.partialResult = s.mNumPartialResults := by
      rw [Camera3CaptureResult.Final, hsome]
      exact and_iff_right rfl
    dsimp only
    rw [applyTriggerOverride, derivePostRawSensKey_frame]
    dsimp only
    split
    next hnone =>
      split
      next h => rw [h.2, hnone]
      next => rfl
    next =>
      by_cases hlast : hal.partialResult = s.mNumPartialResults
      · rw [if_pos hlast, Std.ExtTreeMap.getElem?_erase_of_eq]
        exact if_congr (by rw [hfinal, and_iff_right hlast, eq_comm]) rfl rfl
      · rw [if_neg hlast, if_neg fun h => hlast (hfinal.mp h.1)]

/-- Metadata records a boost of its own frame only, and final metadata none. -/
theorem mem_resultMetadata_boosts {frameNumber : Nat}
    (hmem : frameNumber ∈ (s.resultMetadata lib hal).2.mInflightRawBoostPresent) :
    (frameNumber ∈ s.mInflightRawBoostPresent ∨ s.mDerivePostRawSensKey = true ∧
        hal.result.isSome = true ∧ frameNumber = hal.frameNumber) ∧
      (s.mDerivePostRawSensKey = true → hal.Final s.mNumPartialResults →
        frameNumber ≠ hal.frameNumber) := by
  cases hpacket : hal.result with
  | none =>
      rw [resultMetadata, hpacket] at hmem
      refine ⟨.inl hmem, fun _ hfinal => ?_⟩
      simp [Camera3CaptureResult.Final, hpacket] at hfinal
  | some packet =>
      obtain ⟨present, hpresent⟩ := Std.ExtTreeMap.exists_getElem?_of_mem hmem
      rw [resultMetadata_boosts_getElem? hpacket] at hpresent
      split at hpresent
      next hown =>
        split at hpresent
        next => cases hpresent
        next hpartial =>
          exact ⟨.inr ⟨hown.1, rfl, hown.2.symm⟩, fun _ hfinal => absurd hfinal.2 hpartial⟩
      next hother =>
        exact ⟨.inl (Std.ExtTreeMap.mem_of_getElem? hpresent),
          fun hderive _ heq => hother ⟨hderive, heq.symm⟩⟩

/-- Metadata adds no override, and final metadata removes that of its frame. -/
theorem mem_resultMetadata_overrides {frameNumber : Nat}
    (hmem : frameNumber ∈ (s.resultMetadata lib hal).2.mInflightAETriggerOverrides) :
    frameNumber ∈ s.mInflightAETriggerOverrides ∧
      (hal.Final s.mNumPartialResults → frameNumber ≠ hal.frameNumber) := by
  obtain ⟨override, hoverride⟩ := Std.ExtTreeMap.exists_getElem?_of_mem hmem
  rw [resultMetadata_overrides_getElem?] at hoverride
  split at hoverride
  next => exact nomatch hoverride
  next hkept =>
    exact ⟨Std.ExtTreeMap.mem_of_getElem? hoverride, fun hfinal heq => hkept ⟨hfinal, heq⟩⟩

/-- A result whose buffers are in flight is taken, whatever becomes of it afterwards. -/
theorem sProcessCaptureResult_takes (lib : MetadataLib) (h : s.ResultInflight hal) :
    s.TakesResult lib (sShrinkCaptureResult lib s.handlePhysCam hal)
      (s.sProcessCaptureResult lib hal).2 := by
  obtain ⟨result, s', hresult, -, htakes⟩ :=
    constructCaptureResult_of_inflight lib s (sShrinkCaptureResult lib s.handlePhysCam hal) h
  have haccept : (s.acceptCaptureResult lib hal).2 = s' := by
    simp only [acceptCaptureResult, hresult]
    split
    next =>
      split
      next => rfl
      next => rfl
    next => rfl
  rw [sProcessCaptureResult]
  split
  next s₁ hrefused =>
    rw [hrefused] at haccept
    exact haccept ▸ htakes
  next result' s₁ haccepted =>
    rw [haccepted] at haccept
    rw [← haccept] at htakes
    exact ⟨htakes.buffers, htakes.boosts, htakes.overrides, htakes.others⟩

theorem TakesResult.mStreamMap {s' : Session} (h : s.TakesResult lib hal s') :
    s'.mStreamMap = s.mStreamMap := by
  have hsame := congrArg Session.mStreamMap h.others
  exact hsame

theorem TakesResult.derives {s' : Session} (h : s.TakesResult lib hal s') :
    s'.mDerivePostRawSensKey = s.mDerivePostRawSensKey := by
  have hsame := congrArg Session.mDerivePostRawSensKey h.others
  exact hsame

variable (s)

theorem sNotify_shutter (frameNumber : Nat) (timestamp : Int) :
    ∃ effects batcher, s.sNotify (.shutter frameNumber timestamp) =
      some (effects, { s with mResultBatcher := batcher }) := by
  have hsome : ∃ found, s.mResultBatcher.notify (.shutter frameNumber timestamp) = some found := by
    rw [ResultBatcher.notify]
    split
    next => exact ⟨_, rfl⟩
    next => exact ⟨_, rfl⟩
  obtain ⟨⟨effects, batcher⟩, hfound⟩ := hsome
  exact ⟨effects, batcher, by simp [sNotify, acceptNotify, hfound]⟩

/-- An error of a known stream, or of none, forgets its frame unless it is about a buffer. -/
theorem sNotify_error (frameNumber : Nat) {errorStreamId : Int} (errorCode : ErrorCode)
    (hknown : errorStreamId = -1 ∨ errorStreamId ∈ s.mStreamMap) :
    ∃ effects batcher, s.sNotify (.error frameNumber errorStreamId errorCode) =
      some (effects, { (if errorCode = .errorBuffer then s else s.forgetFrame frameNumber) with
        mResultBatcher := batcher }) := by
  have hnot : ¬(errorStreamId ≠ -1 ∧ errorStreamId ∉ s.mStreamMap) := by
    rintro ⟨hsome, hunknown⟩
    exact hknown.elim hsome hunknown
  obtain ⟨effects, batcher, hnotify, -⟩ :=
    s.mResultBatcher.notify_error_cases frameNumber errorStreamId errorCode
  refine ⟨effects, batcher, ?_⟩
  cases errorCode <;> simp [sNotify, acceptNotify, if_neg hnot, forgetFrame, hnotify]

end Session

end LgeHardware.Camera
