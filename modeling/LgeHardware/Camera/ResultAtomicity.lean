import LgeHardware.Camera.Configure
import LgeHardware.Camera.CaptureRequest
import LgeHardware.Camera.CaptureResult

/-! # HAL results taken whole

The buffers of a HAL result leave the in-flight records before the checks of its
physical camera metadata, which can still reject the result. A result is taken whole
or not at all exactly if it does not fail there, or would not have changed a record.
-/

namespace LgeHardware.Camera

open LgeHardware.Foundation

namespace Session

/-- The records of results and overrides are the same. -/
structure SameInflight (s s' : Session) : Prop where
  buffers : s'.mInflightBuffers = s.mInflightBuffers
  boosts : s'.mInflightRawBoostPresent = s.mInflightRawBoostPresent
  overrides : s'.mInflightAETriggerOverrides = s.mInflightAETriggerOverrides

/-- A HAL result is handled whole: it is refused without a trace, or exactly its keys
leave the in-flight buffers and one result with its buffers goes to the result batcher. -/
def TakenWhole (lib : MetadataLib) (s : Session) (hal : Camera3CaptureResult) : Prop :=
  match s.acceptCaptureResult lib hal with
  | (none, s') => s.SameInflight s'
  | (some result, s') => Carries result hal ∧ s.ResultInflight hal ∧
      (∀ key ∈ hal.inflightKeys, key ∉ s'.mInflightBuffers) ∧
      ∀ key ∉ hal.inflightKeys, s'.mInflightBuffers[key]? = s.mInflightBuffers[key]?

/-- The metadata of the result would not change the record of its sensitivity boost. -/
def BoostKept (lib : MetadataLib) (s : Session) (hal : Camera3CaptureResult) (packet : Blob) :
    Prop :=
  s.mDerivePostRawSensKey = true →
    if hal.partialResult = s.mNumPartialResults then
      hal.frameNumber ∉ s.mInflightRawBoostPresent
    else if (lib.find packet .controlPostRawSensitivityBoost).isSome then
      s.mInflightRawBoostPresent[hal.frameNumber]? = some true
    else hal.frameNumber ∈ s.mInflightRawBoostPresent

/-- The metadata of the result would not change the record of its trigger override. -/
def OverrideKept (s : Session) (hal : Camera3CaptureResult) : Prop :=
  hal.partialResult = s.mNumPartialResults → hal.frameNumber ∉ s.mInflightAETriggerOverrides

/-- The result has no buffers, and its metadata changes no record. -/
structure ChangesNothing (lib : MetadataLib) (s : Session) (hal : Camera3CaptureResult) :
    Prop where
  buffers : hal.buffers = []
  boost : ∀ packet, lib.shrink hal.result = some packet → s.BoostKept lib hal packet
  override : ∀ packet, lib.shrink hal.result = some packet → s.OverrideKept hal

section

variable {lib : MetadataLib} {s : Session} {hal : Camera3CaptureResult} {packet : Blob}

theorem derivePostRawSensKey_boosts :
    (s.derivePostRawSensKey lib hal packet).2.mInflightRawBoostPresent =
      s.mInflightRawBoostPresent ↔ s.BoostKept lib hal packet := by
  rw [derivePostRawSensKey, BoostKept]
  cases s.mDerivePostRawSensKey with
  | false => simp
  | true =>
      by_cases hfinal : hal.partialResult = s.mNumPartialResults
      · simp only [if_pos hfinal, forall_const, if_true]
        split
        next => rw [Std.ExtTreeMap.erase_insert_self, Std.ExtTreeMap.erase_eq_self_iff]
        next => rw [Std.ExtTreeMap.erase_insertIfNew_self, Std.ExtTreeMap.erase_eq_self_iff]
      · simp only [if_neg hfinal, forall_const, if_true]
        split
        next => rw [Std.ExtTreeMap.insert_eq_self_iff]
        next => rw [Std.ExtTreeMap.insertIfNew_eq_self_iff]

theorem applyTriggerOverride_overrides (overridden : Option Blob) :
    (s.applyTriggerOverride lib hal packet overridden).2.mInflightAETriggerOverrides =
      s.mInflightAETriggerOverrides ↔ s.OverrideKept hal := by
  rw [applyTriggerOverride, OverrideKept]
  split
  next hnone =>
    have hnot : hal.frameNumber ∉ s.mInflightAETriggerOverrides :=
      Std.ExtTreeMap.notMem_of_getElem? hnone
    exact ⟨fun _ _ => hnot, fun _ => rfl⟩
  next override hsome =>
    by_cases hfinal : hal.partialResult = s.mNumPartialResults
    · simp only [hfinal, forall_const]
      exact Std.ExtTreeMap.erase_eq_self_iff _ _
    · simp [hfinal]

theorem resultMetadata_boosts :
    (s.resultMetadata lib hal).2.mInflightRawBoostPresent = s.mInflightRawBoostPresent ↔
      ∀ packet, hal.result = some packet → s.BoostKept lib hal packet := by
  rw [resultMetadata]
  split
  next hnone => simp [hnone]
  next packet hsome =>
    simp only [hsome, Option.some.injEq, forall_eq']
    rw [applyTriggerOverride_frame]
    exact derivePostRawSensKey_boosts

theorem resultMetadata_overrides :
    (s.resultMetadata lib hal).2.mInflightAETriggerOverrides = s.mInflightAETriggerOverrides ↔
      ∀ packet, hal.result = some packet → s.OverrideKept hal := by
  rw [resultMetadata]
  split
  next hnone => simp [hnone]
  next packet hsome =>
    simp only [hsome, Option.some.injEq, forall_eq']
    have hframe := derivePostRawSensKey_frame lib s hal packet
    have hkept := @applyTriggerOverride_overrides lib (s.derivePostRawSensKey lib hal packet).2
      hal packet (s.derivePostRawSensKey lib hal packet).1
    rw [OverrideKept, hframe] at hkept
    rw [hframe]
    exact hkept

/-- A result that is lost after its buffers were taken out has left no trace exactly if it
changes no record. -/
theorem TakesResult.sameInflight_iff {s' : Session} (h : s.TakesResult lib hal s')
    (hinflight : s.ResultInflight hal) :
    s.SameInflight s' ↔ hal.buffers = [] ∧
      (∀ packet, hal.result = some packet → s.BoostKept lib hal packet) ∧
      ∀ packet, hal.result = some packet → s.OverrideKept hal := by
  have hbuffers : s'.mInflightBuffers = s.mInflightBuffers ↔ hal.buffers = [] := by
    rw [h.buffers, Std.ExtTreeMap.eraseAll_eq_self_iff _ hinflight]
    exact List.map_eq_nil_iff
  rw [← hbuffers, ← resultMetadata_boosts, ← resultMetadata_overrides, ← h.boosts, ← h.overrides]
  exact ⟨fun hsame => ⟨hsame.buffers, hsame.boosts, hsame.overrides⟩,
    fun ⟨hbuffers, hboosts, hoverrides⟩ => ⟨hbuffers, hboosts, hoverrides⟩⟩

theorem physicalMetadataValid_shrink (handlePhysCam : Bool) :
    s.PhysicalMetadataValid (sShrinkCaptureResult lib handlePhysCam hal) ↔
      s.PhysicalMetadataValid hal := by
  cases handlePhysCam with
  | false => rfl
  | true =>
      simp only [PhysicalMetadataValid, sShrinkCaptureResult, if_true, List.length_map,
        List.forall_mem_map]

/-- A HAL result is taken whole or not at all exactly if it does not get past the in-flight
check with bad physical camera metadata, or changes nothing. -/
theorem takenWhole_iff (lib : MetadataLib) (s : Session) (hal : Camera3CaptureResult) :
    s.TakenWhole lib hal ↔
      (s.handlePhysCam = true → ¬s.PhysicalMetadataValid hal → s.ResultInflight hal →
        s.ChangesNothing lib hal) := by
  have hinflight : s.ResultInflight (sShrinkCaptureResult lib s.handlePhysCam hal) ↔
      s.ResultInflight hal := Iff.rfl
  rw [TakenWhole]
  by_cases h : s.ResultInflight hal
  · obtain ⟨result, s', hresult, hcarries, htakes⟩ :=
      constructCaptureResult_of_inflight lib s _ (hinflight.mpr h)
    have hvalid : s'.PhysicalMetadataValid (sShrinkCaptureResult lib s.handlePhysCam hal) ↔
        s.PhysicalMetadataValid hal := by
      rw [PhysicalMetadataValid, htakes.mPhysicalCameraIds]
      exact physicalMetadataValid_shrink s.handlePhysCam
    have htaken : (∀ key ∈ hal.inflightKeys, key ∉ s'.mInflightBuffers) ∧
        ∀ key ∉ hal.inflightKeys, s'.mInflightBuffers[key]? = s.mInflightBuffers[key]? := by
      rw [htakes.buffers]
      refine ⟨fun key hkey hmem => ?_, fun key hkey => ?_⟩
      · exact ((Std.ExtTreeMap.mem_eraseAll _ _ _).mp hmem).2 hkey
      · exact (Std.ExtTreeMap.getElem?_eraseAll _ _ _).trans (if_neg hkey)
    -- the records are already changed when the physical metadata is looked at
    by_cases hphys : s.handlePhysCam = true
    · by_cases hok : s.PhysicalMetadataValid hal
      · simp only [acceptCaptureResult, hresult, htakes.handlePhysCam, if_pos hphys, hvalid,
          if_pos hok]
        refine ⟨fun _ _ hbad => absurd hok hbad, fun _ => ⟨⟨?_, ?_, ?_⟩, h, htaken⟩⟩
        · exact hcarries.frame
        · exact hcarries.outputs
        · exact hcarries.input
      · simp only [acceptCaptureResult, hresult, htakes.handlePhysCam, if_pos hphys, hvalid,
          if_neg hok]
        simp only [hphys, forall_const, hok, not_false_eq_true, h]
        rw [htakes.sameInflight_iff h]
        constructor
        · rintro ⟨hbuffers, hboost, hoverride⟩
          exact ⟨hbuffers, hboost, hoverride⟩
        · intro hnothing
          exact ⟨hnothing.buffers, hnothing.boost, hnothing.override⟩
    · simp only [acceptCaptureResult, hresult, htakes.handlePhysCam, if_neg hphys]
      refine ⟨fun _ hhandled => absurd hhandled hphys, fun _ => ⟨⟨?_, ?_, ?_⟩, h, htaken⟩⟩
      · exact hcarries.frame
      · exact hcarries.outputs
      · exact hcarries.input
  · rw [acceptCaptureResult_of_not_inflight lib s hal h]
    exact ⟨fun _ _ _ hin => absurd hin h, fun _ => ⟨rfl, rfl, rfl⟩⟩

end

/-- The session of a plain camera with the buffer of frame 5 on stream 1 in flight. -/
def withOneRequest : Session :=
  (final (processOneCaptureRequest .ofPairs (.obliging statusOk)
    { frameNumber := 5
      settings := [3, 7]
      outputBuffers := [{ streamId := 1, bufferId := 9, buffer := some 4 }] })
    { session := withOneStream }).session

/-- The buffer of frame 5, with metadata of a physical camera that the camera does not have. -/
def unknownPhysicalResult : Camera3CaptureResult :=
  { frameNumber := 5
    outputBuffers := [{ stream := 1, buffer := some 4 }]
    physcamMetadata := [("2", [4, 8])] }

theorem unknownPhysicalResult_notTakenWhole :
    (withOneRequest.acceptCaptureResult .ofPairs unknownPhysicalResult).1 = none ∧
      ¬withOneRequest.TakenWhole .ofPairs unknownPhysicalResult := by
  have hnone : (withOneRequest.acceptCaptureResult .ofPairs unknownPhysicalResult).1 = none := by
    decide
  have hbefore : ((1 : Int), 5) ∈ withOneRequest.mInflightBuffers := by decide
  have hafter : ((1 : Int), 5) ∉ (withOneRequest.acceptCaptureResult .ofPairs
      unknownPhysicalResult).2.mInflightBuffers := by decide
  refine ⟨hnone, fun htaken => ?_⟩
  rw [TakenWhole] at htaken
  rcases hresult : withOneRequest.acceptCaptureResult .ofPairs unknownPhysicalResult with
    ⟨_ | result, s'⟩
  · rw [hresult] at htaken hafter
    exact hafter (htaken.buffers.symm ▸ hbefore)
  · rw [hresult] at hnone
    cases hnone

end Session

end LgeHardware.Camera
