import LgeHardware.Camera.Configure
import LgeHardware.Camera.RequestLaws

/-! # Atomicity of capture requests

A request either reaches the HAL and stays in flight, or leaves no trace in the
in-flight records and no open fence behind. The exits on physical camera settings
lie between recording the request and the HAL call and do not undo the recording,
so the request is atomic exactly if it does not leave there.
-/

namespace LgeHardware.Camera

open LgeHardware.Foundation

/-- The in-flight keys of the request were added, and no others. -/
structure Session.AddsInflight (s s' : Session) (request : CaptureRequest) : Prop where
  added : ∀ key, key ∈ s'.mInflightBuffers ↔ key ∈ s.mInflightBuffers ∨ key ∈ request.inflightKeys
  kept : ∀ key ∉ request.inflightKeys, s'.mInflightBuffers[key]? = s.mInflightBuffers[key]?

/-- One request is atomic: success adds its keys and closes no fence; any error
leaves the in-flight records as they were and every imported fence closed once. -/
def RequestAtomic (lib : MetadataLib) (world : RequestWorld) (s : Session)
    (request : CaptureRequest) : Prop :=
  Ends (processOneCaptureRequest lib world request) { session := s }
    (fun _ c => s.AddsInflight c.session request ∧ closedFences c.events = [])
    (fun e c => e ≠ .undefined ∧ c.session.mInflightBuffers = s.mInflightBuffers ∧
      c.session.mInflightAETriggerOverrides = s.mInflightAETriggerOverrides ∧
      (closedFences c.events).Perm (importedFences c.events))

section

variable {lib : MetadataLib} {world : RequestWorld} {s : Session} {request : CaptureRequest}

theorem Call.Recorded.addsInflight {c : Call} {pending : PendingRequest}
    (h : Call.Recorded { session := s } c request pending) :
    s.AddsInflight c.session request := by
  refine ⟨h.registered.mem_buffers, fun key hkey => ?_⟩
  obtain ⟨entries, hentries, hkeys⟩ := h.registered.buffers
  rw [hentries, Std.ExtTreeMap.getElem?_insertAll_of_notMem]
  rwa [hkeys]

/-- Recording a request of a new frame shows. -/
theorem Call.Recorded.changed {c : Call} {pending : PendingRequest}
    (h : Call.Recorded { session := s } c request pending)
    (hframe : ∀ key ∈ s.mInflightBuffers, key.2 ≠ request.frameNumber)
    (houtputs : request.outputBuffers ≠ []) :
    c.session.mInflightBuffers ≠ s.mInflightBuffers := by
  intro heq
  obtain ⟨buffer, rest, hcons⟩ := List.exists_cons_of_ne_nil houtputs
  have hkey : (buffer.streamId, request.frameNumber) ∈ request.inflightKeys := by
    simp [CaptureRequest.inflightKeys, CaptureRequest.buffers, hcons]
  have hmem := (h.addsInflight.added _).mpr (.inr hkey)
  rw [heq] at hmem
  exact hframe _ hmem rfl

/-- A HAL call that fails takes back everything. -/
theorem Call.Recorded.dropRequest {c : Call} {pending : PendingRequest}
    (h : Call.Recorded { session := s } c request pending)
    (hframe : ∀ key ∈ s.mInflightBuffers, key.2 ≠ request.frameNumber)
    (hoverride : request.frameNumber ∉ s.mInflightAETriggerOverrides) :
    (c.session.dropRequest pending.request pending.aeCancelTriggerNeeded).mInflightBuffers =
        s.mInflightBuffers ∧
      (c.session.dropRequest pending.request
        pending.aeCancelTriggerNeeded).mInflightAETriggerOverrides =
          s.mInflightAETriggerOverrides := by
  obtain ⟨entries, hentries, hkeys⟩ := h.registered.buffers
  obtain ⟨override, hoverrides⟩ := h.registered.overrides
  simp only [Session.dropRequest, h.registered.sameRequest, hentries, hoverrides]
  constructor
  · apply Std.ExtTreeMap.eraseAll_insertAll
    · exact fun key hkey hmem => hframe key hmem (CaptureRequest.frame_of_mem_inflightKeys hkey)
    · exact fun entry hentry => (hkeys _).mp (List.mem_map_of_mem hentry)
  · split
    next => rw [Std.ExtTreeMap.erase_insert_self, Std.ExtTreeMap.erase_of_notMem _ hoverride]
    next => rfl

theorem Call.Recorded.completeRequest {c : Call} {pending : PendingRequest}
    (h : Call.Recorded { session := s } c request pending)
    (hframe : ∀ key ∈ s.mInflightBuffers, key.2 ≠ request.frameNumber)
    (hoverride : request.frameNumber ∉ s.mInflightAETriggerOverrides) (ret : Int) :
    Ends (completeRequest ret pending) c
      (fun _ c' => s.AddsInflight c'.session request ∧ closedFences c'.events = [])
      (fun e c' => e ≠ .undefined ∧ c'.session.mInflightBuffers = s.mInflightBuffers ∧
        c'.session.mInflightAETriggerOverrides = s.mInflightAETriggerOverrides ∧
        (closedFences c'.events).Perm (importedFences c'.events)) := by
  have hclosed : closedFences c.events = [] := h.fences.closed
  have himported : importedFences c.events = pending.allFences := h.fences.imported
  rw [Camera.completeRequest, ends_ite]
  refine ⟨fun _ => ⟨?_, hclosed⟩, fun _ => ?_⟩
  · exact ⟨h.addsInflight.added, h.addsInflight.kept⟩
  · simp only [cleanupInflightFences, ends_bind, ends_emit, ends_update, ends_refuse]
    have hdrop := h.dropRequest hframe hoverride
    exact ⟨by simp, hdrop.1, hdrop.2, by simp [hclosed, himported]⟩

/-- A request is atomic exactly if it is refused before it is recorded, or its physical
camera settings are accepted. -/
theorem requestAtomic_iff (lib : MetadataLib) (world : RequestWorld) (s : Session)
    (request : CaptureRequest) (hstreams : (request.buffers.map (·.streamId)).Nodup)
    (hframe : ∀ key ∈ s.mInflightBuffers, key.2 ≠ request.frameNumber)
    (hoverride : request.frameNumber ∉ s.mInflightAETriggerOverrides) :
    RequestAtomic lib world s request ↔
      (RequestAdmitted lib s world request → PhysicalAccepted lib s request) := by
  have hprepare := prepareRequest_spec lib world request { session := s }
  constructor
  · intro hatomic hadmitted
    by_contra hrefused
    simp only [RequestAtomic, processOneCaptureRequest, ends_bind] at hatomic
    -- a physical setting was refused, and the in-flight keys are still there
    refine ((hatomic.and hprepare).mono ?_ ?_).false
    · rintro _ _ ⟨-, -, haccepted, -⟩
      exact hrefused haccepted
    · rintro _ c ⟨⟨-, hsame, -⟩, ⟨hnot, -⟩ | ⟨-, -, pending, hrecorded⟩⟩
      · exact hnot hadmitted
      · exact hrecorded.changed hframe hadmitted.outputs hsame
  · intro hcondition
    simp only [RequestAtomic, processOneCaptureRequest, ends_bind]
    refine hprepare.mono ?_ ?_
    · rintro pending c ⟨-, -, hrecorded⟩
      exact hrecorded.completeRequest hframe hoverride _
    · rintro e c (⟨-, ⟨status, rfl⟩, hsame, fds, hfences⟩ | ⟨hadmitted, hrefused, -⟩)
      · have hclosed : closedFences c.events = fds := hfences.closed
        have himported : importedFences c.events = fds := hfences.imported
        refine ⟨by simp, ?_, ?_, by rw [hclosed, himported]⟩
        · rw [hsame]
        · rw [hsame]
      · exact absurd (hcondition (hadmitted hstreams)) hrefused

end

/-! ## A request with bad physical camera settings -/

/-- A request whose only physical camera settings are given inline. -/
def physicalRequest (physicalSettings : Blob) : CaptureRequest :=
  { frameNumber := 5
    settings := [3, 7]
    outputBuffers := [{ streamId := 1, bufferId := 9, buffer := some 4, acquireFence := [33] }]
    physicalCameraSettings := [{ physicalCameraId := "2", settings := physicalSettings }] }

theorem withOneStream_nothingInflight (key : Int × Nat) :
    key ∉ Session.withOneStream.mInflightBuffers := by
  have hempty : Session.withOneStream.mInflightBuffers = ∅ :=
    Std.ExtTreeMap.isEmpty_iff.mp (by decide)
  rw [hempty]
  exact Std.ExtTreeMap.not_mem_empty

theorem requestAtomic_iff_goodPhysicalSettings :
    PhysicalAccepted .ofPairs Session.withOneStream (physicalRequest [4, 8]) ∧
      RequestAtomic .ofPairs (.obliging statusOk) Session.withOneStream
        (physicalRequest [4, 8]) := by
  have haccepted : PhysicalAccepted .ofPairs Session.withOneStream (physicalRequest [4, 8]) := by
    decide
  refine ⟨haccepted, (requestAtomic_iff .ofPairs (.obliging statusOk) Session.withOneStream
    (physicalRequest [4, 8]) (by decide) ?_ (by decide)).mpr fun _ => haccepted⟩
  exact fun key hkey => absurd hkey (withOneStream_nothingInflight key)

/-- Corrupt physical camera settings are refused, but the buffer of the refused request
stays in flight and its fence open. -/
theorem corruptPhysicalSettings_notAtomic :
    Session.withOneStream.initStatus = .ok ∧ (∀ key, key ∉ Session.withOneStream.mInflightBuffers) ∧
      5 ∉ Session.withOneStream.mInflightAETriggerOverrides ∧
      ¬RequestAtomic .ofPairs (.obliging statusOk) Session.withOneStream (physicalRequest [4]) := by
  refine ⟨by decide, withOneStream_nothingInflight, by decide, fun hatomic => ?_⟩
  obtain ⟨_, -, hsame, -⟩ := hatomic.of_stops (by decide)
  have hkey : ((1 : Int), 5) ∈ (final (processOneCaptureRequest .ofPairs (.obliging statusOk)
      (physicalRequest [4])) { session := Session.withOneStream }).session.mInflightBuffers := by
    decide
  rw [hsame] at hkey
  exact withOneStream_nothingInflight _ hkey

end LgeHardware.Camera
