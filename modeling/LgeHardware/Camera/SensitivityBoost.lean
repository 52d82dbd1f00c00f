import LgeHardware.Camera.ResultMetadata

/-! # The derived sensitivity boost

A session that derives the sensitivity boost fills in its default with the final metadata
of a frame, unless some metadata of the frame gave a boost. All that the session keeps of
the metadata it has seen is one flag for each frame, in a map that all frames share. The
flag says at any time what a look at all metadata of the frame would say.
-/

namespace LgeHardware.Camera

open LgeHardware.Foundation

namespace DrainState

/-- Some of the packets give a boost. -/
def BoostGiven (lib : MetadataLib) (packets : List Blob) : Prop :=
  ∃ packet ∈ packets, (lib.find packet .controlPostRawSensitivityBoost).isSome = true

instance (lib : MetadataLib) (packets : List Blob) : Decidable (BoostGiven lib packets) :=
  inferInstanceAs (Decidable (∃ packet ∈ packets, _))

theorem boostGiven_append (lib : MetadataLib) (packets : List Blob) (packet : Blob) :
    BoostGiven lib (packets ++ [packet]) ↔ BoostGiven lib packets ∨
      (lib.find packet .controlPostRawSensitivityBoost).isSome = true := by
  simp only [BoostGiven, List.mem_append, List.mem_singleton, or_and_right, exists_or,
    exists_eq_left]

/-- The metadata that the session takes for a frame in the course of a run. -/
def frameMetadata (lib : MetadataLib) (frameNumber : Nat) (start : DrainState)
    (ops : List DrainOp) : List Blob :=
  outputs (next lib) (metadataTaken frameNumber) start ops

/-- The flag of a frame sums up its metadata so far. -/
structure BoostRecorded (lib : MetadataLib) (frameNumber : Nat) (packets : List Blob)
    (s : DrainState) : Prop where
  derives : s.session.mDerivePostRawSensKey = true
  flag : s.session.mInflightRawBoostPresent[frameNumber]? =
    if packets = [] then none else some (decide (BoostGiven lib packets))

section

variable {lib : MetadataLib} {frameNumber : Nat} {packets : List Blob} {s : DrainState}

theorem BoostRecorded.getD (h : BoostRecorded lib frameNumber packets s) :
    s.session.mInflightRawBoostPresent.getD frameNumber false =
      decide (BoostGiven lib packets) := by
  rw [Std.ExtTreeMap.getD_eq_getD_getElem?, h.flag]
  split
  next hnone => simp [hnone, BoostGiven]
  next => rfl

/-- A packet of the frame goes into the flag, and nothing else does. -/
theorem BoostRecorded.next (h : BoostRecorded lib frameNumber packets s) (hlib : lib.Lawful)
    {op : DrainOp} (hopen : ¬s.Concludes frameNumber op) :
    BoostRecorded lib frameNumber (packets ++ s.metadataTaken frameNumber op)
      (s.next lib op) := by
  have hstep := s.next_records lib op
  refine ⟨hstep.derives.trans h.derives, ?_⟩
  rcases hstep.boost_cases hlib h.derives hopen with
    ⟨hnone, hsame⟩ | ⟨packet, hpacket, hflag⟩
  · rw [hnone, List.append_nil]
    exact hsame.trans h.flag
  · rw [hpacket, if_neg (by simp)]
    refine hflag.trans (congrArg some ?_)
    rw [h.getD, Bool.or_comm]
    simp [boostGiven_append]

/-- Until the frame is concluded the record of its boost follows the metadata that have come for it.
-/
theorem boostRecorded_run (hlib : lib.Lawful) {session : Session}
    (hidle : session.NothingInflight) (hderive : session.mDerivePostRawSensKey = true)
    {ops : List DrainOp}
    (hops : Admits (DrainState.next lib) (fun s op => ¬s.Concludes frameNumber op)
      { session } ops) :
    BoostRecorded lib frameNumber (frameMetadata lib frameNumber { session } ops)
      (run (DrainState.next lib) { session } ops) := by
  have hnot := (Session.nothingInflight_iff.mp hidle).2.2 frameNumber
  have hstart : BoostRecorded lib frameNumber [] { session } :=
    ⟨hderive, Std.ExtTreeMap.getElem?_eq_none hnot⟩
  exact hops.recorded (BoostRecorded lib frameNumber)
    (fun packets s op h hopen => h.next hlib hopen) hstart

end

/-- What becomes of the metadata of one result, after the earlier metadata of its frame. -/
structure DerivesBoost (lib : MetadataLib) (s : DrainState) (hal : Camera3CaptureResult)
    (earlier : List Blob) (packet : Blob) : Prop where
  content : ∀ result, s.handedOn lib hal = some result → lib.find result.result =
    clientContent s.session.mInflightAETriggerOverrides[hal.frameNumber]?
      (hal.partialResult = s.session.mNumPartialResults ∧ ¬BoostGiven lib (earlier ++ [packet]))
      (lib.find packet)
  handedOn : (s.session.handlePhysCam = true → s.session.PhysicalMetadataValid hal) →
    (s.handedOn lib hal).isSome = true
  forgotten : hal.partialResult = s.session.mNumPartialResults →
    hal.frameNumber ∉ (s.next lib (.result hal)).session.mInflightRawBoostPresent

/-- Whatever comes in between, the metadata of a frame is handed on as the HAL gave it, but
for the override of a precapture cancel, and the final metadata gets the default boost
exactly if no metadata of the frame gave one. -/
theorem boost_derived {lib : MetadataLib} (hlib : lib.Lawful) {session : Session}
    (hidle : session.NothingInflight) (hderive : session.mDerivePostRawSensKey = true)
    {hal : Camera3CaptureResult} {ops : List DrainOp}
    (hops : Admits (next lib) (fun s op => ¬s.Concludes hal.frameNumber op) { session } ops)
    (htakes : (run (next lib) { session } ops).Takes hal) {packet : Blob}
    (hpacket : hal.result = some packet) :
    DerivesBoost lib (run (next lib) { session } ops) hal
      (frameMetadata lib hal.frameNumber { session } ops) packet := by
  have hrecorded := boostRecorded_run hlib hidle hderive hops
  have hrestores := (overridesRestore_initial hidle).run lib ops
  generalize run (next lib) { session } ops = s at htakes hrecorded hrestores ⊢
  constructor
  · intro result hresult
    rw [handedOn_content hlib hpacket hrestores hresult]
    apply clientContent_congr
    rw [Session.LacksBoost, hrecorded.getD, decide_eq_false_iff_not, boostGiven_append, not_or,
      ← Option.isNone_iff_eq_none, ← Option.isSome_eq_false_iff, Bool.not_eq_true,
      and_comm (a := ¬BoostGiven lib _)]
    exact ⟨fun h => h.2, fun h => ⟨hrecorded.derives, h⟩⟩
  · exact Session.acceptCaptureResult_isSome lib htakes
  · intro hlast hmem
    have heffect := Session.sProcessCaptureResult_takes lib htakes
    rw [next, heffect.boosts] at hmem
    refine (Session.mem_resultMetadata_boosts hmem).2 hrecorded.derives ?_ rfl
    exact (Session.final_shrink _ _).mpr ⟨by rw [Session.resolve, hpacket]; rfl, hlast⟩

/-- Frame 5, with a precapture cancel, up to its final metadata. Frame 6 gives a boost. -/
def twoFrames : List DrainOp :=
  let request (frameNumber : Nat) (settings : Blob) : CaptureRequest :=
    { frameNumber
      settings
      outputBuffers := [{ streamId := 1, bufferId := 9, buffer := some 4 }] }
  [.submit (.obliging statusOk) (request 5 [0, 2]),
    .result { frameNumber := 5, result := some [3, 7], partialResult := 1 },
    .submit (.obliging statusOk) (request 6 [3, 7]),
    .result { frameNumber := 6, result := some [2, 50], partialResult := 1 },
    .notifyShutter 5 0]

def finalMetadata : Camera3CaptureResult :=
  { frameNumber := 5, result := some [3, 8], partialResult := 2 }

/-- The final metadata of frame 5 is handed on with the trigger of the client and the
default boost. -/
theorem boost_derived_twoFrames :
    let s := run (next .ofEntries) { session := legacySession } twoFrames
    DerivesBoost .ofEntries s finalMetadata
        (frameMetadata .ofEntries 5 { session := legacySession } twoFrames) [3, 8] ∧
      (s.handedOn .ofEntries finalMetadata).map (·.result) = some [0, 2, 2, 100, 3, 8] ∧
      6 ∈ s.session.mInflightRawBoostPresent :=
  ⟨boost_derived MetadataLib.ofEntries_lawful (by decide) (by decide) (by decide) (by decide) rfl,
    by decide, by decide⟩

end DrainState

end LgeHardware.Camera
