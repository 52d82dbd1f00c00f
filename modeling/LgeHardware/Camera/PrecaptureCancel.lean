import LgeHardware.Camera.ResultMetadata

/-! # Emulated precapture cancel

Devices up to version 3.2 do not know the trigger value that cancels a precapture
sequence. The session gives them an idle trigger and turns the exposure lock on instead,
and what it changed is put back in the results of the frame. The two directions are
linked by a record that is made with the request and lasts until the final metadata.
-/

namespace LgeHardware.Camera

open LgeHardware.Foundation

namespace Session

/-- The lock is turned on for the HAL: the client asks for none, or for none to be set. -/
def ForcesLock (lib : MetadataLib) (s : Session) (client : Blob) : Prop :=
  s.mIsAELockAvailable = true ∧
    (lib.first client .controlAeLock = none ∨ lib.first client .controlAeLock = some aeLockOff)

instance (lib : MetadataLib) (s : Session) (client : Blob) : Decidable (s.ForcesLock lib client) :=
  inferInstanceAs (Decidable (_ ∧ (_ ∨ _)))

/-- The settings for the HAL do not say that the client cancels, and say all else that the
client says. -/
structure CancelHidden (lib : MetadataLib) (s : Session) (client given : Blob) : Prop where
  trigger : lib.find given .controlAePrecaptureTrigger = some [aePrecaptureTriggerIdle]
  lock : lib.find given .controlAeLock =
    if s.ForcesLock lib client then some [aeLockOn] else lib.find client .controlAeLock
  others : ∀ tag, tag ≠ .controlAePrecaptureTrigger → tag ≠ .controlAeLock →
    lib.find given tag = lib.find client tag

/-- A result for the client looks as if the HAL had been given the client's values. -/
structure CancelShown (lib : MetadataLib) (s : Session) (client shown : Blob) : Prop where
  trigger : lib.find shown .controlAePrecaptureTrigger = some [aePrecaptureTriggerCancel]
  lock : lib.find shown .controlAeLock =
    if s.ForcesLock lib client then some [aeLockOff] else lib.find client .controlAeLock

/-- The HAL's metadata has the trigger and the lock that the HAL was given. -/
structure Echoes (lib : MetadataLib) (given metadata : Blob) : Prop where
  trigger : lib.find metadata .controlAePrecaptureTrigger =
    lib.find given .controlAePrecaptureTrigger
  lock : lib.find metadata .controlAeLock = lib.find given .controlAeLock

/-- The override undoes the change of the settings. -/
structure Undoes (lib : MetadataLib) (s : Session) (client : Blob)
    (override : AETriggerCancelOverride) : Prop where
  trigger : override.applyAePrecaptureTrigger = true
  lock : override.applyAeLock = true ↔ s.ForcesLock lib client
  restores : override.Restores

section

variable {lib : MetadataLib} (hlib : lib.Lawful) {s : Session}

include hlib

theorem handle_of_cancel (hversion : s.mDeviceVersion ≤ cameraDeviceApiVersion32) {client : Blob}
    (hentries : lib.entryCount client ≠ 0)
    (hcancel : lib.first client .controlAePrecaptureTrigger = some aePrecaptureTriggerCancel) :
    ∃ given override,
      s.handleAePrecaptureCancelRequestLocked lib (some client) = some (given, override) ∧
        s.CancelHidden lib client given ∧ s.Undoes lib client override := by
  have hne : Tag.controlAeLock ≠ .controlAePrecaptureTrigger := by decide
  have hidle : ∀ packet, lib.find (lib.update packet .controlAePrecaptureTrigger
      [aePrecaptureTriggerIdle]) =
      Function.update (lib.find packet) .controlAePrecaptureTrigger
        (some [aePrecaptureTriggerIdle]) := fun packet =>
    hlib.find_update packet .controlAePrecaptureTrigger _ (.inl rfl)
  have hon : ∀ packet, lib.find (lib.update packet .controlAeLock [aeLockOn]) =
      Function.update (lib.find packet) .controlAeLock (some [aeLockOn]) := fun packet =>
    hlib.find_update packet .controlAeLock _ (.inr rfl)
  have hfirst : lib.first (lib.update (lib.append client) .controlAePrecaptureTrigger
      [aePrecaptureTriggerIdle]) .controlAeLock = lib.first client .controlAeLock := by
    rw [MetadataLib.first, hidle, Function.update_of_ne hne, hlib.find_append, MetadataLib.first]
  have hnot : ¬(cameraDeviceApiVersion32 < s.mDeviceVersion ∨ lib.entryCount client = 0) :=
    not_or.mpr ⟨Nat.not_lt.mpr hversion, hentries⟩
  simp only [handleAePrecaptureCancelRequestLocked, if_neg hnot, hlib.first_append, hcancel,
    if_true, hfirst]
  by_cases hforces : s.ForcesLock lib client
  · refine ⟨_, _, if_pos hforces, ⟨?_, ?_, ?_⟩, ⟨rfl, iff_of_true rfl hforces, rfl, rfl⟩⟩
    · rw [hon, Function.update_of_ne hne.symm, hidle, Function.update_self]
    · rw [hon, Function.update_self, if_pos hforces]
    · intro tag htrigger hlock
      rw [hon, Function.update_of_ne hlock, hidle, Function.update_of_ne htrigger,
        hlib.find_append]
  · refine ⟨_, _, if_neg hforces, ⟨?_, ?_, ?_⟩,
      ⟨rfl, iff_of_false Bool.false_ne_true hforces, rfl, rfl⟩⟩
    · rw [hidle, Function.update_self]
    · rw [hidle, Function.update_of_ne hne, if_neg hforces, hlib.find_append]
    · intro tag htrigger hlock
      rw [hidle, Function.update_of_ne htrigger, hlib.find_append]

omit hlib in
/-- With the override of a frame, the client reads the trigger and the lock it asked for. -/
theorem Undoes.clientContent {client : Blob} {override : AETriggerCancelOverride}
    (h : s.Undoes lib client override) (boostMissing : Prop) [Decidable boostMissing]
    (content : Content) :
    clientContent (some override) boostMissing content .controlAePrecaptureTrigger =
        some [aePrecaptureTriggerCancel] ∧
      clientContent (some override) boostMissing content .controlAeLock =
        if s.ForcesLock lib client then some [aeLockOff] else content .controlAeLock := by
  simp only [Camera.clientContent, Option.elim_some, AETriggerCancelOverride.restore, h.trigger,
    if_true, h.lock, h.restores.1, h.restores.2]
  refine ⟨Function.update_self .., ?_⟩
  rw [Function.update_of_ne (show Tag.controlAeLock ≠ .controlAePrecaptureTrigger by decide)]
  split
  next => exact Function.update_self ..
  next =>
    split
    next =>
      have hne : Tag.controlAeLock ≠ .controlPostRawSensitivityBoost := by decide
      exact Function.update_of_ne hne ..
    next => rfl

theorem handle_of_not_cancel {settings : Option Blob}
    (h : ∀ client ∈ settings,
      lib.first client .controlAePrecaptureTrigger ≠ some aePrecaptureTriggerCancel) :
    s.handleAePrecaptureCancelRequestLocked lib settings = none := by
  cases settings with
  | none => rfl
  | some client =>
      have hnot := h client rfl
      rw [← hlib.first_append] at hnot
      simp only [handleAePrecaptureCancelRequestLocked, if_neg hnot, ite_self]

end

end Session

namespace DrainState

/-- The operation does not touch what is recorded of the frame's request. -/
def Leaves (frameNumber : Nat) (s : DrainState) (op : DrainOp) : Prop :=
  ¬s.Concludes frameNumber op ∧ ¬op.Submits frameNumber ∧ ¬op.Refuses frameNumber

instance (frameNumber : Nat) (s : DrainState) (op : DrainOp) :
    Decidable (s.Leaves frameNumber op) :=
  inferInstanceAs (Decidable (_ ∧ _ ∧ _))

/-- The override of a frame lasts until its metadata is complete. -/
theorem override_kept (lib : MetadataLib) {start : DrainState} {frameNumber : Nat}
    {ops : List DrainOp} (hops : Admits (next lib) (Leaves frameNumber) start ops) :
    (run (next lib) start ops).session.mInflightAETriggerOverrides[frameNumber]? =
      start.session.mInflightAETriggerOverrides[frameNumber]? := by
  refine hops.invariant (fun s => s.session.mInflightAETriggerOverrides[frameNumber]? =
    start.session.mInflightAETriggerOverrides[frameNumber]?) (fun s op hkept hleaves => ?_) rfl
  rcases (s.next_records lib op).override_cases frameNumber with
    hsame | ⟨-, hends⟩ | ⟨settings, found, hsubmits, -⟩
  · exact hsame.trans hkept
  · exact (not_or.mpr ⟨hleaves.1, hleaves.2.2⟩ hends).elim
  · exact (hleaves.2.1 hsubmits).elim

/-- There is no override of a frame that has not been submitted. -/
theorem override_none (lib : MetadataLib) {session : Session} (hidle : session.NothingInflight)
    {frameNumber : Nat} {ops : List DrainOp} (hops : ∀ op ∈ ops, ¬op.Submits frameNumber) :
    (run (next lib) { session } ops).session.mInflightAETriggerOverrides[frameNumber]? = none := by
  have hrun : Admits (next lib) (fun _ op => ¬op.Submits frameNumber) { session } ops :=
    .of_forall hops
  refine hrun.invariant (fun s => s.session.mInflightAETriggerOverrides[frameNumber]? = none)
    (fun s op hnone hnot => ?_) ?_
  · rcases (s.next_records lib op).override_cases frameNumber with
      hsame | ⟨hgone, -⟩ | ⟨settings, found, hsubmits, -⟩
    · exact hsame.trans hnone
    · exact hgone
    · exact (hnot hsubmits).elim
  · exact Std.ExtTreeMap.getElem?_eq_none ((Session.nothingInflight_iff.mp hidle).2.1 frameNumber)

/-- At some point of a run from here, up to the final metadata of the frame, a result of the
frame with this metadata is handed on. -/
def HandsOn (lib : MetadataLib) (start : DrainState) (frameNumber : Nat) (metadata : Blob)
    (result : CaptureResult) : Prop :=
  ∃ ops hal, Admits (next lib) (Leaves frameNumber) start ops ∧ hal.frameNumber = frameNumber ∧
    hal.result = some metadata ∧ (run (next lib) start ops).handedOn lib hal = some result

/-- What is handed on for a frame depends on the override that its request left behind. -/
theorem HandsOn.content {lib : MetadataLib} (hlib : lib.Lawful) {start : DrainState}
    (hrestores : start.OverridesRestore) {frameNumber : Nat} {metadata : Blob}
    {result : CaptureResult} (h : start.HandsOn lib frameNumber metadata result) :
    ∃ boostMissing, ∃ _ : Decidable boostMissing, lib.find result.result =
      clientContent start.session.mInflightAETriggerOverrides[frameNumber]? boostMissing
        (lib.find metadata) := by
  obtain ⟨ops, hal, hops, rfl, hmetadata, hhanded⟩ := h
  have hcontent := handedOn_content hlib hmetadata (hrestores.run lib ops) hhanded
  rw [override_kept lib hops] at hcontent
  exact ⟨_, _, hcontent⟩

/-- What the HAL is given for the settings of a request, and what the client gets back. -/
structure EmulatesCancel (lib : MetadataLib) (s submitted : DrainState) (frameNumber : Nat)
    (settings given : Option Blob) : Prop where
  cancelled : s.session.mDeviceVersion ≤ cameraDeviceApiVersion32 →
    ∀ client ∈ settings, lib.entryCount client ≠ 0 →
      lib.first client .controlAePrecaptureTrigger = some aePrecaptureTriggerCancel →
        ∃ hidden ∈ given, s.session.CancelHidden lib client hidden ∧
          ∀ metadata result, submitted.HandsOn lib frameNumber metadata result →
            Session.Echoes lib hidden metadata →
              s.session.CancelShown lib client result.result
  untouched : (∀ client ∈ settings,
      lib.first client .controlAePrecaptureTrigger ≠ some aePrecaptureTriggerCancel) →
    given = settings ∧
      ∀ metadata result, submitted.HandsOn lib frameNumber metadata result →
        ∀ tag, tag ≠ .controlPostRawSensitivityBoost →
          lib.find result.result tag = lib.find metadata tag

/-- A precapture cancel is kept from the HAL and shown to the client, whatever else happens
before the metadata of its frame is complete. Other requests and their results pass as
they are. -/
theorem precaptureCancel_emulated {lib : MetadataLib} (hlib : lib.Lawful) {session : Session}
    (hidle : session.NothingInflight) {earlier : List DrainOp} {world : RequestWorld}
    {request : CaptureRequest} (hnew : ∀ op ∈ earlier, ¬op.Submits request.frameNumber)
    {pending : PendingRequest} {c : Call}
    (hprepare : prepareRequest lib world request
      { session := (run (next lib) { session } earlier).session } = .ok pending c)
    {settings : Option Blob}
    (hsettings : ((run (next lib) { session } earlier).session.mainSettings request).bytes.bind
      lib.convertFromAidl = some settings) :
    c.events.getLast? = some (.processCaptureRequest pending.halRequest) ∧
      EmulatesCancel lib (run (next lib) { session } earlier)
        (run (next lib) { session } (earlier ++ [.submit world request])) request.frameNumber
        settings pending.halRequest.settings := by
  have hnone := override_none lib hidle hnew
  have hrestores := (overridesRestore_initial hidle).run lib (earlier ++ [.submit world request])
  rw [run_append] at hrestores ⊢
  -- Of what came before nothing matters but that no override is kept for the frame.
  generalize run (next lib) { session } earlier = s at hprepare hsettings hnone hrestores ⊢
  have hends := prepareRequest_overrides lib world request { session := s.session }
  rw [Ends, hprepare] at hends
  obtain ⟨found, hfound, hgiven, hevents, hrecords⟩ := hends
  obtain rfl : found = settings := Option.some.inj (hfound.symm.trans hsettings)
  have hsubmitted : (run (next lib) s [.submit world request]).session = c.session := by
    simp only [run_cons, run_nil, next, hprepare]
  generalize run (next lib) s [.submit world request] = submitted at hrestores hsubmitted ⊢
  have hoverrides : submitted.session.mInflightAETriggerOverrides =
      (s.session.setOverride request.frameNumber
        (s.session.handleAePrecaptureCancelRequestLocked lib found)).mInflightAETriggerOverrides :=
    hsubmitted ▸ congrArg MetadataRecords.overrides hrecords
  refine ⟨hevents, ?_, ?_⟩
  · intro hversion client hclient hentries hcancel
    obtain rfl : found = some client := hclient
    -- A cancel: the override that is kept for the frame undoes what was hidden from the HAL.
    obtain ⟨hidden, override, hhandle, hhidden, hundoes⟩ :=
      Session.handle_of_cancel hlib hversion hentries hcancel
    rw [hhandle] at hgiven hoverrides
    refine ⟨hidden, hgiven, hhidden, fun metadata result hhanded hechoes => ?_⟩
    obtain ⟨boostMissing, _, hcontent⟩ := hhanded.content hlib hrestores
    have hrecord : submitted.session.mInflightAETriggerOverrides[request.frameNumber]? =
        some override := by
      rw [hoverrides]
      exact (Std.ExtTreeMap.getElem?_insert_of_eq _ _ _ _).trans (if_pos rfl)
    rw [hrecord] at hcontent
    obtain ⟨htrigger, hlock⟩ := hundoes.clientContent boostMissing (lib.find metadata)
    refine ⟨hcontent ▸ htrigger, ?_⟩
    rw [hcontent, hlock, hechoes.lock, hhidden.lock]
    split
    next => rfl
    next => rfl
  · intro hnot
    -- Any other request keeps no override for its frame.
    rw [Session.handle_of_not_cancel hlib hnot] at hgiven hoverrides
    refine ⟨hgiven, fun metadata result hhanded tag htag => ?_⟩
    obtain ⟨boostMissing, _, hcontent⟩ := hhanded.content hlib hrestores
    have hrecord : submitted.session.mInflightAETriggerOverrides[request.frameNumber]? = none :=
      hoverrides ▸ hnone
    rw [hcontent, hrecord, clientContent_of_ne _ htag]

/-- A session of an old device that can lock its exposure. -/
def lockingSession : Session := { legacySession with mIsAELockAvailable := true }

/-- A request that cancels a precapture sequence and says nothing about the lock. -/
def cancelRequest : CaptureRequest :=
  { frameNumber := 5
    settings := [0, 2, 3, 7]
    outputBuffers := [{ streamId := 1, bufferId := 9, buffer := some 4 }] }

/-- The HAL is given an idle trigger and the lock, and what it echoes is undone. -/
theorem precaptureCancel_emulated_lockAbsent :
    let submitted := run (next .ofEntries) { session := lockingSession }
      [.submit (.obliging statusOk) cancelRequest]
    ∃ pending c, prepareRequest .ofEntries (.obliging statusOk) cancelRequest
        { session := lockingSession } = .ok pending c ∧
      pending.halRequest.settings = some [1, 1, 0, 0, 3, 7] ∧
      (c.events.getLast? = some (.processCaptureRequest pending.halRequest) ∧
        EmulatesCancel .ofEntries { session := lockingSession } submitted 5 (some [0, 2, 3, 7])
          pending.halRequest.settings) ∧
      (submitted.handedOn .ofEntries
        { frameNumber := 5, result := some [1, 1, 0, 0, 3, 8], partialResult := 2 }).map
          (·.result) = some [0, 2, 1, 0, 2, 100, 3, 8] := by
  refine ⟨_, _, rfl, rfl, ?_, by decide⟩
  have hidle : lockingSession.NothingInflight := by decide
  exact precaptureCancel_emulated MetadataLib.ofEntries_lawful hidle
    (fun op hop => absurd hop (List.not_mem_nil (a := op))) rfl rfl

end DrainState

end LgeHardware.Camera
