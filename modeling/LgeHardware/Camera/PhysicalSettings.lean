import LgeHardware.Camera.RequestQueue

/-! # Settings of physical cameras

A request carries the settings of each of its physical cameras inline or through the
request metadata queue. Those from the queue are read into `physicalFmq`, which gets an
element for each of them and is indexed by the place of the camera in the request. The
index is out of bounds as soon as settings from the queue follow inline ones.
-/

namespace LgeHardware.Camera

open LgeHardware.Foundation RequestM

/-- The settings are these bytes, given inline or announced in the queue. -/
def PhysicalCameraSetting.Carries (setting : PhysicalCameraSetting) (bytes : Blob) : Prop :=
  setting.fmqSettingsSize = 0 ∧ bytes = setting.settings ∨
    0 < setting.fmqSettingsSize ∧ (bytes.length : Int) = setting.fmqSettingsSize

instance (setting : PhysicalCameraSetting) (bytes : Blob) : Decidable (setting.Carries bytes) :=
  inferInstanceAs (Decidable (_ ∨ _))

/-- What the client writes into the queue for the physical cameras, in their order. -/
def queuedSettings : List PhysicalCameraSetting → List Blob → List Blob
  | setting :: rest, bytes :: more =>
      (if setting.fmqSettingsSize = 0 then [] else [bytes]) ++ queuedSettings rest more
  | _, _ => []

/-- The settings as the HAL sees them, null where there are no bytes. -/
def halSettings (bytes : Blob) : Option Blob := if bytes = [] then none else some bytes

/-- No settings from the queue follow inline ones. -/
def QueuedFirst (settings : List PhysicalCameraSetting) : Prop :=
  settings.Pairwise fun first second => first.fmqSettingsSize = 0 → second.fmqSettingsSize = 0

instance (settings : List PhysicalCameraSetting) : Decidable (QueuedFirst settings) :=
  inferInstanceAs (Decidable (List.Pairwise _ _))

/-- The call gets to the HAL without an access outside of `physicalFmq`, and the HAL is
given the id and the settings of each physical camera, in their order. -/
def PhysicalDelivered (lib : MetadataLib) (world : RequestWorld) (s : Session)
    (request : CaptureRequest) (settings : List (Option Blob)) : Prop :=
  Ends (prepareRequest lib world request) { session := s }
    (fun pending c =>
      c.events.getLast? = some (.processCaptureRequest pending.halRequest) ∧
      pending.halRequest.physcamId.length = request.physicalCameraSettings.length ∧
      pending.halRequest.physcamId = request.physicalCameraSettings.map (·.physicalCameraId) ∧
      pending.halRequest.physcamSettings = settings)
    (fun _ _ => False)

instance (lib : MetadataLib) (world : RequestWorld) (s : Session) (request : CaptureRequest)
    (settings : List (Option Blob)) :
    Decidable (PhysicalDelivered lib world s request settings) :=
  inferInstanceAs (Decidable (Ends _ _ _ _))

/-! ## One camera -/

/-- Settings that pass the checks are handed on. -/
theorem checkSettings_carried {lib : MetadataLib} {bytes : Blob} {c : Call}
    (hok : settingsOk lib c.session.mFirstRequest (some bytes) = true) :
    Ends (checkSettings (lib.convertFromAidl bytes)) c
      (fun settings c' => settings = halSettings bytes ∧ c' = c) fun _ _ => False := by
  rw [settingsOk, Option.bind_some] at hok
  rw [halSettings]
  by_cases hempty : bytes = []
  · have hconvert : lib.convertFromAidl bytes = some none := by
      rw [MetadataLib.convertFromAidl, if_pos hempty]
    rw [hconvert] at hok ⊢
    have hlater : c.session.mFirstRequest = false := by simpa using hok
    simp [checkSettings, hempty, hlater]
  · by_cases hsize : lib.size bytes ≠ bytes.length
    · rw [MetadataLib.convertFromAidl, if_neg hempty, if_pos hsize] at hok
      cases hok
    · have hconvert : lib.convertFromAidl bytes = some (some bytes) := by
        rw [MetadataLib.convertFromAidl, if_neg hempty, if_neg hsize]
      rw [hconvert]
      simp [checkSettings, hempty]

/-- Settings from the queue are read where they were written, if `physicalFmq` has an
element for them. -/
theorem readPhysicalSetting_queued {lib : MetadataLib} {setting : PhysicalCameraSetting}
    {bytes : Blob} {c : Call} {left : List Blob} (hsize : 0 < setting.fmqSettingsSize)
    (hlength : (bytes.length : Int) = setting.fmqSettingsSize)
    (hqueue : c.session.mRequestMetadataQueue.Holds (bytes :: left))
    (hok : settingsOk lib c.session.mFirstRequest (some bytes) = true) (frameNumber i : Nat) :
    Ends (readPhysicalSetting lib frameNumber i i setting) c
      (fun settings c' => settings = halSettings bytes ∧
        c'.session.mRequestMetadataQueue.Holds left ∧
        c'.session.mFirstRequest = c.session.mFirstRequest)
      fun _ _ => False := by
  obtain ⟨queue, hfetch, hleft⟩ :=
    fetch_of_holds hqueue hsize hlength frameNumber (some i) setting.settings
  rw [readPhysicalSetting, if_neg (by omega), if_neg (by omega)]
  simp only [pure_bind]
  rw [ends_readRequestQueue_bind _ _ hsize setting.settings, hfetch]
  refine (checkSettings_carried (c := c.fetched _) hok).mono ?_ fun _ _ h => h
  rintro settings c' ⟨hsettings, rfl⟩
  exact ⟨hsettings, hleft, rfl⟩

theorem readPhysicalSetting_inline {lib : MetadataLib} {setting : PhysicalCameraSetting}
    {c : Call} (hinline : setting.fmqSettingsSize = 0)
    (hok : settingsOk lib c.session.mFirstRequest (some setting.settings) = true)
    (frameNumber i numFmq : Nat) :
    Ends (readPhysicalSetting lib frameNumber i numFmq setting) c
      (fun settings c' => settings = halSettings setting.settings ∧ c' = c) fun _ _ => False := by
  rw [readPhysicalSetting, if_pos hinline]
  simp only [pure_bind]
  exact checkSettings_carried hok

/-! ## All cameras of a request -/

/-- The loop from the `i`-th camera on, with `numFmq` elements in `physicalFmq`: it hands on
the settings of every camera, or stops at settings from the queue that follow inline ones. -/
theorem readPhysicalSettings_carried (lib : MetadataLib) (frameNumber : Nat)
    {settings : List PhysicalCameraSetting} {carried : List Blob}
    (hcarried : List.Forall₂ PhysicalCameraSetting.Carries settings carried) {i numFmq : Nat}
    (hnum : numFmq ≤ i) {left : List Blob} {c : Call}
    (hqueue : c.session.mRequestMetadataQueue.Holds (queuedSettings settings carried ++ left))
    (hok : ∀ bytes ∈ carried, settingsOk lib c.session.mFirstRequest (some bytes) = true) :
    Ends (readPhysicalSettings lib frameNumber i numFmq settings) c
      (fun read _ => (QueuedFirst settings ∧
          (numFmq < i → ∀ setting ∈ settings, setting.fmqSettingsSize = 0)) ∧
        read = carried.map halSettings)
      (fun _ _ => ¬ (QueuedFirst settings ∧
        (numFmq < i → ∀ setting ∈ settings, setting.fmqSettingsSize = 0))) := by
  induction hcarried generalizing i numFmq c with
  | nil => exact ⟨⟨List.Pairwise.nil, by simp⟩, rfl⟩
  | @cons setting bytes rest more hfirst hrest ih =>
      have hfirstOk := hok bytes List.mem_cons_self
      have hrestOk : ∀ other ∈ more,
          settingsOk lib c.session.mFirstRequest (some other) = true :=
        fun other hother => hok other (List.mem_cons_of_mem _ hother)
      simp only [readPhysicalSettings, ends_bind, ends_pure]
      rcases hfirst with ⟨hinline, rfl⟩ | ⟨hsize, hlength⟩
      · -- from here on every camera must come inline
        have hcondition : (QueuedFirst (setting :: rest) ∧
            (numFmq < i → ∀ other ∈ setting :: rest, other.fmqSettingsSize = 0)) ↔
              QueuedFirst rest ∧
                (numFmq < i + 1 → ∀ other ∈ rest, other.fmqSettingsSize = 0) := by
          rw [QueuedFirst, List.pairwise_cons, List.forall_mem_cons]
          simp only [hinline, true_implies, true_and]
          have hbehind : numFmq < i + 1 := by omega
          tauto
        rw [queuedSettings, if_pos hinline, List.nil_append] at hqueue
        simp only [if_pos hinline, hcondition]
        refine (readPhysicalSetting_inline hinline hfirstOk frameNumber i numFmq).mono ?_
          fun _ _ h => h.elim
        rintro _ _ ⟨rfl, rfl⟩
        refine (ih (by omega) hqueue hrestOk).mono ?_ fun _ _ h => h
        rintro _ _ ⟨hholds, rfl⟩
        exact ⟨hholds, rfl⟩
      · have hqueued : ¬ setting.fmqSettingsSize = 0 := by omega
        simp only [if_neg hqueued]
        by_cases hfits : numFmq = i
        · subst hfits
          have hcondition : (QueuedFirst (setting :: rest) ∧
              (numFmq < numFmq → ∀ other ∈ setting :: rest, other.fmqSettingsSize = 0)) ↔
                QueuedFirst rest ∧
                  (numFmq + 1 < numFmq + 1 → ∀ other ∈ rest, other.fmqSettingsSize = 0) := by
            rw [QueuedFirst, List.pairwise_cons]
            simp [hqueued, QueuedFirst]
          rw [queuedSettings, if_neg hqueued, List.append_assoc] at hqueue
          simp only [hcondition]
          refine (readPhysicalSetting_queued hsize hlength hqueue hfirstOk frameNumber
            numFmq).mono ?_ fun _ _ h => h.elim
          rintro _ c' ⟨rfl, hleft, hfirst⟩
          rw [← hfirst] at hrestOk
          refine (ih (Nat.le_refl _) hleft hrestOk).mono ?_ fun _ _ h => h
          rintro _ _ ⟨hholds, rfl⟩
          exact ⟨hholds, rfl⟩
        · have hbad : setting.fmqSettingsSize < 0 ∨ numFmq ≠ i := .inr hfits
          rw [readPhysicalSetting, if_neg hqueued, if_pos hbad]
          simp only [ends_bind, ends_throw]
          rintro ⟨-, hinline⟩
          exact hqueued (hinline (by omega) setting List.mem_cons_self)

/-- An admitted request gets to the HAL with all physical camera settings, or runs into an
access outside of `physicalFmq`. -/
theorem prepareRequest_physical {lib : MetadataLib} {world : RequestWorld} {s : Session}
    {request : CaptureRequest} {carried left : List Blob}
    (hadmitted : RequestAdmitted lib s world request)
    (hcarried : List.Forall₂ PhysicalCameraSetting.Carries request.physicalCameraSettings carried)
    (hqueue : (s.mainSettings request).queue.Holds
      (queuedSettings request.physicalCameraSettings carried ++ left))
    (hok : ∀ bytes ∈ carried, settingsOk lib s.mFirstRequest (some bytes) = true) :
    Ends (prepareRequest lib world request) { session := s }
      (fun pending c => QueuedFirst request.physicalCameraSettings ∧
        c.events.getLast? = some (.processCaptureRequest pending.halRequest) ∧
        pending.halRequest.physcamId.length = request.physicalCameraSettings.length ∧
        pending.halRequest.physcamId = request.physicalCameraSettings.map (·.physicalCameraId) ∧
        pending.halRequest.physcamSettings = carried.map halSettings)
      (fun _ _ => ¬ QueuedFirst request.physicalCameraSettings) := by
  simp only [prepareRequest, ends_bind, ends_getSession, ends_check]
  refine ⟨fun _ => ?_, fun hclosed => absurd hadmitted.opened hclosed⟩
  refine (readSettings_spec lib request { session := s }).mono ?_ ?_
  · rintro settings _ ⟨-, -, rfl⟩
    refine ⟨fun _ => ?_, fun hnone => absurd hadmitted.outputs hnone⟩
    refine (importRequest_inStep world request _).mono ?_ ?_
    · rintro ⟨allBufPtrs, allFences⟩ c₁ ⟨⟨hptrs, hfences⟩, hsilent₁⟩
      refine (registerInflight_inStep lib request settings hptrs hfences c₁).mono ?_
        fun _ _ h => h.elim
      intro pending c₂ hsilent₂
      have hsilent := hsilent₁.trans hsilent₂
      have hqueue₂ : c₂.session.mRequestMetadataQueue.Holds
          (queuedSettings request.physicalCameraSettings carried ++ left) := by
        rw [hsilent.queue]
        exact hqueue
      have hok₂ : ∀ bytes ∈ carried,
          settingsOk lib c₂.session.mFirstRequest (some bytes) = true := by
        rw [hsilent.first]
        exact hok
      refine (readPhysicalSettings_carried lib request.frameNumber hcarried (Nat.le_refl 0)
        hqueue₂ hok₂).mono ?_ ?_
      · rintro _ c₃ ⟨⟨hqueuedFirst, -⟩, rfl⟩
        simp only [ends_emit, ends_pure]
        exact ⟨hqueuedFirst, by simp, by simp, trivial, trivial⟩
      · rintro _ _ hnot hqueuedFirst
        exact hnot ⟨hqueuedFirst, fun h => absurd h (Nat.lt_irrefl 0)⟩
    · rintro e c₁ ⟨hnot, -, -⟩
      exact absurd ⟨hadmitted.buffers, hadmitted.fences⟩ hnot
  · rintro e _ ⟨hbad, -, -⟩
    exact absurd (hbad.symm.trans hadmitted.settings) Bool.false_ne_true

/-- The settings of the physical cameras reach the HAL exactly if none from the queue follow
inline ones. -/
theorem physical_delivered_iff {lib : MetadataLib} {world : RequestWorld} {s : Session}
    {request : CaptureRequest} {carried left : List Blob}
    (hadmitted : RequestAdmitted lib s world request)
    (hcarried : List.Forall₂ PhysicalCameraSetting.Carries request.physicalCameraSettings carried)
    (hqueue : (s.mainSettings request).queue.Holds
      (queuedSettings request.physicalCameraSettings carried ++ left))
    (hok : ∀ bytes ∈ carried, settingsOk lib s.mFirstRequest (some bytes) = true) :
    PhysicalDelivered lib world s request (carried.map halSettings) ↔
      QueuedFirst request.physicalCameraSettings := by
  have hprepare := prepareRequest_physical hadmitted hcarried hqueue hok
  constructor
  · intro hdelivered
    by_contra hnot
    refine ((hprepare.and hdelivered).mono ?_ ?_).false
    · exact fun _ _ h => hnot h.1.1
    · exact fun _ _ h => h.2
  · intro hqueuedFirst
    exact hprepare.mono (fun _ _ h => h.2) fun _ _ hnot => hnot hqueuedFirst

/-! ## Two physical cameras -/

/-- A session whose request queue holds settings of two bytes. -/
def withQueuedSettings : Session :=
  { Session.withOneStream with
    mRequestMetadataQueue := ⟨64, [4, 8], by decide⟩ }

/-- A request with the settings of two physical cameras. -/
def twoCameras (first second : PhysicalCameraSetting) : CaptureRequest :=
  { frameNumber := 5
    settings := [3, 7]
    outputBuffers := [{ streamId := 1, bufferId := 9, buffer := some 4, acquireFence := [33] }]
    physicalCameraSettings := [first, second] }

def queuedCamera : PhysicalCameraSetting := { fmqSettingsSize := 2, physicalCameraId := "2" }

def inlineCamera : PhysicalCameraSetting := { physicalCameraId := "3", settings := [5, 9] }

theorem physical_delivered_iff_queuedFirst :
    PhysicalDelivered .ofPairs (.obliging statusOk) withQueuedSettings
        (twoCameras queuedCamera inlineCamera) [some [4, 8], some [5, 9]] ↔
      QueuedFirst [queuedCamera, inlineCamera] := by
  have hadmitted : RequestAdmitted .ofPairs withQueuedSettings (.obliging statusOk)
      (twoCameras queuedCamera inlineCamera) := by
    decide
  have hcarried : List.Forall₂ PhysicalCameraSetting.Carries [queuedCamera, inlineCamera]
      [[4, 8], [5, 9]] :=
    .cons (by decide) (.cons (by decide) .nil)
  have hqueue : (withQueuedSettings.mainSettings (twoCameras queuedCamera inlineCamera)).queue.Holds
      (queuedSettings [queuedCamera, inlineCamera] [[4, 8], [5, 9]] ++ []) :=
    rfl
  exact physical_delivered_iff hadmitted hcarried hqueue (by decide)

/-- Settings from the queue after inline ones are read into an element that does not exist. -/
theorem queuedSecond_undelivered :
    ¬ PhysicalDelivered .ofPairs (.obliging statusOk) withQueuedSettings
      (twoCameras inlineCamera queuedCamera) [some [5, 9], some [4, 8]] := by
  decide

end LgeHardware.Camera
