import LgeHardware.Amplifier.Held

/-! # What each half of the module leaves alone

The functions for the speaker feedback have nothing to do with the path of the headphones,
and those for the headphones nothing with what is held for the feedback.
-/

namespace LgeHardware.Amplifier

open LgeHardware.Foundation

/-! ## Reading through the pointers -/

section

variable {relation : AudioState → AudioState → Prop}

theorem moves_derefAdev (hrefl : ∀ s, relation s s) : Moves relation True derefAdev :=
  fun s => ends_derefAdev_of (fun _ => hrefl s) fun _ => ⟨trivial, hrefl s⟩

theorem moves_derefDevice (hrefl : ∀ s, relation s s) (device : DevicePtr) :
    Moves relation True (derefDevice device) := by
  intro s
  rw [Ends, derefDevice]
  cases device with
  | opened => exact hrefl s
  | null => exact ⟨trivial, hrefl s⟩

end

/-! ## The feedback -/

/-- The path, the flags, the routings and the property are the same. -/
structure SamePath (s t : AudioState) : Prop where
  enabled : t.lgeAmplifier.hifiDacEnabled = s.lgeAmplifier.hifiDacEnabled
  changed : t.lgeAmplifier.hifiDacConfigChanged = s.lgeAmplifier.hifiDacConfigChanged
  path : t.headphones = s.headphones
  routings : t.routings = s.routings
  property : t.hifiEnabled = s.hifiEnabled

theorem SamePath.refl (s : AudioState) : SamePath s s := ⟨rfl, rfl, rfl, rfl, rfl⟩

theorem SamePath.trans {s t u : AudioState} (h : SamePath s t) (h' : SamePath t u) :
    SamePath s u where
  enabled := h'.enabled.trans h.enabled
  changed := h'.changed.trans h.changed
  path := h'.path.trans h.path
  routings := h'.routings.trans h.routings
  property := h'.property.trans h.property

section

variable {mayStop : Prop}

theorem samePath_bind {α β : Type} {x : AmpM α} {f : α → AmpM β}
    (hx : Moves SamePath mayStop x) (hf : ∀ a, Moves SamePath mayStop (f a)) :
    Moves SamePath mayStop (x >>= f) := by
  apply Moves.bind _ hx hf
  exact fun _ _ _ => SamePath.trans

theorem samePath_pure {α : Type} (a : α) : Moves SamePath mayStop (pure a : AmpM α) :=
  Moves.pure SamePath.refl a

theorem samePath_get : Moves SamePath mayStop (get : AmpM AudioState) := SamePath.refl

theorem samePath_calling (call : Call) : Moves SamePath mayStop (calling call) :=
  fun _ => ⟨rfl, rfl, rfl, rfl, rfl⟩

theorem samePath_setUsecaseTx (usecase : Option Usecase) :
    Moves SamePath mayStop (setUsecaseTx usecase) :=
  fun _ => ⟨rfl, rfl, rfl, rfl, rfl⟩

theorem samePath_setPcmOut (pcm : Option Pcm) : Moves SamePath mayStop (setPcmOut pcm) :=
  fun _ => ⟨rfl, rfl, rfl, rfl, rfl⟩

theorem samePath_setAdev (adev : Bool) : Moves SamePath mayStop (setAdev adev) :=
  fun _ => ⟨rfl, rfl, rfl, rfl, rfl⟩

theorem samePath_withUsecases (f : AudioState → UsecaseList) :
    Moves SamePath mayStop (modify fun s => s.withUsecases (f s) : AmpM PUnit) :=
  fun _ => ⟨rfl, rfl, rfl, rfl, rfl⟩

/-- Closing the capture leaves the path alone. -/
theorem samePath_closePcmOut : Moves SamePath True closePcmOut := by
  apply samePath_bind samePath_get
  intro s
  apply Moves.ite
  · exact samePath_bind (samePath_calling _) fun _ => samePath_setPcmOut none
  · exact samePath_pure _

theorem samePath_startFeedbackError (usecase : Usecase) (rc : Int) :
    Moves SamePath True (startFeedbackError usecase rc) := by
  apply samePath_bind samePath_closePcmOut
  intro _
  apply samePath_bind (samePath_withUsecases _)
  intro _
  apply samePath_bind (samePath_calling _)
  intro _
  exact samePath_bind (samePath_calling _) fun _ => samePath_pure rc

theorem samePath_openFeedbackPcm (usecase : Usecase) (answers : StartAnswers) :
    Moves SamePath True (openFeedbackPcm usecase answers) := by
  apply Moves.ite (samePath_startFeedbackError _ _)
  apply samePath_bind (samePath_calling _)
  intro _
  apply samePath_bind (samePath_setPcmOut _)
  intro _
  apply Moves.ite (samePath_startFeedbackError _ _)
  apply samePath_bind (samePath_calling _)
  intro _
  exact Moves.ite (samePath_startFeedbackError _ _) (samePath_pure 0)

theorem samePath_startFeedback (device : DevicePtr) (sndDevice : SndDevice)
    (answers : StartAnswers) : Moves SamePath True (startFeedback device sndDevice answers) := by
  apply Moves.ite (samePath_pure _)
  apply samePath_bind samePath_get
  intro s
  apply Moves.ite (samePath_pure _)
  apply Moves.ite (samePath_bind (samePath_setUsecaseTx none) fun _ => samePath_pure _)
  apply samePath_bind samePath_get
  intro t
  apply samePath_bind (samePath_setUsecaseTx _)
  intro _
  apply samePath_bind (moves_derefAdev SamePath.refl)
  intro _
  apply samePath_bind (samePath_withUsecases _)
  intro _
  apply samePath_bind (samePath_calling _)
  intro _
  exact samePath_bind (samePath_calling _) fun _ => samePath_openFeedbackPcm _ _

theorem samePath_freeUsecase (usecase : Option Usecase) :
    Moves SamePath True (freeUsecase usecase) := by
  cases usecase with
  | none => exact samePath_pure _
  | some usecase => exact samePath_bind (samePath_withUsecases _) fun _ => samePath_calling _

theorem samePath_stopFeedback (device : DevicePtr) (sndDevice : SndDevice) :
    Moves SamePath True (stopFeedback device sndDevice) := by
  apply Moves.ite (samePath_pure _)
  apply Moves.ite (samePath_pure _)
  apply samePath_bind samePath_closePcmOut
  intro _
  apply samePath_bind (moves_derefAdev SamePath.refl)
  intro _
  apply samePath_bind (samePath_calling _)
  intro _
  apply samePath_bind samePath_get
  intro s
  exact samePath_bind (samePath_setUsecaseTx _) fun _ => samePath_freeUsecase _

/-- Switching the feedback leaves the path alone. -/
theorem samePath_setFeedback (device : DevicePtr) (adev : Bool) (devices : SndDevice)
    (enable : Bool) (answers : StartAnswers) :
    Moves SamePath True (setFeedback device adev devices enable answers) := by
  apply samePath_bind (moves_derefDevice SamePath.refl device)
  intro _
  apply samePath_bind (samePath_setAdev adev)
  intro _
  apply Moves.ite
  · exact samePath_bind (samePath_startFeedback device devices answers) fun _ => samePath_pure 0
  · exact samePath_bind (samePath_stopFeedback device devices) fun _ => samePath_pure 0

/-- So does the calibration. -/
theorem samePath_calibrate (device : DevicePtr) (adev : Bool) :
    Moves SamePath True (calibrate device adev) := by
  apply Moves.ite (samePath_pure _)
  apply samePath_bind (moves_derefDevice SamePath.refl device)
  intro _
  exact samePath_bind (samePath_setAdev true) fun _ => samePath_pure 0

theorem samePath_startUsecase (usecase : Usecase) :
    Moves SamePath True (startUsecase usecase) := samePath_withUsecases _

theorem samePath_stopUsecase (address : Nat) : Moves SamePath True (stopUsecase address) := by
  apply samePath_bind samePath_get
  intro s
  exact Moves.ite (samePath_withUsecases _) (samePath_pure _)

end

/-! ## The headphones -/

/-- What is held for the feedback is the same, and so is the property, unless it may be
changed. -/
structure HifiFrame (mayChange : Prop) (s t : AudioState) : Prop where
  held : t.held = s.held
  property : ¬mayChange → t.hifiEnabled = s.hifiEnabled

theorem HifiFrame.refl {mayChange : Prop} (s : AudioState) : HifiFrame mayChange s s :=
  ⟨rfl, fun _ => rfl⟩

theorem HifiFrame.trans {mayChange : Prop} {s t u : AudioState} (h : HifiFrame mayChange s t)
    (h' : HifiFrame mayChange t u) : HifiFrame mayChange s u where
  held := h'.held.trans h.held
  property hfixed := (h'.property hfixed).trans (h.property hfixed)

/-- A call back into the module. -/
def Reentry.isCall : Reentry → Bool
  | .setOutputDevices .. => true
  | .propertyChanged _ => false

section

variable {mayChange : Prop}

theorem hifiFrame_bind {α β : Type} {x : AmpM α} {f : α → AmpM β}
    (hx : Moves (HifiFrame mayChange) True x) (hf : ∀ a, Moves (HifiFrame mayChange) True (f a)) :
    Moves (HifiFrame mayChange) True (x >>= f) := by
  apply Moves.bind _ hx hf
  exact fun _ _ _ => HifiFrame.trans

theorem hifiFrame_pure {α : Type} (a : α) :
    Moves (HifiFrame mayChange) True (pure a : AmpM α) :=
  Moves.pure HifiFrame.refl a

theorem hifiFrame_get : Moves (HifiFrame mayChange) True (get : AmpM AudioState) :=
  HifiFrame.refl

theorem hifiFrame_selecting (usecase : UsecaseId) :
    Moves (HifiFrame mayChange) True (calling (.selectDevices usecase)) := by
  intro s
  apply (ends_modify _).mpr
  exact ⟨s.held_logging_other rfl rfl, fun _ => rfl⟩

theorem hifiFrame_setStreamConfigChanged (usecase : Usecase) (changed : Bool) :
    Moves (HifiFrame mayChange) True (setStreamConfigChanged usecase changed) := by
  intro s
  apply (ends_modify _).mpr
  refine ⟨?_, fun _ => rfl⟩
  rw [s.held_withUsecases, UsecaseList.feedbackUsecases_setStreamConfigChanged]
  rfl

/-- The remaining assignments are to the flags and to the path. -/
theorem hifiFrame_setHifiDacConfigChanged (changed : Bool) :
    Moves (HifiFrame mayChange) True (setHifiDacConfigChanged changed) :=
  fun _ => ⟨rfl, fun _ => rfl⟩

theorem hifiFrame_changePath (path : HeadphonePath) (enabled : Bool) :
    Moves (HifiFrame mayChange) True (changePath path enabled) := by
  apply hifiFrame_bind
  · exact fun _ => ⟨rfl, fun _ => rfl⟩
  intro _
  apply hifiFrame_bind
  · apply hifiFrame_bind (moves_derefAdev HifiFrame.refl)
    exact fun _ _ => ⟨rfl, fun _ => rfl⟩
  · exact fun _ _ => ⟨rfl, fun _ => rfl⟩

/-- A routing leaves the feedback and the property alone. -/
theorem hifiFrame_setOutputDevices (device : DevicePtr) (devices : SndDevice) :
    Moves (HifiFrame mayChange) True (setOutputDevices device devices) := by
  have hchange : ∀ (path : HeadphonePath) (enabled : Bool),
      Moves (HifiFrame mayChange) True (do changePath path enabled; return (0 : Int)) :=
    fun path enabled =>
      hifiFrame_bind (hifiFrame_changePath path enabled) fun _ => hifiFrame_pure 0
  apply hifiFrame_bind
  · apply hifiFrame_bind hifiFrame_get
    intro s
    apply Moves.ite (hifiFrame_pure _)
    apply Moves.ite (hifiFrame_pure _)
    apply hifiFrame_bind hifiFrame_get
    intro t
    apply Moves.ite (hifiFrame_pure _)
    exact Moves.ite (hchange hifiPath true) (hchange defaultPath false)
  · intro rc
    apply hifiFrame_bind _ fun _ => hifiFrame_pure rc
    apply Moves.ite
    · exact fun _ => ⟨rfl, fun _ => rfl⟩
    · exact hifiFrame_pure _

theorem hifiFrame_propertyChanged (hchange : mayChange) (value : String) :
    Moves (HifiFrame mayChange) True (propertyChanged value) :=
  fun _ => ⟨rfl, fun hfixed => absurd hchange hfixed⟩

/-- What happens during `select_devices` changes the property only where that may happen. The
induction is on what happens. -/
theorem hifiFrame_reenter {reentries : List Reentry}
    (hreentries : ¬mayChange → reentries.all Reentry.isCall = true) :
    Moves (HifiFrame mayChange) True (reenter reentries) := by
  induction reentries with
  | nil => exact hifiFrame_pure _
  | cons reentry rest ih =>
      have hrest : Moves (HifiFrame mayChange) True (reenter rest) := by
        apply ih
        intro hfixed
        have hall := hreentries hfixed
        rw [List.all_cons, Bool.and_eq_true] at hall
        exact hall.2
      cases reentry with
      | setOutputDevices device devices =>
          exact hifiFrame_bind (hifiFrame_setOutputDevices device devices) fun _ => hrest
      | propertyChanged value =>
          have hchange : mayChange := by
            by_contra hfixed
            have hall := hreentries hfixed
            rw [List.all_cons, Bool.and_eq_true] at hall
            cases hall.1
          exact hifiFrame_bind (hifiFrame_propertyChanged hchange value) fun _ => hrest

/-- Switching a playback leaves the feedback alone. -/
theorem hifiFrame_switchPlayback (build : Build) {reentries : List Reentry}
    (hreentries : ¬mayChange → reentries.all Reentry.isCall = true) :
    Moves (HifiFrame mayChange) True (switchPlayback build reentries) := by
  apply hifiFrame_bind hifiFrame_get
  intro s
  cases s.usecaseList.usecases.find? (playsOnHeadphones build) with
  | none => exact hifiFrame_pure _
  | some usecase =>
      apply hifiFrame_bind (hifiFrame_setHifiDacConfigChanged true)
      intro _
      apply hifiFrame_bind (hifiFrame_setStreamConfigChanged usecase true)
      intro _
      apply hifiFrame_bind
      · exact hifiFrame_bind (hifiFrame_selecting usecase.id) fun _ => hifiFrame_reenter hreentries
      intro _
      apply hifiFrame_bind (hifiFrame_setHifiDacConfigChanged false)
      exact fun _ => hifiFrame_setStreamConfigChanged usecase false

end

theorem hifiFrame_setHifiDac (build : Build) (value : String) (answers : ParametersAnswers) :
    Moves (HifiFrame True) True (setHifiDac build value answers) := by
  have hset : ∀ text : String, Moves (HifiFrame True) True (do
      propertySet answers.propertySet text
      switchPlayback build answers.reentries
      return (0 : Int)) := by
    intro text
    apply hifiFrame_bind (Moves.ite (hifiFrame_propertyChanged trivial text) (hifiFrame_pure _))
    intro _
    apply hifiFrame_bind _ fun _ => hifiFrame_pure 0
    exact hifiFrame_switchPlayback build fun hfixed => absurd trivial hfixed
  apply hifiFrame_bind hifiFrame_get
  intro s
  apply Moves.ite (Moves.ite (hifiFrame_pure _) (hset "true"))
  exact Moves.ite (Moves.ite (hifiFrame_pure _) (hset "false")) (hifiFrame_pure _)

/-- `set_parameters` changes nothing of the feedback. -/
theorem hifiFrame_setParameters (build : Build) (device : DevicePtr) (parms : StrParms)
    (answers : ParametersAnswers) :
    Moves (HifiFrame True) True (setParameters build device parms answers) := by
  apply Moves.ite (hifiFrame_pure _)
  apply hifiFrame_bind hifiFrame_get
  intro s
  apply Moves.ite (hifiFrame_pure _)
  apply Moves.ite (hifiFrame_pure _)
  apply Moves.ite (hifiFrame_pure _)
  cases StrParms.getStr parms "hifi_dac" build.abi.sizeofPointer with
  | none => exact hifiFrame_pure _
  | some value => exact hifiFrame_setHifiDac build value answers

theorem hifiFrame_calibrate (device : DevicePtr) (adev : Bool) :
    Moves (HifiFrame True) True (calibrate device adev) := by
  apply Moves.ite (hifiFrame_pure _)
  apply hifiFrame_bind (moves_derefDevice HifiFrame.refl device)
  intro _
  apply hifiFrame_bind _ fun _ => hifiFrame_pure 0
  exact fun _ => ⟨rfl, fun _ => rfl⟩

/-! ## The audio HAL -/

/-- The usecases of the audio HAL are not those of the module. -/
theorem hifiFrame_startUsecase (usecase : Usecase) :
    Moves (HifiFrame True) True (startUsecase usecase) := by
  intro s
  apply (ends_modify _).mpr
  refine ⟨?_, fun _ => rfl⟩
  rw [s.held_withUsecases, UsecaseList.feedbackUsecases_addTail]
  rfl

/-- The audio HAL only takes usecases of its own. -/
theorem hifiFrame_stopUsecase (address : Nat) :
    Moves (HifiFrame True) True (stopUsecase address) := by
  intro s
  rw [stopUsecase, ends_bind, ends_get, ends_ite]
  refine ⟨fun hany => ?_, fun _ => HifiFrame.refl s⟩
  obtain ⟨u, hu, hmatch⟩ := List.any_eq_true.mp hany
  simp only [Bool.and_eq_true, decide_eq_true_eq] at hmatch
  have hforeign : u.isFeedback = false := by simp [Usecase.isFeedback, hmatch.2]
  have hremoved := s.usecaseList.feedbackUsecases_remove hu
  rw [hforeign, hmatch.1] at hremoved
  rw [ends_modify]
  refine ⟨?_, fun _ => rfl⟩
  rw [s.held_withUsecases]
  exact congrArg (Held.mk _ · _ _) hremoved

/-! ## Calls that return -/

/-- The pointer to the audio device is set. -/
def AudioState.HasAdev (s : AudioState) : Prop := s.lgeAmplifier.adev = true

/-- The pointer can be read through. -/
theorem proceeds_derefAdev : Proceeds AudioState.HasAdev derefAdev := by
  intro s hs
  refine ends_derefAdev_of (fun _ => hs) fun hnull => ?_
  exact absurd (hs.symm.trans hnull) Bool.noConfusion

/-- What does not assign the pointer leaves it set. -/
theorem proceeds_assign {f : AudioState → AudioState}
    (hf : ∀ s, (f s).lgeAmplifier.adev = s.lgeAmplifier.adev) :
    Proceeds AudioState.HasAdev (modify f : AmpM PUnit) :=
  Proceeds.modify fun s hs => (hf s).trans hs

theorem proceeds_closePcmOut : Proceeds AudioState.HasAdev closePcmOut := by
  apply Proceeds.bind Proceeds.get
  intro s
  apply Proceeds.ite _ (Proceeds.pure _)
  exact Proceeds.bind (proceeds_assign fun _ => rfl) fun _ => proceeds_assign fun _ => rfl

theorem proceeds_startFeedbackError (usecase : Usecase) (rc : Int) :
    Proceeds AudioState.HasAdev (startFeedbackError usecase rc) := by
  apply Proceeds.bind proceeds_closePcmOut
  intro _
  refine Proceeds.bind (proceeds_assign fun _ => rfl) fun _ => ?_
  refine Proceeds.bind (proceeds_assign fun _ => rfl) fun _ => ?_
  exact Proceeds.bind (proceeds_assign fun _ => rfl) fun _ => Proceeds.pure rc

theorem proceeds_openFeedbackPcm (usecase : Usecase) (answers : StartAnswers) :
    Proceeds AudioState.HasAdev (openFeedbackPcm usecase answers) := by
  apply Proceeds.ite (proceeds_startFeedbackError _ _)
  refine Proceeds.bind (proceeds_assign fun _ => rfl) fun _ => ?_
  refine Proceeds.bind (proceeds_assign fun _ => rfl) fun _ => ?_
  apply Proceeds.ite (proceeds_startFeedbackError _ _)
  refine Proceeds.bind (proceeds_assign fun _ => rfl) fun _ => ?_
  exact Proceeds.ite (proceeds_startFeedbackError _ _) (Proceeds.pure 0)

/-- A start of the feedback returns. -/
theorem proceeds_startFeedback (device : DevicePtr) (sndDevice : SndDevice)
    (answers : StartAnswers) :
    Proceeds AudioState.HasAdev (startFeedback device sndDevice answers) := by
  apply Proceeds.ite (Proceeds.pure _)
  apply Proceeds.bind Proceeds.get
  intro s
  apply Proceeds.ite (Proceeds.pure _)
  refine Proceeds.ite (Proceeds.bind (proceeds_assign fun _ => rfl) fun _ => Proceeds.pure _) ?_
  apply Proceeds.bind Proceeds.get
  intro t
  refine Proceeds.bind (proceeds_assign fun _ => rfl) fun _ => ?_
  apply Proceeds.bind proceeds_derefAdev
  intro _
  refine Proceeds.bind (proceeds_assign fun _ => rfl) fun _ => ?_
  refine Proceeds.bind (proceeds_assign fun _ => rfl) fun _ => ?_
  exact Proceeds.bind (proceeds_assign fun _ => rfl) fun _ => proceeds_openFeedbackPcm _ _

/-- A stop of the feedback returns. -/
theorem proceeds_stopFeedback (device : DevicePtr) (sndDevice : SndDevice) :
    Proceeds AudioState.HasAdev (stopFeedback device sndDevice) := by
  apply Proceeds.ite (Proceeds.pure _)
  apply Proceeds.ite (Proceeds.pure _)
  apply Proceeds.bind proceeds_closePcmOut
  intro _
  apply Proceeds.bind proceeds_derefAdev
  intro _
  refine Proceeds.bind (proceeds_assign fun _ => rfl) fun _ => ?_
  apply Proceeds.bind Proceeds.get
  intro s
  refine Proceeds.bind (proceeds_assign fun _ => rfl) fun _ => ?_
  cases s.usecaseList.getUsecase .audioSpkrCalibTx with
  | none => exact Proceeds.pure _
  | some usecase =>
      exact Proceeds.bind (proceeds_assign fun _ => rfl) fun _ => proceeds_assign fun _ => rfl

theorem proceeds_changePath (path : HeadphonePath) (enabled : Bool) :
    Proceeds AudioState.HasAdev (changePath path enabled) := by
  refine Proceeds.bind (proceeds_assign fun _ => rfl) fun _ => ?_
  apply Proceeds.bind
  · exact Proceeds.bind proceeds_derefAdev fun _ => proceeds_assign fun _ => rfl
  · exact fun _ => proceeds_assign fun _ => rfl

/-- A routing returns. -/
theorem proceeds_setOutputDevices (device : DevicePtr) (devices : SndDevice) :
    Proceeds AudioState.HasAdev (setOutputDevices device devices) := by
  have hchange : ∀ (path : HeadphonePath) (enabled : Bool),
      Proceeds AudioState.HasAdev (do changePath path enabled; return (0 : Int)) :=
    fun path enabled => Proceeds.bind (proceeds_changePath path enabled) fun _ => Proceeds.pure 0
  apply Proceeds.bind
  · apply Proceeds.bind Proceeds.get
    intro s
    apply Proceeds.ite (Proceeds.pure _)
    apply Proceeds.ite (Proceeds.pure _)
    apply Proceeds.bind Proceeds.get
    intro t
    apply Proceeds.ite (Proceeds.pure _)
    exact Proceeds.ite (hchange hifiPath true) (hchange defaultPath false)
  · intro rc
    apply Proceeds.bind _ fun _ => Proceeds.pure rc
    exact Proceeds.ite (proceeds_assign fun _ => rfl) (Proceeds.pure _)

/-- What happens during `select_devices` returns, one call after the other. -/
theorem proceeds_reenter (reentries : List Reentry) :
    Proceeds AudioState.HasAdev (reenter reentries) := by
  induction reentries with
  | nil => exact Proceeds.pure _
  | cons reentry rest ih =>
      cases reentry with
      | setOutputDevices device devices =>
          exact Proceeds.bind (proceeds_setOutputDevices device devices) fun _ => ih
      | propertyChanged value => exact Proceeds.bind (proceeds_assign fun _ => rfl) fun _ => ih

theorem proceeds_switchPlayback (build : Build) (reentries : List Reentry) :
    Proceeds AudioState.HasAdev (switchPlayback build reentries) := by
  apply Proceeds.bind Proceeds.get
  intro s
  cases s.usecaseList.usecases.find? (playsOnHeadphones build) with
  | none => exact Proceeds.pure _
  | some usecase =>
      refine Proceeds.bind (proceeds_assign fun _ => rfl) fun _ => ?_
      refine Proceeds.bind (proceeds_assign fun _ => rfl) fun _ => ?_
      apply Proceeds.bind
      · exact Proceeds.bind (proceeds_assign fun _ => rfl) fun _ => proceeds_reenter reentries
      intro _
      exact Proceeds.bind (proceeds_assign fun _ => rfl) fun _ => proceeds_assign fun _ => rfl

/-- Switching the DAC returns. -/
theorem proceeds_setHifiDac (build : Build) (value : String) (answers : ParametersAnswers) :
    Proceeds AudioState.HasAdev (setHifiDac build value answers) := by
  have hset : ∀ text : String, Proceeds AudioState.HasAdev (do
      propertySet answers.propertySet text
      switchPlayback build answers.reentries
      return (0 : Int)) := by
    intro text
    refine Proceeds.bind (Proceeds.ite (proceeds_assign fun _ => rfl) (Proceeds.pure _)) fun _ => ?_
    exact Proceeds.bind (proceeds_switchPlayback build _) fun _ => Proceeds.pure 0
  apply Proceeds.bind Proceeds.get
  intro s
  apply Proceeds.ite (Proceeds.ite (Proceeds.pure _) (hset "true"))
  exact Proceeds.ite (Proceeds.ite (Proceeds.pure _) (hset "false")) (Proceeds.pure _)

/-- The pointers are set that a call reads through without a look at them. -/
def Op.PointersSet (s : AudioState) : Op → Prop
  | .setOutputDevices .. => s.HasAdev
  | .setFeedback device adev .. => device = .opened ∧ adev = true
  | .calibrate device _ => device = .opened
  | .setParameters .. | .propertyChanged _ | .startUsecase _ | .stopUsecase _ => True

/-- `set_parameters` looks at both pointers first. -/
theorem returns_setParameters (build : Build) (device : DevicePtr) (parms : StrParms)
    (answers : ParametersAnswers) (s : AudioState) :
    stops (setParameters build device parms answers) s = false := by
  apply @stops_eq_false _ _ _ _ fun _ _ => True
  rw [setParameters, ends_ite]
  refine ⟨fun _ => trivial, fun _ => ?_⟩
  rw [ends_bind, ends_get, ends_ite]
  refine ⟨fun _ => trivial, fun hadev => ?_⟩
  rw [ends_ite]
  refine ⟨fun _ => trivial, fun _ => ?_⟩
  rw [ends_ite]
  refine ⟨fun _ => trivial, fun _ => ?_⟩
  cases StrParms.getStr parms "hifi_dac" build.abi.sizeofPointer with
  | none => trivial
  | some value =>
      exact (proceeds_setHifiDac build value answers s (Bool.eq_true_of_not_eq_false hadev)).mono
        (fun _ _ _ => trivial) fun _ _ h => h

/-- Nothing but a null pointer keeps a call from returning. -/
theorem returns_of_pointersSet (build : Build) {s : AudioState} {op : Op} (h : op.PointersSet s) :
    Returns build s op := by
  cases op with
  | setOutputDevices device devices =>
      exact stops_eq_false (proceeds_setOutputDevices device devices s h)
  | setParameters device parms answers => exact returns_setParameters build device parms answers s
  | setFeedback device adev devices enable answers =>
      obtain ⟨rfl, rfl⟩ := h
      have hfeedback : Proceeds AudioState.HasAdev (if enable then do
          let _ ← startFeedback .opened devices answers
          return (0 : Int)
        else do
          stopFeedback .opened devices
          return 0) := by
        apply Proceeds.ite
        · exact Proceeds.bind (proceeds_startFeedback _ devices answers) fun _ => Proceeds.pure 0
        · exact Proceeds.bind (proceeds_stopFeedback _ devices) fun _ => Proceeds.pure 0
      exact stops_eq_false (hfeedback (s.withAmplifier { s.lgeAmplifier with adev := true }) rfl)
  | calibrate device adev =>
      subst h
      cases adev <;> rfl
  | propertyChanged value => rfl
  | startUsecase usecase => rfl
  | stopUsecase address =>
      rw [Returns, Op.call]
      apply @stops_eq_false _ _ _ _ fun _ _ => True
      rw [ends_bind, stopUsecase, ends_bind, ends_get, ends_ite]
      exact ⟨fun _ => trivial, fun _ => trivial⟩

end LgeHardware.Amplifier
