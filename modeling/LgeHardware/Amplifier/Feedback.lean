import LgeHardware.Amplifier.Frame

/-! # The speaker feedback keeps its resources balanced

A start either acquires everything or gives back what it acquired. A stop gives back
everything only if the feedback runs, and if the usecase it finds in the list is the one
that the start has put there.
-/

namespace LgeHardware.Amplifier

open LgeHardware.Foundation

section

variable {s : AudioState} {stop : Unit → AudioState → Prop}

/-! ## Starting -/

/-- Closing the capture, which does nothing where none runs. -/
theorem ends_closePcmOut {post : PUnit → AudioState → Prop} :
    Ends closePcmOut s post stop ↔
      if s.running then
        post ⟨⟩ ((s.logging .pcmClose).withAmplifier { s.lgeAmplifier with pcmOut := none })
      else post ⟨⟩ s := by
  rw [closePcmOut, ends_bind, ends_get, AudioState.running]
  cases s.lgeAmplifier.pcmOut with
  | none => rfl
  | some pcm => rfl

/-- Afterwards the PCM is closed, and the rest is as before. -/
theorem ends_closePcmOut_held {post : PUnit → AudioState → Prop}
    (hpost : ∀ t : AudioState,
      t.held = ⟨false, s.held.usecases, s.held.sndDevice, s.held.audioRoute⟩ →
      t.usecaseList = s.usecaseList → t.lgeAmplifier.adev = s.lgeAmplifier.adev → post ⟨⟩ t) :
    Ends closePcmOut s post stop := by
  rw [ends_closePcmOut]
  cases hrunning : s.running with
  | true =>
      apply hpost
      · rw [AudioState.held_withAmplifier, s.held_logging_other rfl rfl]
        rfl
      · rfl
      · rfl
  | false =>
      apply hpost
      · rw [AudioState.held, hrunning]
      · rfl
      · rfl

/-- The usecase goes, and the device and the route are disabled. -/
theorem ends_startFeedbackError (address : Nat) (rc : Int) :
    Ends (startFeedbackError (feedbackUsecase address) rc) s
      (fun r t => r = rc ∧ t.usecaseList = s.usecaseList.remove address ∧
        t.held = ⟨false, (s.usecaseList.remove address).feedbackUsecases,
          s.held.sndDevice - 1, s.held.audioRoute - 1⟩) stop := by
  rw [startFeedbackError, ends_bind]
  apply ends_closePcmOut_held
  intro t hheld hlist _
  rw [ends_bind, listRemove, ends_modify, ends_bind, calling, ends_modify, ends_bind, calling,
    ends_modify, ends_pure]
  refine ⟨rfl, congrArg (UsecaseList.remove · address) hlist, ?_⟩
  simp only [inSndDevice_feedbackUsecase, AudioState.held_disableAudioRoute,
    AudioState.held_disableSndDevice, AudioState.held_withUsecases, isFeedback_feedbackUsecase,
    hheld, hlist, if_true]
  rfl

/-- What a start does: nothing that counts, or it acquires everything. -/
inductive Starts (s : AudioState) : Int → AudioState → Prop
  | same (rc : Int) {t : AudioState} (hheld : t.held = s.held)
    (hlist : t.usecaseList = s.usecaseList) : Starts s rc t
  | acquired {t : AudioState} (hstopped : s.running = false)
    (hheld : t.held = ⟨true, s.held.usecases + 1, s.held.sndDevice + 1, s.held.audioRoute + 1⟩) :
    Starts s 0 t

/-- The state in which a start calls the platform for the PCM. -/
def AudioState.enabling (s : AudioState) : AudioState :=
  let usecase := feedbackUsecase s.usecaseList.fresh
  (((s.withAmplifier { s.lgeAmplifier with usecaseTx := some usecase }).withUsecases
    (s.usecaseList.addTail usecase)).logging (.enableSndDevice usecase.inSndDevice)).logging
      (.enableAudioRoute usecase)

/-- What is held once the device and the route of the feedback are enabled. -/
theorem held_enabling (s : AudioState) :
    s.enabling.held =
      ⟨s.running, s.held.usecases + 1, s.held.sndDevice + 1, s.held.audioRoute + 1⟩ := by
  simp only [AudioState.enabling, inSndDevice_feedbackUsecase, AudioState.held_enableAudioRoute,
    AudioState.held_enableSndDevice, AudioState.held_withUsecases,
    UsecaseList.feedbackUsecases_addTail, isFeedback_feedbackUsecase, if_true]
  rfl

/-- The error path gives back what was acquired. -/
theorem starts_of_error {t : AudioState} (hstopped : s.running = false)
    (hlist : t.usecaseList = s.usecaseList.addTail (feedbackUsecase s.usecaseList.fresh))
    (hdevice : t.held.sndDevice = s.held.sndDevice + 1)
    (hroute : t.held.audioRoute = s.held.audioRoute + 1) (rc : Int) :
    Ends (startFeedbackError (feedbackUsecase s.usecaseList.fresh) rc) t (Starts s) stop := by
  have hremoved : t.usecaseList.remove s.usecaseList.fresh = s.usecaseList := by
    rw [hlist, UsecaseList.remove_addTail]
  apply (ends_startFeedbackError s.usecaseList.fresh rc).mono
  · intro r u hu
    obtain ⟨-, hulist, huheld⟩ := hu
    rw [hremoved] at hulist huheld
    apply Starts.same r _ hulist
    rw [huheld, hdevice, hroute, add_sub_cancel_right, add_sub_cancel_right, ← hstopped]
    rfl
  · exact fun _ _ h => h

/-- The capture runs, or everything is given back. -/
theorem ends_openFeedbackPcm (hstopped : s.running = false) (answers : StartAnswers) :
    Ends (openFeedbackPcm (feedbackUsecase s.usecaseList.fresh) answers) s.enabling (Starts s)
      stop := by
  have herror : ∀ t : AudioState, t.usecaseList = s.enabling.usecaseList →
      t.held.sndDevice = s.enabling.held.sndDevice →
      t.held.audioRoute = s.enabling.held.audioRoute → ∀ rc,
      Ends (startFeedbackError (feedbackUsecase s.usecaseList.fresh) rc) t (Starts s) stop := by
    intro t hlist hdevice hroute rc
    rw [held_enabling] at hdevice hroute
    exact starts_of_error hstopped hlist hdevice hroute rc
  rw [openFeedbackPcm, ends_ite]
  refine ⟨fun _ => herror _ rfl rfl rfl _, fun _ => ?_⟩
  rw [ends_bind, calling, ends_modify, ends_bind, setPcmOut, ends_modify]
  generalize hopen : (s.enabling.logging (.pcmOpen answers.platformGetPcmDeviceId
    pcmConfigLgeAmplifier)).withAmplifier _ = t
  have hheld : t.held =
      ⟨true, s.held.usecases + 1, s.held.sndDevice + 1, s.held.audioRoute + 1⟩ := by
    rw [← hopen, AudioState.held_withAmplifier, AudioState.held_logging_other _ rfl rfl,
      held_enabling]
    rfl
  have hlist : t.usecaseList = s.enabling.usecaseList := by
    rw [← hopen]
    rfl
  have hlogged : (t.logging .pcmStart).held = t.held := t.held_logging_other rfl rfl
  have hdevice : t.held.sndDevice = s.enabling.held.sndDevice := by rw [hheld, held_enabling]
  have hroute : t.held.audioRoute = s.enabling.held.audioRoute := by rw [hheld, held_enabling]
  rw [ends_ite]
  refine ⟨fun _ => herror t hlist hdevice hroute _, fun _ => ?_⟩
  rw [ends_bind, calling, ends_modify, ends_ite]
  refine ⟨fun _ => ?_, fun _ => .acquired hstopped (hlogged.trans hheld)⟩
  apply herror (t.logging .pcmStart) hlist
  · rw [hlogged, hdevice]
  · rw [hlogged, hroute]

/-- A start ends in one of the ways of `Starts`, and crashes only without an audio device. -/
theorem ends_startFeedback (device : DevicePtr) (sndDevice : SndDevice) (answers : StartAnswers) :
    Ends (startFeedback device sndDevice answers) s (Starts s)
      fun _ _ => s.lgeAmplifier.adev = false := by
  have hsame : ∀ rc, Starts s rc s := fun rc => .same rc rfl rfl
  rw [startFeedback, ends_ite]
  refine ⟨fun _ => hsame _, fun _ => ?_⟩
  rw [ends_bind, ends_get, ends_ite]
  refine ⟨fun _ => hsame _, fun hstart => ?_⟩
  have hstopped : s.running = false := by
    rw [← Bool.not_eq_true]
    exact fun h => hstart (.inl h)
  rw [ends_ite]
  refine ⟨fun _ => .same _ rfl rfl, fun _ => ?_⟩
  rw [ends_bind, ends_get, ends_bind, setUsecaseTx, ends_modify, ends_bind]
  apply ends_derefAdev_of
  · intro _
    rw [ends_bind, ends_modify, ends_bind, calling, ends_modify, ends_bind, calling, ends_modify]
    exact ends_openFeedbackPcm hstopped answers
  · exact fun h => h

/-! ## Stopping -/

/-- The usecase that a stop finds in the list is one that the module created. -/
def AudioState.findsOwn (s : AudioState) : Bool :=
  (s.usecaseList.getUsecase .audioSpkrCalibTx).any Usecase.isFeedback

/-- What a stop gives back: the device in any case, the usecase with its route only if it
finds its own. -/
structure GivesBack (s t : AudioState) : Prop where
  pcm : t.held.pcm = false
  usecases : t.held.usecases + (if s.findsOwn then 1 else 0) = s.held.usecases
  sndDevice : t.held.sndDevice = s.held.sndDevice - 1
  audioRoute : t.held.audioRoute = s.held.audioRoute - if s.findsOwn then 1 else 0

/-- The usecase that is found goes with its route. -/
theorem ends_freeUsecase {t : AudioState}
    (hheld : t.held = ⟨false, s.held.usecases, s.held.sndDevice - 1, s.held.audioRoute⟩)
    (hlist : t.usecaseList = s.usecaseList) :
    Ends (freeUsecase (s.usecaseList.getUsecase .audioSpkrCalibTx)) t (fun _ => GivesBack s)
      stop := by
  cases hfound : s.usecaseList.getUsecase .audioSpkrCalibTx with
  | none =>
      have hown : s.findsOwn = false := by
        rw [AudioState.findsOwn, hfound]
        rfl
      rw [freeUsecase, ends_pure]
      constructor
      · rw [hheld]
      · simp [hown, hheld]
      · rw [hheld]
      · simp [hown, hheld]
  | some usecase =>
      have hmem : usecase ∈ s.usecaseList.usecases := List.mem_of_find?_eq_some hfound
      have hown : s.findsOwn = usecase.isFeedback := by
        rw [AudioState.findsOwn, hfound]
        rfl
      have hremoved := s.usecaseList.feedbackUsecases_remove hmem
      rw [freeUsecase, ends_bind, listRemove, ends_modify, calling, ends_modify, hlist]
      constructor
      · rw [AudioState.held_disableAudioRoute, AudioState.held_withUsecases, hheld]
      · rw [AudioState.held_disableAudioRoute, AudioState.held_withUsecases, hown]
        exact hremoved
      · rw [AudioState.held_disableAudioRoute, AudioState.held_withUsecases, hheld]
      · rw [AudioState.held_disableAudioRoute, AudioState.held_withUsecases, hheld, hown]

/-- A stop for a speaker gives back what a start holds. -/
theorem ends_stopFeedback {sndDevice : SndDevice} (hspeaker : isSpeaker sndDevice = true) :
    Ends (stopFeedback .opened sndDevice) s (fun _ => GivesBack s)
      fun _ _ => s.lgeAmplifier.adev = false := by
  rw [stopFeedback, if_neg nofun, if_neg (by simp [hspeaker]), ends_bind]
  apply ends_closePcmOut_held
  intro t hheld hlist hadev
  rw [ends_bind]
  apply ends_derefAdev_of
  · intro _
    rw [ends_bind, calling, ends_modify, ends_bind, ends_get, ends_bind, setUsecaseTx, ends_modify]
    have hsame : (t.logging (.disableSndDevice (some .inCaptureViFeedback))).usecaseList =
        s.usecaseList := hlist
    rw [hsame]
    apply ends_freeUsecase
    · change (t.logging (.disableSndDevice (some .inCaptureViFeedback))).held = _
      rw [t.held_disableSndDevice, hheld]
    · exact hlist
  · rw [hadev]
    exact fun h => h

end

/-! ## Calls of the audio HAL -/

variable {s t : AudioState}

def AudioState.withAdev (s : AudioState) (adev : Bool) : AudioState :=
  s.withAmplifier { s.lgeAmplifier with adev := adev }

/-- A call that stops the feedback of a speaker. -/
def Op.stopsSpeaker : Op → Bool
  | .setFeedback .opened _ devices false _ => isSpeaker devices
  | _ => false

/-- A stop for a speaker comes while the feedback runs, and finds the usecase that the start
has put into the list. -/
def StopsOwn (s : AudioState) (op : Op) : Prop :=
  op.stopsSpeaker = true → s.running = true ∧ s.findsOwn = true

instance (s : AudioState) (op : Op) : Decidable (StopsOwn s op) :=
  inferInstanceAs (Decidable (_ → _))

/-- The start that the call makes returns an error. -/
def FailsToStart (s : AudioState) : Op → Prop
  | .setFeedback .opened adev devices true answers =>
      ∃ rc, returned (startFeedback .opened devices answers) (s.withAdev adev) = some rc ∧ rc ≠ 0
  | _ => False

/-- However a start ends, what is held stays balanced. -/
theorem Starts.balanced {rc : Int} (h : Starts s rc t) (hs : s.Balanced) : t.Balanced := by
  rw [AudioState.balanced_iff] at hs ⊢
  cases h with
  | same rc hheld hlist => rwa [hheld]
  | acquired hstopped hheld =>
      have hnothing : s.held = .nothing := by
        apply hs.resolve_left
        intro hall
        have hpcm : s.running = true := congrArg Held.pcm hall
        rw [hstopped] at hpcm
        cases hpcm
      left
      rw [hheld, hnothing]
      rfl

/-- A stop leaves the resources balanced exactly if there was something to stop, and it
found it. -/
theorem GivesBack.balanced_iff (h : GivesBack s t) (hs : s.Balanced) :
    t.Balanced ↔ s.running = true ∧ s.findsOwn = true := by
  have hrunning : s.running = s.held.pcm := rfl
  obtain ⟨hpcm, husecases, hdevice, hroute⟩ := h
  rw [AudioState.balanced_iff] at hs
  rw [AudioState.balanced_iff, hrunning]
  generalize t.held = held at hpcm husecases hdevice hroute ⊢
  obtain ⟨pcm, usecases, sndDevice, audioRoute⟩ := held
  cases hs with
  | inl heverything =>
      simp only [heverything, Held.everything] at hpcm husecases hdevice hroute ⊢
      cases hown : s.findsOwn with
      | true =>
          simp only [hown, if_true] at husecases hroute
          refine iff_of_true (.inr ?_) ⟨trivial, rfl⟩
          rw [hpcm, hdevice, hroute, Nat.succ_injective husecases]
          rfl
      | false =>
          simp only [hown, Bool.false_eq_true, if_false, add_zero] at husecases
          refine iff_of_false (fun hbalanced => ?_) (by simp)
          cases hbalanced with
          | inl hheld =>
              rw [hpcm] at hheld
              cases hheld
          | inr hheld =>
              rw [husecases] at hheld
              cases hheld
  | inr hnothing =>
      simp only [hnothing, Held.nothing] at hpcm hdevice ⊢
      refine iff_of_false (fun hbalanced => ?_) (by simp)
      rw [hpcm, hdevice] at hbalanced
      cases hbalanced with
      | inl hheld => cases hheld
      | inr hheld => cases hheld

/-! ## One call -/

/-- Switching the feedback on is a start, of which only the code is lost. -/
theorem ends_setFeedback_start (adev : Bool) (devices : SndDevice) (answers : StartAnswers)
    (s : AudioState) :
    Ends (setFeedback .opened adev devices true answers) s
      (fun _ t => ∃ rc,
        returned (startFeedback .opened devices answers) (s.withAdev adev) = some rc ∧
          Starts (s.withAdev adev) rc t) fun _ _ => adev = false := by
  have hstart := (ends_returned (startFeedback .opened devices answers) (s.withAdev adev)).and
    (ends_startFeedback .opened devices answers)
  have hset : Ends (do
      let _ ← startFeedback .opened devices answers
      return (0 : Int)) (s.withAdev adev)
      (fun _ t => ∃ rc,
        returned (startFeedback .opened devices answers) (s.withAdev adev) = some rc ∧
          Starts (s.withAdev adev) rc t) fun _ _ => adev = false := by
    rw [ends_bind]
    exact hstart.mono (fun rc t h => ⟨rc, h⟩) fun _ _ h => h.2
  exact hset

/-- Switching the feedback off for a speaker is a stop. -/
theorem ends_setFeedback_stop (adev : Bool) {devices : SndDevice} (answers : StartAnswers)
    (hspeaker : isSpeaker devices = true) (s : AudioState) :
    Ends (setFeedback .opened adev devices false answers) s
      (fun _ => GivesBack (s.withAdev adev)) fun _ _ => adev = false := by
  have hset : Ends (do
      stopFeedback .opened devices
      return (0 : Int)) (s.withAdev adev) (fun _ => GivesBack (s.withAdev adev))
      fun _ _ => adev = false := by
    rw [ends_bind]
    exact (ends_stopFeedback hspeaker).mono (fun _ _ h => h) fun _ _ h => h
  exact hset

/-- Balance depends on what is held only. -/
theorem balanced_of_held (h : t.held = s.held) (hs : s.Balanced) : t.Balanced := by
  rwa [AudioState.balanced_iff, h, ← AudioState.balanced_iff]

/-- Everything but a stop for a speaker keeps the resources balanced. -/
theorem balanced_of_not_stops (build : Build) (hs : s.Balanced) {op : Op}
    (hreturns : Returns build s op) (hstops : op.stopsSpeaker = false) :
    (step build s op).Balanced := by
  have hframe : ∀ x : AmpM Int, Moves (HifiFrame True) True x → (final x s).Balanced :=
    fun x hx => balanced_of_held (hx.final s).held hs
  cases op with
  | setOutputDevices device devices => exact hframe _ (hifiFrame_setOutputDevices device devices)
  | setParameters device parms answers =>
      exact hframe _ (hifiFrame_setParameters build device parms answers)
  | setFeedback device adev devices enable answers =>
      cases device with
      | null => cases hreturns
      | opened =>
          cases enable with
          | true =>
              have hends : Ends (setFeedback .opened adev devices true answers) s
                  (fun _ t => t.Balanced) fun _ _ => adev = false := by
                apply (ends_setFeedback_start adev devices answers s).mono
                · exact fun _ t ⟨rc, _, hstarts⟩ => hstarts.balanced hs
                · exact fun _ _ h => h
              exact hends.of_returns hreturns
          | false =>
              have hends : Ends (setFeedback .opened adev devices false answers) s
                  (fun _ t => t.Balanced) fun _ _ => adev = false := by
                have hquiet : isSpeaker devices = false := hstops
                have hstop : Ends (do
                    stopFeedback .opened devices
                    return (0 : Int)) (s.withAdev adev) (fun _ t => t.Balanced)
                    fun _ _ => adev = false := by
                  rw [ends_bind, stopFeedback, if_neg nofun, if_pos hquiet]
                  exact hs
                exact hstop
              exact hends.of_returns hreturns
  | calibrate device adev => exact hframe _ (hifiFrame_calibrate device adev)
  | propertyChanged value => exact hs
  | startUsecase usecase =>
      exact hframe _ (hifiFrame_bind (hifiFrame_startUsecase usecase) fun _ => hifiFrame_pure 0)
  | stopUsecase address =>
      exact hframe _ (hifiFrame_bind (hifiFrame_stopUsecase address) fun _ => hifiFrame_pure 0)

/-- The operations that stop the feedback of a speaker. -/
theorem Op.eq_of_stopsSpeaker {op : Op} (h : op.stopsSpeaker = true) :
    ∃ adev devices answers, isSpeaker devices = true ∧
      op = .setFeedback .opened adev devices false answers := by
  unfold Op.stopsSpeaker at h
  split at h
  · exact ⟨_, _, _, h, rfl⟩
  · cases h

/-- A call keeps the resources balanced exactly if it is no stop that finds nothing to stop. -/
theorem balanced_step_iff (build : Build) (hs : s.Balanced) {op : Op}
    (hreturns : Returns build s op) : (step build s op).Balanced ↔ StopsOwn s op := by
  cases hstops : op.stopsSpeaker with
  | false =>
      refine iff_of_true (balanced_of_not_stops build hs hreturns hstops) fun h => ?_
      rw [hstops] at h
      cases h
  | true =>
      obtain ⟨adev, devices, answers, hspeaker, rfl⟩ := Op.eq_of_stopsSpeaker hstops
      have hends : Ends (setFeedback .opened adev devices false answers) s
          (fun _ t => t.Balanced ↔ s.running = true ∧ s.findsOwn = true)
          fun _ _ => adev = false := by
        apply (ends_setFeedback_stop adev answers hspeaker s).mono
        · exact fun _ t hgives => hgives.balanced_iff hs
        · exact fun _ _ h => h
      have hiff : (step build s (.setFeedback .opened adev devices false answers)).Balanced ↔
          s.running = true ∧ s.findsOwn = true := hends.of_returns hreturns
      rw [hiff, StopsOwn]
      exact ⟨fun h _ => h, fun h => h hstops⟩

/-- A start that fails leaves everything as it was. -/
theorem held_of_fails (build : Build) {op : Op} (hreturns : Returns build s op)
    (hfails : FailsToStart s op) :
    (step build s op).held = s.held ∧ (step build s op).usecaseList = s.usecaseList := by
  unfold FailsToStart at hfails
  split at hfails
  · rename_i adev devices answers
    obtain ⟨rc, hreturned, hrc⟩ := hfails
    have hends : Ends (setFeedback .opened adev devices true answers) s
        (fun _ t => t.held = s.held ∧ t.usecaseList = s.usecaseList) fun _ _ => adev = false := by
      apply (ends_setFeedback_start adev devices answers s).mono
      · intro _ t hstart
        obtain ⟨code, hcode, hstarts⟩ := hstart
        rw [hreturned, Option.some.injEq] at hcode
        cases hstarts with
        | same rc hheld hlist => exact ⟨hheld, hlist⟩
        | acquired hstopped hheld => exact absurd hcode hrc
      · exact fun _ _ h => h
    exact hends.of_returns hreturns
  · cases hfails

/-! ## Runs -/

/-- A device just opened holds nothing. -/
theorem balanced_opened (hifiEnabled : String) : (opened {} hifiEnabled).Balanced := by
  rw [AudioState.balanced_iff]
  right
  rfl

/-- In every run of calls that return, what is held for the feedback is balanced throughout exactly
if each stop for a speaker comes while the feedback runs and finds its own usecase, and a start that
fails leaves what is held. -/
theorem feedback_balanced_iff (build : Build) {interface name : String} {calloc : Bool}
    {device : LgeAmplifierDevice} (hopen : moduleOpen interface name calloc = .ok device)
    (hifiEnabled : String) {ops : List Op}
    (hreturns : Admits (step build) (Returns build) (opened device hifiEnabled) ops) :
    (Throughout (step build) AudioState.Balanced (opened device hifiEnabled) ops ↔
        Admits (step build) StopsOwn (opened device hifiEnabled) ops) ∧
      Admits (step build)
        (fun s op => FailsToStart s op → (step build s op).held = s.held ∧
          (step build s op).usecaseList = s.usecaseList) (opened device hifiEnabled) ops := by
  rw [moduleOpen_eq_ok hopen] at hreturns ⊢
  constructor
  · apply hreturns.throughout_iff fun _ => True
    · exact fun _ _ _ _ _ => trivial
    · exact fun s op _ hop hs => balanced_step_iff build hs hop
    · trivial
    · exact balanced_opened hifiEnabled
  · exact hreturns.mono fun s op hop hfails => held_of_fails build hop hfails

/-- A start next to a playback, a second start, a stop, and a start whose PCM fails. -/
def feedbackRun : List Op :=
  [.startUsecase { id := .other 0, type := .pcmPlayback },
    .setFeedback .opened true .outSpeaker true {},
    .setFeedback .opened true .outVoiceSpeaker true {},
    .setFeedback .opened true .outSpeaker false {},
    .setFeedback .opened true .outSpeaker true { pcmStart := -1 }]

theorem feedback_balanced_run :
    Throughout (step {}) AudioState.Balanced (opened {} "") feedbackRun :=
  have hopen : moduleOpen "audio" "audio" true = .ok {} := rfl
  have hreturns : Admits (step {}) (Returns {}) (opened {} "") feedbackRun := by decide +kernel
  (feedback_balanced_iff {} hopen "" hreturns).1.mpr (by decide +kernel)

/-- A stop that nothing was started for disables the sound device all the same. -/
theorem feedback_stop_unbalanced :
    moduleOpen "audio" "audio" true = .ok {} ∧
      Admits (step {}) (Returns {}) (opened {} "")
        [.setFeedback .opened true .outSpeaker false {}] ∧
      (run (step {}) (opened {} "") [.setFeedback .opened true .outSpeaker false {}]).held =
        ⟨false, 0, -1, 0⟩ ∧
      ¬Throughout (step {}) AudioState.Balanced (opened {} "")
        [.setFeedback .opened true .outSpeaker false {}] :=
  ⟨rfl, by decide +kernel, by decide +kernel, by decide +kernel⟩

end LgeHardware.Amplifier
