import Mathlib.Algebra.Group.Int.Defs
import LgeHardware.Amplifier.LgeAmplifier

/-! # What the module holds for the speaker feedback

While the feedback runs, the module holds an open PCM, a usecase in the list of the audio
HAL, an enabled sound device and an enabled audio route. Otherwise it holds none of them.
-/

namespace LgeHardware.Amplifier

open LgeHardware.Foundation

/-! ## What the module holds -/

/-- A usecase for the feedback that the module created. -/
def Usecase.isFeedback (u : Usecase) : Bool := u.owner = .amplifier && u.id = .audioSpkrCalibTx

def Call.enablesDevice (c : Call) : Bool := c = .enableSndDevice (some .inCaptureViFeedback)

def Call.disablesDevice (c : Call) : Bool := c = .disableSndDevice (some .inCaptureViFeedback)

def Call.enablesRoute : Call → Bool
  | .enableAudioRoute usecase => usecase.isFeedback
  | _ => false

def Call.disablesRoute : Call → Bool
  | .disableAudioRoute usecase => usecase.isFeedback
  | _ => false

theorem inSndDevice_feedbackUsecase (address : Nat) :
    (feedbackUsecase address).inSndDevice = some .inCaptureViFeedback := rfl

theorem isFeedback_feedbackUsecase (address : Nat) :
    (feedbackUsecase address).isFeedback = true := rfl

/-! ## Usecases in the list -/

namespace UsecaseList

/-- The usecases for the feedback that the module created and did not free. -/
def feedbackUsecases (l : UsecaseList) : Nat := l.usecases.countP Usecase.isFeedback

/-- A usecase counts if it is one of the module. -/
theorem feedbackUsecases_addTail (l : UsecaseList) (u : Usecase) :
    (l.addTail u).feedbackUsecases = l.feedbackUsecases + if u.isFeedback then 1 else 0 := by
  rw [feedbackUsecases, addTail, List.countP_append, List.countP_singleton]
  rfl

/-- Of usecases at different addresses, only one goes. -/
theorem countP_filter_address {usecases : List Usecase}
    (hdistinct : (usecases.map Usecase.address).Nodup) {u : Usecase} (hu : u ∈ usecases) :
    (usecases.filter (·.address ≠ u.address)).countP Usecase.isFeedback +
      (if u.isFeedback then 1 else 0) = usecases.countP Usecase.isFeedback := by
  induction usecases with
  | nil => cases hu
  | cons v rest ih =>
      rw [List.map_cons, List.nodup_cons] at hdistinct
      by_cases hv : v.address = u.address
      · have hrest : rest.filter (·.address ≠ u.address) = rest := by
          apply List.filter_eq_self.mpr
          intro w hw
          have hne : w.address ≠ u.address := fun h =>
            hdistinct.1 (List.mem_map.mpr ⟨w, hw, h.trans hv.symm⟩)
          exact decide_eq_true hne
        have huv : u = v := by
          cases List.mem_cons.mp hu with
          | inl h => exact h
          | inr h => exact absurd (List.mem_map.mpr ⟨u, h, hv.symm⟩) hdistinct.1
        rw [List.filter_cons_of_neg (by simp [hv]), hrest, huv, List.countP_cons]
      · have hmem : u ∈ rest := by
          cases List.mem_cons.mp hu with
          | inl h => exact absurd (congrArg Usecase.address h.symm) hv
          | inr h => exact h
        have hcount := ih hdistinct.2 hmem
        rw [List.filter_cons_of_pos (by simp [hv]), List.countP_cons, List.countP_cons]
        omega

/-- A usecase that is removed counts no more. -/
theorem feedbackUsecases_remove (l : UsecaseList) {u : Usecase} (hu : u ∈ l.usecases) :
    (l.remove u.address).feedbackUsecases + (if u.isFeedback then 1 else 0) =
      l.feedbackUsecases :=
  countP_filter_address l.distinct hu

/-- A usecase just added is gone again once it is removed. -/
theorem remove_addTail (l : UsecaseList) (u : Usecase) :
    (l.addTail u).remove l.fresh = l := by
  have hold : l.usecases.filter (·.address ≠ l.fresh) = l.usecases := by
    apply List.filter_eq_self.mpr
    intro w hw
    have hne : w.address ≠ l.fresh := fun h => l.fresh_notMem (List.mem_map.mpr ⟨w, hw, h⟩)
    exact decide_eq_true hne
  ext1
  change (l.usecases ++ [{ u with address := l.fresh }]).filter (·.address ≠ l.fresh) = l.usecases
  rw [List.filter_append, hold]
  simp

/-- The flag of a stream makes no difference to whose the usecase is. -/
theorem feedbackUsecases_setStreamConfigChanged (l : UsecaseList) (address : Nat)
    (changed : Bool) :
    (l.setStreamConfigChanged address changed).feedbackUsecases = l.feedbackUsecases := by
  rw [feedbackUsecases, setStreamConfigChanged, List.countP_map]
  apply List.countP_congr
  intro u _
  rw [Function.comp_apply]
  split
  · rfl
  · rfl

end UsecaseList

/-! ## Everything that is held -/

/-- By how much a call changes the excess of the calls that enable the device. -/
def Call.onDevice (c : Call) : Int :=
  (if c.enablesDevice then 1 else 0) - if c.disablesDevice then 1 else 0

def Call.onRoute (c : Call) : Int :=
  (if c.enablesRoute then 1 else 0) - if c.disablesRoute then 1 else 0

/-- The PCM is open, so many usecases are in the list, and so many more calls enabled the
device and the route than disabled them. -/
structure Held where
  pcm : Bool
  usecases : Nat
  sndDevice : Int
  audioRoute : Int
  deriving DecidableEq, Repr

def Held.nothing : Held := ⟨false, 0, 0, 0⟩

def Held.everything : Held := ⟨true, 1, 1, 1⟩

namespace AudioState

def running (s : AudioState) : Bool := s.lgeAmplifier.pcmOut.isSome

def feedbackUsecases (s : AudioState) : Nat := s.usecaseList.feedbackUsecases

def calledTimes (s : AudioState) (kind : Call → Bool) : Nat := s.calls.countP kind

def held (s : AudioState) : Held where
  pcm := s.running
  usecases := s.feedbackUsecases
  sndDevice := s.calledTimes Call.enablesDevice - s.calledTimes Call.disablesDevice
  audioRoute := s.calledTimes Call.enablesRoute - s.calledTimes Call.disablesRoute

/-- The PCM is open exactly if a usecase is in the list, there is never more than one, and
the calls that enable exceed those that disable by one then and by none otherwise. -/
def Balanced (s : AudioState) : Prop :=
  (s.running = true ↔ s.feedbackUsecases = 1) ∧ s.feedbackUsecases ≤ 1 ∧
    s.calledTimes Call.enablesDevice =
      s.calledTimes Call.disablesDevice + (if s.running then 1 else 0) ∧
    s.calledTimes Call.enablesRoute =
      s.calledTimes Call.disablesRoute + (if s.running then 1 else 0)

instance (s : AudioState) : Decidable s.Balanced := inferInstanceAs (Decidable (_ ∧ _))

/-- Balanced means that everything is held or nothing. -/
theorem balanced_iff (s : AudioState) :
    s.Balanced ↔ s.held = .everything ∨ s.held = .nothing := by
  rw [Balanced, held, Held.everything, Held.nothing]
  cases hrunning : s.running with
  | true =>
      simp only [Held.mk.injEq, true_iff, if_true, true_and, false_and, or_false,
        Bool.true_eq_false]
      omega
  | false =>
      simp only [Held.mk.injEq, false_iff, Bool.false_eq_true, if_false, true_and, false_and,
        false_or, add_zero]
      omega

/-! ## How updates change what is held -/

theorem held_withAmplifier (s : AudioState) (d : LgeAmplifierDevice) :
    (s.withAmplifier d).held =
      ⟨d.pcmOut.isSome, s.held.usecases, s.held.sndDevice, s.held.audioRoute⟩ := rfl

theorem held_withUsecases (s : AudioState) (l : UsecaseList) :
    (s.withUsecases l).held =
      ⟨s.held.pcm, l.feedbackUsecases, s.held.sndDevice, s.held.audioRoute⟩ := rfl

/-- A call counts if it is of the kind. -/
theorem calledTimes_logging (s : AudioState) (c : Call) (kind : Call → Bool) :
    (s.logging c).calledTimes kind = s.calledTimes kind + if kind c then 1 else 0 := by
  rw [calledTimes, calledTimes, logging, List.countP_append, List.countP_singleton]

/-- What a call makes of what is held. -/
theorem held_logging (s : AudioState) (c : Call) :
    (s.logging c).held = ⟨s.held.pcm, s.held.usecases, s.held.sndDevice + c.onDevice,
      s.held.audioRoute + c.onRoute⟩ := by
  simp only [held, calledTimes_logging, Call.onDevice, Call.onRoute, Held.mk.injEq]
  refine ⟨rfl, rfl, ?_, ?_⟩
  · split <;> split <;> omega
  · split <;> split <;> omega

/-- A call that neither enables nor disables what the feedback uses. -/
theorem held_logging_other (s : AudioState) {c : Call} (hdevice : c.onDevice = 0)
    (hroute : c.onRoute = 0) : (s.logging c).held = s.held := by
  rw [held_logging, hdevice, hroute, add_zero, add_zero]

theorem held_enableSndDevice (s : AudioState) :
    (s.logging (.enableSndDevice (some .inCaptureViFeedback))).held =
      ⟨s.held.pcm, s.held.usecases, s.held.sndDevice + 1, s.held.audioRoute⟩ := by
  have hroute : (Call.enableSndDevice (some .inCaptureViFeedback)).onRoute = 0 := rfl
  rw [held_logging, hroute, add_zero]
  rfl

theorem held_disableSndDevice (s : AudioState) :
    (s.logging (.disableSndDevice (some .inCaptureViFeedback))).held =
      ⟨s.held.pcm, s.held.usecases, s.held.sndDevice - 1, s.held.audioRoute⟩ := by
  have hroute : (Call.disableSndDevice (some .inCaptureViFeedback)).onRoute = 0 := rfl
  rw [held_logging, hroute, add_zero]
  rfl

theorem held_enableAudioRoute (s : AudioState) (u : Usecase) :
    (s.logging (.enableAudioRoute u)).held = ⟨s.held.pcm, s.held.usecases, s.held.sndDevice,
      s.held.audioRoute + if u.isFeedback then 1 else 0⟩ := by
  have hdevice : (Call.enableAudioRoute u).onDevice = 0 := rfl
  have hroute : (Call.enableAudioRoute u).onRoute = if u.isFeedback then 1 else 0 :=
    sub_zero _
  rw [held_logging, hdevice, hroute, add_zero]

theorem held_disableAudioRoute (s : AudioState) (u : Usecase) :
    (s.logging (.disableAudioRoute u)).held = ⟨s.held.pcm, s.held.usecases, s.held.sndDevice,
      s.held.audioRoute - if u.isFeedback then 1 else 0⟩ := by
  have hdevice : (Call.disableAudioRoute u).onDevice = 0 := rfl
  have hroute : (Call.disableAudioRoute u).onRoute = 0 - if u.isFeedback then 1 else 0 := rfl
  rw [held_logging, hdevice, hroute, add_zero, zero_sub, ← sub_eq_add_neg]

end AudioState

end LgeHardware.Amplifier
