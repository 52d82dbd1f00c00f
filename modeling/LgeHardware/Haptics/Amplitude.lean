import LgeHardware.Foundation.Latest
import LgeHardware.Haptics.Packets

/-! # The amplitude of vibrations

The framework sets an amplitude that the vibrations from then on have. An effect has an amplitude
and a length of its own, which the service puts in place of the one that is set for as long as it
plays the effect. So no effect changes the vibrations after it, however it ends.
-/

namespace LgeHardware.Haptics

open LgeHardware.Foundation

/-! ## The service -/

/-- `DEFAULT_AMPLITUDE`. -/
def defaultAmplitude : UInt8 := 80

/-- The effects that the service has a length for, and the others. -/
inductive Effect
  | click
  | doubleClick
  | tick
  | heavyClick
  | other
  deriving DecidableEq, Repr

inductive EffectStrength
  | light
  | medium
  | strong
  deriving DecidableEq, Repr

/-- An amplitude as a floating point number: whether it is more than 0 and at most 1, and its
product with 127 as a byte. -/
structure Amplitude where
  inRange : Bool
  scaled : UInt8
  deriving DecidableEq, Repr

/-- The properties for the lengths of the effects, where they are set. -/
structure Durations where
  click : Option Int32 := none
  tick : Option Int32 := none
  heavyClick : Option Int32 := none
  deriving DecidableEq, Repr

structure VibratorService extends Vibrator where
  mClickDuration : Int32
  mTickDuration : Int32
  mHeavyClickDuration : Int32
  deriving DecidableEq, Repr

inductive VibratorStatus
  | ok
  | transactionFailed
  | illegalArgument
  | unsupportedOperation
  deriving DecidableEq, Repr

/-- What a call returns, with the length of an effect. -/
structure VibratorReply where
  status : VibratorStatus
  duration : Option Int32 := none
  deriving DecidableEq, Repr

inductive VibratorCall
  | on (timeoutMs : Int32)
  | off
  | perform (effect : Effect) (strength : EffectStrength)
  | setAmplitude (amplitude : Amplitude)
  deriving DecidableEq, Repr

def convertEffectStrength : EffectStrength → UInt8
  | .light => 40
  | .medium => 80
  | .strong => 120

namespace VibratorService

/-- The constructor. -/
def construct (numActuators : Int32) (durations : Durations) : VibratorService where
  mNumActuators := numActuators
  mCurrentAmplitude := defaultAmplitude
  mClickDuration := durations.click.getD 6
  mTickDuration := durations.tick.getD 2
  mHeavyClickDuration := durations.heavyClick.getD 8

/-- The length of an effect. -/
def timeMS (s : VibratorService) : Effect → Option Int32
  | .click => some s.mClickDuration
  | .doubleClick => some 135
  | .tick => some s.mTickDuration
  | .heavyClick => some s.mHeavyClickDuration
  | .other => none

def withAmplitude (s : VibratorService) (amplitude : UInt8) : VibratorService :=
  { s with mCurrentAmplitude := amplitude }

end VibratorService

/-- The service, and what has reached the driver. -/
structure VibratorState where
  service : VibratorService
  log : List DriverEvent := []
  deriving DecidableEq, Repr

namespace VibratorState

variable (wave : Waveform) (driver : Driver)

/-- How a call of the driver ends. -/
def play (s : VibratorState) (x : DriverM PUnit) : VibratorReply × VibratorState :=
  ({ status := if stops x s.log then .transactionFailed else .ok },
    { s with log := final x s.log })

def withAmplitude (s : VibratorState) (amplitude : UInt8) : VibratorState :=
  { s with service := s.service.withAmplitude amplitude }

def on (s : VibratorState) (timeoutMs : Int32) : VibratorReply × VibratorState :=
  s.play (s.service.on wave driver timeoutMs)

def off (s : VibratorState) : VibratorReply × VibratorState := s.play (s.service.off driver)

/-- `perform`, which does not look at how `on` ends. -/
def perform (s : VibratorState) (effect : Effect) (strength : EffectStrength) :
    VibratorReply × VibratorState :=
  match s.service.timeMS effect with
  | none => ({ status := .unsupportedOperation, duration := some 0 }, s)
  | some timeMS =>
      let currentAmplitude := s.service.mCurrentAmplitude
      let s := s.withAmplitude (convertEffectStrength strength)
      let s := (s.on wave driver timeMS).2
      ({ status := .ok, duration := some timeMS }, s.withAmplitude currentAmplitude)

def setAmplitude (s : VibratorState) (amplitude : Amplitude) : VibratorReply × VibratorState :=
  if !amplitude.inRange then ({ status := .illegalArgument }, s)
  else ({ status := .ok }, s.withAmplitude amplitude.scaled)

def answer (s : VibratorState) : VibratorCall → VibratorReply × VibratorState
  | .on timeoutMs => s.on wave driver timeoutMs
  | .off => s.off driver
  | .perform effect strength => s.perform wave driver effect strength
  | .setAmplitude amplitude => s.setAmplitude amplitude

def next (s : VibratorState) (call : VibratorCall) : VibratorState := (s.answer wave driver call).2

end VibratorState

/-! ## What reaches the driver -/

/-- What is sent to the driver stays sent. -/
abbrev Grows : List DriverEvent → List DriverEvent → Prop := (· <+: ·)

theorem moves_modify (events : List DriverEvent) :
    Moves Grows True (modify (· ++ events) : DriverM PUnit) :=
  fun log => (ends_modify _).mpr (List.prefix_append log events)

theorem Driver.moves_enable (driver : Driver) (index : Nat) :
    Moves Grows True (driver.enable index) := by
  intro log
  rw [Driver.enable]
  simp only [ends_bind, ends_get, ends_modify]
  rw [ends_ite]
  exact ⟨fun _ => ⟨trivial, List.prefix_append log _⟩, fun _ => List.prefix_append log _⟩

theorem grows_refl (log : List DriverEvent) : Grows log log := List.prefix_rfl

theorem grows_trans (log log' log'' : List DriverEvent) (h : Grows log log')
    (h' : Grows log' log'') : Grows log log'' := List.IsPrefix.trans h h'

theorem moves_writeHeader (output : Array UInt8) (index : Nat) :
    Moves Grows True (writeHeader output index) := by
  rw [writeHeader]
  refine Moves.bind grows_trans (moves_writeAt _ grows_refl _ _ _) fun _ => ?_
  refine Moves.bind grows_trans (moves_writeAt _ grows_refl _ _ _) fun _ => ?_
  exact moves_writeAt _ grows_refl _ _ _

theorem moves_makeOutput (driver : Driver) (outputBuffers : Array (Array UInt8)) (i j : Nat) :
    Moves Grows True (makeOutput driver outputBuffers i j) := by
  rw [makeOutput]
  refine Moves.bind grows_trans (moves_writeHeader _ i) fun output => ?_
  refine Moves.loop grows_refl grows_trans (fun turn output => ?_) _ _
  refine Moves.bind grows_trans (moves_readAt _ grows_refl _ _) fun row => ?_
  refine Moves.bind grows_trans (moves_readAt _ grows_refl _ _) fun sample => ?_
  exact moves_writeAt _ grows_refl _ _ _

theorem moves_splitIntoBuffers (bufferSize numBuffers : Nat) (fullBuffer : Array UInt8) :
    Moves Grows True (splitIntoBuffers bufferSize numBuffers fullBuffer) := by
  rw [splitIntoBuffers]
  refine Moves.loop grows_refl grows_trans (fun i outputBuffers => ?_) _ _
  refine Moves.bind grows_trans (moves_readAt _ grows_refl _ _) fun sample => ?_
  refine Moves.bind grows_trans (moves_readAt _ grows_refl _ _) fun row => ?_
  refine Moves.bind grows_trans (moves_writeAt _ grows_refl _ _ _) fun row => ?_
  exact moves_writeAt _ grows_refl _ _ _

namespace Vibrator

variable (v : Vibrator) (wave : Waveform) (driver : Driver)

theorem moves_fillFullBuffer (bufferSize : Nat) :
    Moves Grows True (v.fillFullBuffer wave bufferSize) := by
  rw [fillFullBuffer]
  exact Moves.loop grows_refl grows_trans (fun _ _ => moves_writeAt _ grows_refl _ _ _) _ _

theorem moves_sendBuffers (numBuffers : Nat) (outputBuffers : Array (Array UInt8)) :
    Moves Grows True (v.sendBuffers driver numBuffers outputBuffers) := by
  rw [sendBuffers]
  refine Moves.loop grows_refl grows_trans (fun i _ => ?_) _ _
  refine Moves.loop grows_refl grows_trans (fun j _ => ?_) _ _
  refine Moves.bind grows_trans (moves_makeOutput driver outputBuffers i j) fun output => ?_
  refine Moves.bind grows_trans (moves_modify _) fun _ => ?_
  exact Moves.ite (driver.moves_enable i) (Moves.pure grows_refl _)

/-- Whatever becomes of it, `on` leaves what was sent before. -/
theorem moves_on (timeoutMs : Int32) : Moves Grows True (v.on wave driver timeoutMs) := by
  have hoff : Moves Grows True (ignore (v.off driver)) := by
    intro log
    obtain ⟨disables, hoff, -⟩ := v.final_off driver log
    rw [ends_ignore, hoff]
    exact List.prefix_append log disables
  rw [on]
  refine Moves.bind grows_trans hoff fun _ => ?_
  refine Moves.bind grows_trans (v.moves_fillFullBuffer wave _) fun fullBuffer => ?_
  refine Moves.bind grows_trans (moves_splitIntoBuffers _ _ fullBuffer) fun outputBuffers => ?_
  exact v.moves_sendBuffers driver _ outputBuffers

end Vibrator

/-- The samples of a vibration at an amplitude. -/
def samplesAt (wave : Waveform) (amplitude : UInt8) (timeMS : Int32) : List UInt8 :=
  (List.range (wave.bufferSize timeMS)).map (wave.sample amplitude)

/-- After the amplifiers were disabled, all actuators were sent all samples. -/
def Delivered (samples : List UInt8) (actuators : Nat) (log log' : List DriverEvent) : Prop :=
  ∃ disables events, log' = log ++ disables ++ events ∧
    (∀ event ∈ disables, event.isDisable = true) ∧ Delivers UInt8.ofNat samples actuators events

/-- Sending ended with an amplifier that could not be enabled. -/
def BrokenOff (log log' : List DriverEvent) : Prop :=
  Grows log log' ∧ EnableFailed .transactionFailed log'

/-- How a call is answered at an amplitude, and what it leaves in the log of the driver. -/
inductive Answers (wave : Waveform) (service : VibratorService) (amplitude : UInt8)
    (log : List DriverEvent) : VibratorCall → VibratorReply → List DriverEvent → Prop
  | delivered {timeoutMs : Int32} {log' : List DriverEvent}
      (h : Delivered (samplesAt wave amplitude timeoutMs) service.actuators log log') :
      Answers wave service amplitude log (.on timeoutMs) { status := .ok } log'
  | brokenOff {timeoutMs : Int32} {log' : List DriverEvent} (h : BrokenOff log log') :
      Answers wave service amplitude log (.on timeoutMs) { status := .transactionFailed } log'
  | off {status : VibratorStatus} {disables : List DriverEvent}
      (h : ∀ event ∈ disables, event.isDisable = true) :
      Answers wave service amplitude log .off { status } (log ++ disables)
  | performed {effect : Effect} {strength : EffectStrength} {timeMS : Int32}
      {log' : List DriverEvent} (heffect : service.timeMS effect = some timeMS)
      (h : Delivered (samplesAt wave (convertEffectStrength strength) timeMS) service.actuators
        log log' ∨ BrokenOff log log') :
      Answers wave service amplitude log (.perform effect strength)
        { status := .ok, duration := some timeMS } log'
  | unsupported {effect : Effect} {strength : EffectStrength}
      (heffect : service.timeMS effect = none) :
      Answers wave service amplitude log (.perform effect strength)
        { status := .unsupportedOperation, duration := some 0 } log
  | set {chosen : Amplitude} :
      Answers wave service amplitude log (.setAmplitude chosen)
        { status := if chosen.inRange then .ok else .illegalArgument } log

/-- What is answered does not depend on the amplitude that the service has apart from that. -/
theorem Answers.of_withAmplitude {wave : Waveform} {service : VibratorService}
    {other amplitude : UInt8} {log log' : List DriverEvent} {call : VibratorCall}
    {reply : VibratorReply}
    (h : Answers wave (service.withAmplitude other) amplitude log call reply log') :
    Answers wave service amplitude log call reply log' := by
  cases h with
  | delivered h => exact .delivered h
  | brokenOff h => exact .brokenOff h
  | off h => exact .off h
  | @performed effect _ _ _ heffect h =>
      refine .performed ?_ h
      cases effect <;> exact heffect
  | @unsupported effect _ heffect =>
      refine .unsupported ?_
      cases effect <;> exact heffect
  | set => exact .set

/-- The amplitude that a call sets. -/
def VibratorCall.chosen : VibratorCall → Option UInt8
  | .setAmplitude amplitude => if amplitude.inRange then some amplitude.scaled else none
  | .on _ | .off | .perform .. => none

namespace VibratorState

variable {wave : Waveform} {driver : Driver}

/-- Only the amplitude of the service changes, and only by being set. -/
theorem service_answer (s : VibratorState) (call : VibratorCall) :
    (s.answer wave driver call).2.service =
      s.service.withAmplitude (call.chosen.getD s.service.mCurrentAmplitude) := by
  cases call with
  | on timeoutMs => rfl
  | off => rfl
  | perform effect strength =>
      rw [answer, perform]
      split <;> rfl
  | setAmplitude amplitude =>
      rw [answer, setAmplitude, VibratorCall.chosen]
      cases amplitude.inRange <;> rfl

/-- After any calls the service is as it was, but for the amplitude that was set last. -/
theorem service_run (s : VibratorState) (calls : List VibratorCall) :
    (run (next wave driver) s calls).service =
      s.service.withAmplitude (latest VibratorCall.chosen s.service.mCurrentAmplitude calls) := by
  induction calls generalizing s with
  | nil => rfl
  | cons call rest ih => rw [run_cons, ih, next, service_answer, latest_cons]; rfl

section

variable (hheader : driver.spiHeaderSize = 3)

include hheader

/-- A vibration is delivered with an OK, or broken off without. -/
theorem on_cases (s : VibratorState) (timeoutMs : Int32) :
    ((s.on wave driver timeoutMs).1 = { status := .ok } ∧
        Delivered (samplesAt wave s.service.mCurrentAmplitude timeoutMs) s.service.actuators s.log
          (s.on wave driver timeoutMs).2.log) ∨
      (s.on wave driver timeoutMs).1 = { status := .transactionFailed } ∧
        BrokenOff s.log (s.on wave driver timeoutMs).2.log := by
  have hends := Vibrator.on_ends hheader s.service.toVibrator wave timeoutMs s.log
  have hgrows := s.service.toVibrator.moves_on wave driver timeoutMs s.log
  rw [on, play]
  cases hstops : stops (s.service.on wave driver timeoutMs) s.log with
  | false => exact .inl ⟨rfl, hends.of_returns hstops⟩
  | true =>
      obtain ⟨exit, ⟨rfl, hfailed⟩, -, hgrown⟩ := (hends.and hgrows).of_stops hstops
      exact .inr ⟨rfl, hgrown, rfl, hfailed⟩

theorem answers (s : VibratorState) (call : VibratorCall) :
    Answers wave s.service s.service.mCurrentAmplitude s.log call (s.answer wave driver call).1
      (s.answer wave driver call).2.log := by
  cases call with
  | on timeoutMs =>
      rw [answer]
      rcases s.on_cases hheader timeoutMs with ⟨hreply, h⟩ | ⟨hreply, h⟩
      · rw [hreply]
        exact .delivered h
      · rw [hreply]
        exact .brokenOff h
  | off =>
      obtain ⟨disables, hoff, hdisables⟩ := s.service.toVibrator.final_off driver s.log
      have hlog : (s.off driver).2.log = s.log ++ disables := hoff
      rw [answer, hlog]
      exact .off hdisables
  | perform effect strength =>
      rw [answer, perform]
      split
      next heffect => exact .unsupported heffect
      next timeMS heffect =>
        refine .performed heffect ?_
        have hplayed := @on_cases wave driver hheader
          (s.withAmplitude (convertEffectStrength strength)) timeMS
        exact hplayed.imp And.right And.right
  | setAmplitude amplitude =>
      rw [answer, setAmplitude]
      cases hrange : amplitude.inRange with
      | false =>
          have hset := @Answers.set wave s.service s.service.mCurrentAmplitude s.log amplitude
          rwa [hrange] at hset
      | true =>
          have hset := @Answers.set wave s.service s.service.mCurrentAmplitude s.log amplitude
          rwa [hrange] at hset

/-- After any calls, however each of them ended, a vibration has the amplitude that was set last
and an effect has its own. -/
theorem vibrations_have_last_amplitude (wave : Waveform) (numActuators : Int32)
    (durations : Durations) (calls : List VibratorCall) (call : VibratorCall) :
    let service := VibratorService.construct numActuators durations
    let s := run (next wave driver) { service } calls
    Answers wave service (latest VibratorCall.chosen defaultAmplitude calls) s.log call
      (s.answer wave driver call).1 (s.answer wave driver call).2.log := by
  intro service s
  have hanswers := @answers wave driver hheader s call
  have hservice : s.service = service.withAmplitude
      (latest VibratorCall.chosen defaultAmplitude calls) := service_run _ calls
  rw [hservice] at hanswers
  exact hanswers.of_withAmplitude

end

/-- An effect between two vibrations. -/
theorem vibrations_have_last_amplitude_effect :
    let calls := [VibratorCall.setAmplitude ⟨true, 63⟩, .perform .click .strong]
    let service := VibratorService.construct 1 {}
    let s := run (next ramp workingDriver) { service } calls
    Answers ramp service 63 s.log (.on 6) (s.answer ramp workingDriver (.on 6)).1
      (s.answer ramp workingDriver (.on 6)).2.log :=
  @vibrations_have_last_amplitude workingDriver rfl ramp 1 {}
    [.setAmplitude ⟨true, 63⟩, .perform .click .strong] (.on 6)

end VibratorState

end LgeHardware.Haptics
