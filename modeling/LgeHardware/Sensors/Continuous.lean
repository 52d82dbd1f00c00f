import LgeHardware.Foundation.Latest
import LgeHardware.Foundation.Routing
import LgeHardware.Foundation.Spaced
import LgeHardware.Sensors.Sensor
import LgeHardware.Sensors.SubHal

/-! # The sampling sensor

The run thread of the class `Sensor` takes a sample when the period has gone by since the last
one, and holds `mRunMutex` except while it waits. It may wake up at any time, and the clock that
it reads may be set. Clients change the period, the mode and whether the sensor is enabled in
between.
-/

namespace LgeHardware.Sensors

open LgeHardware.Foundation

/-- `SensorFlagBits::DATA_INJECTION`. -/
def flagDataInjection : UInt32 := 0x10

/-- `SensorType::ADDITIONAL_INFO`. -/
def typeAdditionalInfo : Int := 33

/-- An event that is given to `postEvents`: a sample, with the clock and the period that it was
taken at, the end of a flush, an event that was injected, or what a one-shot sensor reports. -/
inductive Posting
  | sample (now samplingPeriodNs : Int) (event : Event) (wakeup : Bool)
  | flushComplete (sensorHandle : Int) (wakeup : Bool)
  | injected (event : Event) (wakeup : Bool)
  | report (event : Event) (wakeup : Bool)
  deriving DecidableEq, Repr

/-- The sensor that an event names. -/
def Posting.sensorHandle : Posting → Int
  | .sample _ _ event _ | .injected event _ | .report event _ => event.sensorHandle
  | .flushComplete sensorHandle _ => sensorHandle

/-- A sample as an event that was let pass. -/
def Posting.passed : Posting → Option Passed
  | .sample now samplingPeriodNs _ _ => some ⟨now, samplingPeriodNs⟩
  | .flushComplete .. | .injected .. | .report .. => none

namespace SensorInfo

def isWakeUpSensor (info : SensorInfo) : Bool := info.flags &&& flagWakeUp ≠ 0

def supportsDataInjection (info : SensorInfo) : Bool := info.flags &&& flagDataInjection ≠ 0

end SensorInfo

/-- `Sensor::injectEvent`, for a sensor in a mode. -/
def injectEvent (info : SensorInfo) (mMode : OperationMode) (event : Event) :
    Result × List Posting :=
  if event.sensorType = typeAdditionalInfo then (.ok, [])
  else if !info.supportsDataInjection then (.invalidOperation, [])
  else if mMode = .dataInjection then (.ok, [.injected event info.isWakeUpSensor])
  else (.badValue, [])

/-- Only an event that is injected in the mode for that is posted. -/
theorem mem_injectEvent {info : SensorInfo} {mMode : OperationMode} {event : Event}
    {posting : Posting} (h : posting ∈ (injectEvent info mMode event).2) :
    posting = .injected event info.isWakeUpSensor ∧ mMode = .dataInjection ∧
      info.supportsDataInjection = true := by
  rw [injectEvent] at h
  split at h
  next => cases h
  next =>
    split at h
    next => cases h
    next hsupports =>
      split at h
      next hmode => exact ⟨List.mem_singleton.mp h, hmode, by simpa using hsupports⟩
      next => cases h

/-- Where the run thread of `Sensor` is: before its first section, inside `mWaitCV.wait`, inside
`mWaitCV.wait_for`, or at its end. -/
inductive SampleThread
  | starting
  | waiting
  | timedWaiting
  | finished
  deriving DecidableEq, Repr

/-- `Sensor`. Times are far from the limits of 64 bits. -/
structure ContinuousSensor extends Sensor where
  mSensorInfo : SensorInfo
  mIsEnabled : Bool := false
  mLastSampleTimeNs : Int := 0
  mMode : OperationMode := .normal
  mStopThread : Bool
  runThread : SampleThread := .starting
  deriving DecidableEq, Repr

/-- The sections of the clients, of the run thread with what the clocks say, and of the
destructor. -/
inductive ContinuousOp
  | activate (enable : Bool)
  | batch (samplingPeriodNs : Int32)
  | flush
  | setOperationMode (mode : OperationMode)
  | injectEvent (event : Event)
  | turn (now elapsedRealtimeNano : Int)
  | destroySensor
  deriving DecidableEq, Repr

namespace ContinuousSensor

/-- The constructor, and what the constructor of a class over it makes of `mSensorInfo`.
`mStopThread` is not initialised. -/
def construct (sensorHandle type : Int) (flags : UInt32) (minDelay maxDelay : Int32)
    (mStopThread : Bool) : ContinuousSensor :=
  { sensorClass := .sensor
    minDelay
    maxDelay
    mSensorInfo := { sensorHandle, type, flags }
    mStopThread }

variable (s : ContinuousSensor)

/-- The sensor takes samples. -/
def Sampling : Prop := s.mIsEnabled = true ∧ s.mMode = .normal ∧ s.mStopThread = false

instance : Decidable s.Sampling := inferInstanceAs (Decidable (_ ∧ _))

def readEvents (elapsedRealtimeNano : Int) : Event :=
  { sensorHandle := s.mSensorInfo.sensorHandle
    sensorType := s.mSensorInfo.type
    timestamp := elapsedRealtimeNano
    data := (0, 0) }

def flush : Result × List Posting :=
  if s.mIsEnabled then
    (.ok, [.flushComplete s.mSensorInfo.sensorHandle s.mSensorInfo.isWakeUpSensor])
  else (.badValue, [])

/-- The branch of `run` for a sensor that is enabled, up to where the thread waits again. -/
def sampleSection (now elapsedRealtimeNano : Int) : ContinuousSensor × List Posting :=
  let nextSampleTime := s.mLastSampleTimeNs + s.mSamplingPeriodNs.toInt
  if nextSampleTime ≤ now then
    ({ s with mLastSampleTimeNs := now, runThread := .timedWaiting },
      [.sample now s.mSamplingPeriodNs.toInt (s.readEvents elapsedRealtimeNano)
        s.mSensorInfo.isWakeUpSensor])
  else ({ s with runThread := .timedWaiting }, [])

/-- The loop of `run` from its head on, up to where the thread waits. -/
def loop (now elapsedRealtimeNano : Int) : ContinuousSensor × List Posting :=
  if s.mStopThread then ({ s with runThread := .finished }, [])
  else if !s.mIsEnabled || s.mMode = .dataInjection then ({ s with runThread := .waiting }, [])
  else s.sampleSection now elapsedRealtimeNano

/-- The run thread gets the mutex. Inside `mWaitCV.wait` it looks at the predicate first. -/
def turn (now elapsedRealtimeNano : Int) : ContinuousSensor × List Posting :=
  match s.runThread with
  | .finished => (s, [])
  | .waiting =>
      if (s.mIsEnabled && s.mMode = .normal) || s.mStopThread then s.loop now elapsedRealtimeNano
      else (s, [])
  | .starting | .timedWaiting => s.loop now elapsedRealtimeNano

/-- What a section does, and what it posts. -/
def perform : ContinuousOp → ContinuousSensor × List Posting
  | .activate enable => ({ s with mIsEnabled := enable }, [])
  | .batch samplingPeriodNs => ({ s with toSensor := s.toSensor.batch samplingPeriodNs }, [])
  | .flush => (s, s.flush.2)
  | .setOperationMode mode => ({ s with mMode := mode }, [])
  | .injectEvent event => (s, (Sensors.injectEvent s.mSensorInfo s.mMode event).2)
  | .turn now elapsedRealtimeNano => s.turn now elapsedRealtimeNano
  | .destroySensor => ({ s with mStopThread := true, mIsEnabled := false }, [])

/-- A sensor on its own. -/
def behaviour : Behaviour ContinuousSensor ContinuousOp Posting where
  next s op := (s.perform op).1
  out s op := (s.perform op).2

/-! ## What a section does -/

variable {s}

/-- The thread takes a sample only if it may and the period has gone by. -/
theorem turn_cases (now elapsedRealtimeNano : Int) :
    (∃ runThread, s.turn now elapsedRealtimeNano = ({ s with runThread }, [])) ∨
      s.Sampling ∧ s.mLastSampleTimeNs + s.mSamplingPeriodNs.toInt ≤ now ∧
        s.turn now elapsedRealtimeNano =
          ({ s with mLastSampleTimeNs := now, runThread := .timedWaiting },
            [.sample now s.mSamplingPeriodNs.toInt (s.readEvents elapsedRealtimeNano)
              s.mSensorInfo.isWakeUpSensor]) := by
  have hloop : (∃ runThread, s.loop now elapsedRealtimeNano = ({ s with runThread }, [])) ∨
      s.Sampling ∧ s.mLastSampleTimeNs + s.mSamplingPeriodNs.toInt ≤ now ∧
        s.loop now elapsedRealtimeNano =
          ({ s with mLastSampleTimeNs := now, runThread := .timedWaiting },
            [.sample now s.mSamplingPeriodNs.toInt (s.readEvents elapsedRealtimeNano)
              s.mSensorInfo.isWakeUpSensor]) := by
    rw [loop]
    split
    next => exact .inl ⟨.finished, rfl⟩
    next hstop =>
      split
      next => exact .inl ⟨.waiting, rfl⟩
      next hidle =>
        rw [sampleSection]
        split
        next hdue =>
          have hboth : s.mIsEnabled = true ∧ s.mMode ≠ .dataInjection := by simpa using hidle
          have hmode : s.mMode = .normal := by
            cases hmode : s.mMode with
            | normal => rfl
            | dataInjection => exact absurd hmode hboth.2
          exact .inr ⟨⟨hboth.1, hmode, Bool.eq_false_iff.mpr hstop⟩, hdue, rfl⟩
        next => exact .inl ⟨.timedWaiting, rfl⟩
  rw [turn]
  cases hthread : s.runThread with
  | finished => exact .inl ⟨s.runThread, rfl⟩
  | starting => exact hloop
  | timedWaiting => exact hloop
  | waiting =>
      dsimp only
      split
      next => exact hloop
      next => exact .inl ⟨s.runThread, rfl⟩

theorem info_batch (sensor : Sensor) (samplingPeriodNs : Int32) :
    (sensor.batch samplingPeriodNs).sensorClass = sensor.sensorClass ∧
      (sensor.batch samplingPeriodNs).minDelay = sensor.minDelay ∧
        (sensor.batch samplingPeriodNs).maxDelay = sensor.maxDelay := by
  cases hclass : sensor.sensorClass with
  | oneShotSensor =>
      rw [Sensor.batch_oneShot hclass]
      exact ⟨hclass, rfl, rfl⟩
  | sensor =>
      rw [Sensor.batch, hclass]
      dsimp only
      split
      next => exact ⟨rfl, rfl, rfl⟩
      next => exact ⟨hclass, rfl, rfl⟩

/-- No section changes what the sensor is. -/
theorem info_perform (op : ContinuousOp) : (s.perform op).1.mSensorInfo = s.mSensorInfo ∧
    (s.perform op).1.sensorClass = s.sensorClass ∧ (s.perform op).1.minDelay = s.minDelay ∧
      (s.perform op).1.maxDelay = s.maxDelay := by
  cases op with
  | turn now elapsedRealtimeNano =>
      rcases turn_cases (s := s) now elapsedRealtimeNano with ⟨runThread, h⟩ | ⟨-, -, h⟩ <;>
        rw [perform, h] <;> exact ⟨rfl, rfl, rfl, rfl⟩
  | batch samplingPeriodNs => exact ⟨rfl, info_batch s.toSensor samplingPeriodNs⟩
  | activate | flush | setOperationMode | injectEvent | destroySensor => exact ⟨rfl, rfl, rfl, rfl⟩

/-- What a sensor says of itself stays as it is. -/
theorem info_run (ops : List ContinuousOp) :
    (run behaviour.next s ops).mSensorInfo = s.mSensorInfo ∧
      (run behaviour.next s ops).sensorClass = s.sensorClass ∧
        (run behaviour.next s ops).minDelay = s.minDelay ∧
          (run behaviour.next s ops).maxDelay = s.maxDelay := by
  induction ops generalizing s with
  | nil => exact ⟨rfl, rfl, rfl, rfl⟩
  | cons op rest ih =>
      obtain ⟨hinfo, hclass, hmin, hmax⟩ := info_perform (s := s) op
      obtain ⟨hinfo', hclass', hmin', hmax'⟩ := ih (s := (s.perform op).1)
      exact ⟨hinfo'.trans hinfo, hclass'.trans hclass, hmin'.trans hmin, hmax'.trans hmax⟩

/-- The samples of a section. -/
theorem passed_perform (op : ContinuousOp) :
    (s.perform op).2.filterMap Posting.passed = [] ∧
        (s.perform op).1.mLastSampleTimeNs = s.mLastSampleTimeNs ∨
      ∃ now, s.mLastSampleTimeNs + s.mSamplingPeriodNs.toInt ≤ now ∧
        (s.perform op).2.filterMap Posting.passed = [⟨now, s.mSamplingPeriodNs.toInt⟩] ∧
          (s.perform op).1.mLastSampleTimeNs = now := by
  cases op with
  | turn now elapsedRealtimeNano =>
      rcases turn_cases (s := s) now elapsedRealtimeNano with ⟨runThread, h⟩ | ⟨-, hdue, h⟩
      · left
        rw [perform, h]
        exact ⟨rfl, rfl⟩
      · refine .inr ⟨now, hdue, ?_⟩
        rw [perform, h]
        exact ⟨rfl, rfl⟩
  | flush =>
      left
      rw [perform, flush]
      split <;> exact ⟨rfl, rfl⟩
  | injectEvent event =>
      refine .inl ⟨List.filterMap_eq_nil_iff.mpr fun posting hposting => ?_, rfl⟩
      rw [(mem_injectEvent hposting).1]
      rfl
  | activate | batch | setOperationMode | destroySensor => exact .inl ⟨rfl, rfl⟩

/-! ## Samples keep the period -/

/-- The samples of a run. -/
def samples (s : ContinuousSensor) (ops : List ContinuousOp) : List Passed :=
  (outputs behaviour.next behaviour.out s ops).filterMap Posting.passed

theorem samples_cons (op : ContinuousOp) (rest : List ContinuousOp) :
    s.samples (op :: rest) =
      (s.perform op).2.filterMap Posting.passed ++ (s.perform op).1.samples rest := by
  rw [samples, outputs, List.filterMap_append]
  rfl

theorem samples_append (first second : List ContinuousOp) :
    s.samples (first ++ second) =
      s.samples first ++ (run behaviour.next s first).samples second := by
  rw [samples, outputs_append, List.filterMap_append]
  rfl

/-- Every sample is at least the period in force after the one before it. -/
theorem kept_samples (ops : List ContinuousOp) : Kept s.mLastSampleTimeNs (s.samples ops) ∧
    lastTime s.mLastSampleTimeNs (s.samples ops) =
      (run behaviour.next s ops).mLastSampleTimeNs := by
  induction ops generalizing s with
  | nil => exact ⟨trivial, rfl⟩
  | cons op rest ih =>
      obtain ⟨hkept, hlast⟩ := ih (s := (s.perform op).1)
      rw [samples_cons, kept_append, lastTime_append]
      rcases passed_perform (s := s) op with ⟨hnone, hsame⟩ | ⟨now, hdue, hsample, hnow⟩
      · rw [hnone, lastTime_nil, ← hsame]
        exact ⟨⟨trivial, hkept⟩, hlast⟩
      · rw [hsample]
        rw [hnow] at hkept hlast
        exact ⟨⟨⟨hdue, trivial⟩, hkept⟩, hlast⟩

/-- The period in force is in the bounds of the sensor. -/
def PeriodInBounds (s : ContinuousSensor) : Prop :=
  s.minDelay.toInt * 1000 ≤ s.mSamplingPeriodNs.toInt ∧
    s.mSamplingPeriodNs.toInt ≤ s.maxDelay.toInt * 1000

theorem periodInBounds_batch (hclass : s.sensorClass = .sensor) (hdelays : s.DelaysFit)
    (samplingPeriodNs : Int32) : (s.perform (.batch samplingPeriodNs)).1.PeriodInBounds := by
  obtain ⟨-, -, hmin, hmax⟩ := info_perform (s := s) (.batch samplingPeriodNs)
  have hset : (s.perform (.batch samplingPeriodNs)).1.mSamplingPeriodNs.toInt =
      s.clamped samplingPeriodNs.toInt := Sensor.toInt_batch hclass hdelays samplingPeriodNs
  have hordered := hdelays.ordered
  rw [PeriodInBounds, hset, hmin, hmax, Sensor.clamped, clamp]
  exact ⟨le_max_left _ _, max_le (by omega) (min_le_right _ _)⟩

theorem periodInBounds_perform (hclass : s.sensorClass = .sensor) (hdelays : s.DelaysFit)
    (h : s.PeriodInBounds) (op : ContinuousOp) : (s.perform op).1.PeriodInBounds := by
  cases op with
  | batch samplingPeriodNs => exact periodInBounds_batch hclass hdelays samplingPeriodNs
  | turn now elapsedRealtimeNano =>
      rcases turn_cases (s := s) now elapsedRealtimeNano with ⟨runThread, hturn⟩ | ⟨-, -, hturn⟩ <;>
        rw [perform, hturn] <;> exact h
  | activate | flush | setOperationMode | injectEvent | destroySensor => exact h

/-- Once a period was set, every sample is taken at one in the bounds. -/
theorem distance_of_mem_samples (hclass : s.sensorClass = .sensor) (hdelays : s.DelaysFit)
    (h : s.PeriodInBounds) (ops : List ContinuousOp) :
    ∀ sample ∈ s.samples ops, s.minDelay.toInt * 1000 ≤ sample.distance ∧
      sample.distance ≤ s.maxDelay.toInt * 1000 := by
  induction ops generalizing s with
  | nil => simp [samples, outputs]
  | cons op rest ih =>
      intro sample hsample
      obtain ⟨-, hclass', hmin, hmax⟩ := info_perform (s := s) op
      rw [samples_cons, List.mem_append] at hsample
      rcases hsample with hsample | hsample
      · rcases passed_perform (s := s) op with ⟨hnone, -⟩ | ⟨now, -, hone, -⟩
        · rw [hnone] at hsample
          cases hsample
        · rw [hone, List.mem_singleton] at hsample
          rw [hsample]
          exact h
      · have hdelays' : (s.perform op).1.DelaysFit :=
          ⟨hmin ▸ hdelays.nonneg, hmin ▸ hmax ▸ hdelays.ordered, hmax ▸ hdelays.fits⟩
        have hrest := ih (hclass'.trans hclass) hdelays'
          (periodInBounds_perform hclass hdelays h op)
          sample hsample
        rwa [hmin, hmax] at hrest

/-- A call of `batch` parts the samples of a run. -/
theorem samples_append_batch (before after : List ContinuousOp) (samplingPeriodNs : Int32) :
    s.samples (before ++ .batch samplingPeriodNs :: after) = s.samples before ++
      (run behaviour.next s (before ++ [.batch samplingPeriodNs])).samples after := by
  rw [List.append_cons, samples_append, samples_append]
  exact congrArg (· ++ _) (List.append_nil (s.samples before))

/-- After a call of `batch` samples are taken at periods in the bounds. -/
theorem distance_of_mem_samples_after_batch (hclass : s.sensorClass = .sensor)
    (hdelays : s.DelaysFit) (before after : List ContinuousOp) (samplingPeriodNs : Int32) :
    ∀ sample ∈ (run behaviour.next s (before ++ [.batch samplingPeriodNs])).samples after,
      s.minDelay.toInt * 1000 ≤ sample.distance ∧
        sample.distance ≤ s.maxDelay.toInt * 1000 := by
  rw [run_append]
  obtain ⟨-, hclass', hmin, hmax⟩ := info_run (s := s) before
  generalize run behaviour.next s before = middle at hclass' hmin hmax ⊢
  obtain ⟨-, hclass'', hmin', hmax'⟩ := info_perform (s := middle) (.batch samplingPeriodNs)
  have hdelays' : middle.DelaysFit :=
    ⟨hmin ▸ hdelays.nonneg, hmin ▸ hmax ▸ hdelays.ordered, hmax ▸ hdelays.fits⟩
  have hdelays'' : (middle.perform (.batch samplingPeriodNs)).1.DelaysFit :=
    ⟨hmin' ▸ hdelays'.nonneg, hmin' ▸ hmax' ▸ hdelays'.ordered, hmax' ▸ hdelays'.fits⟩
  have hbounds := distance_of_mem_samples (hclass''.trans (hclass'.trans hclass)) hdelays''
    (periodInBounds_batch (hclass'.trans hclass) hdelays' samplingPeriodNs) after
  rwa [hmin', hmin, hmax', hmax] at hbounds

/-! ## Why something is posted -/

/-- What a call says about whether the sensor is enabled. -/
def enabledBy : ContinuousOp → Option Bool
  | .activate enable => some enable
  | .destroySensor => some false
  | .batch _ | .flush | .setOperationMode _ | .injectEvent _ | .turn .. => none

/-- What a call says about the mode. -/
def modeBy : ContinuousOp → Option OperationMode
  | .setOperationMode mode => some mode
  | .activate _ | .batch _ | .flush | .injectEvent _ | .turn .. | .destroySensor => none

/-- Whether the sensor is enabled, and in which mode, is what clients said last. -/
theorem mIsEnabled_run (ops : List ContinuousOp) :
    (run behaviour.next s ops).mIsEnabled = latest enabledBy s.mIsEnabled ops ∧
      (run behaviour.next s ops).mMode = latest modeBy s.mMode ops := by
  have hstep : ∀ (s : ContinuousSensor) op,
      (s.perform op).1.mIsEnabled = (enabledBy op).getD s.mIsEnabled ∧
        (s.perform op).1.mMode = (modeBy op).getD s.mMode := by
    intro s op
    cases op with
    | turn now elapsedRealtimeNano =>
        rcases turn_cases (s := s) now elapsedRealtimeNano with ⟨runThread, h⟩ | ⟨-, -, h⟩ <;>
          rw [perform, h] <;> exact ⟨rfl, rfl⟩
    | activate | batch | flush | setOperationMode | injectEvent | destroySensor => exact ⟨rfl, rfl⟩
  exact ⟨view_run (fun s op => (hstep s op).1) s ops, view_run (fun s op => (hstep s op).2) s ops⟩

/-- What a call or the thread may post in a state. -/
inductive Justified (s : ContinuousSensor) : ContinuousOp → Posting → Prop
  | sample (now samplingPeriodNs elapsedRealtimeNano : Int) (hsampling : s.Sampling) :
      Justified s (.turn now elapsedRealtimeNano) (.sample now samplingPeriodNs
        (s.readEvents elapsedRealtimeNano) s.mSensorInfo.isWakeUpSensor)
  | flushComplete (henabled : s.mIsEnabled = true) :
      Justified s .flush (.flushComplete s.mSensorInfo.sensorHandle s.mSensorInfo.isWakeUpSensor)
  | injected (event : Event) (hmode : s.mMode = .dataInjection)
      (hsupports : s.mSensorInfo.supportsDataInjection = true) :
      Justified s (.injectEvent event) (.injected event s.mSensorInfo.isWakeUpSensor)

theorem justified_of_mem {op : ContinuousOp} {posting : Posting}
    (h : posting ∈ (s.perform op).2) : s.Justified op posting := by
  cases op with
  | turn now elapsedRealtimeNano =>
      rcases turn_cases (s := s) now elapsedRealtimeNano with
        ⟨runThread, hturn⟩ | ⟨hsampling, -, hturn⟩
      · rw [perform, hturn] at h
        cases h
      · rw [perform, hturn, List.mem_singleton] at h
        rw [h]
        exact .sample now _ elapsedRealtimeNano hsampling
  | flush =>
      rw [perform, flush] at h
      split at h
      next henabled =>
        rw [List.mem_singleton] at h
        rw [h]
        exact .flushComplete henabled
      next => cases h
  | injectEvent event =>
      obtain ⟨rfl, hmode, hsupports⟩ := mem_injectEvent h
      exact .injected event hmode hsupports
  | activate | batch | setOperationMode | destroySensor => cases h

end ContinuousSensor

end LgeHardware.Sensors
