import Mathlib.Algebra.Group.Int.Defs
import LgeHardware.Foundation.Clamp
import LgeHardware.Foundation.OrdMap

/-! # The sampling period

`SensorsSubHal::batch` takes the period as 64 bits and `Sensor::batch` as 32 bits, and only the
latter clamps it to the delays of the sensor. What is clamped of a period of more than 2.1 s
is its low 32 bits.
-/

namespace LgeHardware.Sensors

open LgeHardware.Foundation

/-- `V1_0::Result`. -/
inductive Result
  | ok
  | badValue
  | invalidOperation
  deriving DecidableEq, Repr

/-- The class of a sensor, which says what its virtual methods do. -/
inductive SensorClass
  | sensor
  | oneShotSensor
  deriving DecidableEq, Repr

/-- `Sensor`, as far as its sampling period depends on it. The delays are those of
`mSensorInfo`, in microseconds. -/
structure Sensor where
  sensorClass : SensorClass
  minDelay : Int32
  maxDelay : Int32
  mSamplingPeriodNs : Int64 := 0
  /-- The calls of `mWaitCV.notify_all` so far. -/
  notified : Nat := 0
  deriving DecidableEq, Repr

/-- `std::clamp`. -/
def stdClamp (v lo hi : Int32) : Int32 := if v < lo then lo else if hi < v then hi else v

/-- `Sensor::batch`, and `OneShotSensor::batch`, which does nothing. -/
def Sensor.batch (sensor : Sensor) (samplingPeriodNs : Int32) : Sensor :=
  match sensor.sensorClass with
  | .oneShotSensor => sensor
  | .sensor =>
      let samplingPeriodNs :=
        stdClamp samplingPeriodNs (sensor.minDelay * 1000) (sensor.maxDelay * 1000)
      if sensor.mSamplingPeriodNs ≠ samplingPeriodNs.toInt64 then
        { sensor with
          mSamplingPeriodNs := samplingPeriodNs.toInt64
          notified := sensor.notified + 1 }
      else sensor

/-- `SensorsSubHal`, by its table of sensors. -/
structure SensorsSubHal where
  mSensors : Std.ExtTreeMap Int32 Sensor

/-- `SensorsSubHal::batch`. The call of `Sensor::batch` converts the period. -/
def SensorsSubHal.batch (subHal : SensorsSubHal) (sensorHandle : Int32)
    (samplingPeriodNs _maxReportLatencyNs : Int64) : Result × SensorsSubHal :=
  match subHal.mSensors[sensorHandle]? with
  | some sensor =>
      (.ok, { mSensors := subHal.mSensors.insert sensorHandle
                (sensor.batch samplingPeriodNs.toInt32) })
  | none => (.badValue, subHal)

/-- The sampling period of a sensor. -/
def SensorsSubHal.periodOf (subHal : SensorsSubHal) (sensorHandle : Int32) : Option Int :=
  subHal.mSensors[sensorHandle]?.map (·.mSamplingPeriodNs.toInt)

namespace Sensor

/-- The delays are in order and not negative, and in nanoseconds they fit into 32 bits. -/
structure DelaysFit (sensor : Sensor) : Prop where
  nonneg : 0 ≤ sensor.minDelay.toInt
  ordered : sensor.minDelay.toInt ≤ sensor.maxDelay.toInt
  fits : sensor.maxDelay.toInt * 1000 < 2 ^ 31

/-- A period clamped to the delays of the sensor. -/
def clamped (sensor : Sensor) (samplingPeriodNs : Int) : Int :=
  clamp (sensor.minDelay.toInt * 1000) (sensor.maxDelay.toInt * 1000) samplingPeriodNs

/-- The period fits into 32 bits, or its low 32 bits are beyond the same delay. -/
def Arrives (sensor : Sensor) (samplingPeriodNs : Int) : Prop :=
  sensor.minDelay = sensor.maxDelay ∨
    (-2 ^ 31 ≤ samplingPeriodNs ∧ samplingPeriodNs < 2 ^ 31) ∨
      (2 ^ 31 ≤ samplingPeriodNs ∧
        sensor.maxDelay.toInt * 1000 ≤ samplingPeriodNs % 2 ^ 32 ∧
          samplingPeriodNs % 2 ^ 32 < 2 ^ 31) ∨
        (samplingPeriodNs < -2 ^ 31 ∧
          (samplingPeriodNs % 2 ^ 32 ≤ sensor.minDelay.toInt * 1000 ∨
            2 ^ 31 ≤ samplingPeriodNs % 2 ^ 32))

instance (sensor : Sensor) (samplingPeriodNs : Int) :
    Decidable (sensor.Arrives samplingPeriodNs) :=
  inferInstanceAs (Decidable (_ ∨ _))

theorem toInt_stdClamp (v lo hi : Int32) (h : lo.toInt ≤ hi.toInt) :
    (stdClamp v lo hi).toInt = clamp lo.toInt hi.toInt v.toInt := by
  rw [stdClamp]
  simp only [Int32.lt_iff_toInt_lt]
  split
  next hlow => rw [clamp_of_le_lower hlow.le]
  next hlow =>
    split
    next hhigh => rw [clamp_of_upper_le h hhigh.le]
    next hhigh => rw [clamp, min_eq_left (not_lt.mp hhigh), max_eq_right (not_lt.mp hlow)]

/-- A delay in nanoseconds. -/
theorem toInt_mul_thousand {delay : Int32} (hnonneg : 0 ≤ delay.toInt)
    (hfits : delay.toInt * 1000 < 2 ^ 31) : (delay * 1000).toInt = delay.toInt * 1000 := by
  rw [Int32.toInt_mul]
  exact Int.bmod_eq_of_le (by simp; omega) (by simp; omega)

variable {sensor : Sensor}

/-- A one-shot sensor has no period to set. -/
theorem batch_oneShot (hclass : sensor.sensorClass = .oneShotSensor) (samplingPeriodNs : Int32) :
    sensor.batch samplingPeriodNs = sensor := by
  rw [batch, hclass]

/-- The period of a continuous sensor is the one asked for, as 32 bits, clamped to its delays. -/
theorem toInt_batch (hclass : sensor.sensorClass = .sensor) (hdelays : sensor.DelaysFit)
    (samplingPeriodNs : Int32) :
    (sensor.batch samplingPeriodNs).mSamplingPeriodNs.toInt =
      sensor.clamped samplingPeriodNs.toInt := by
  obtain ⟨hnonneg, hordered, hfits⟩ := hdelays
  have hmin : (sensor.minDelay * 1000).toInt = sensor.minDelay.toInt * 1000 :=
    toInt_mul_thousand hnonneg (by omega)
  have hmax : (sensor.maxDelay * 1000).toInt = sensor.maxDelay.toInt * 1000 :=
    toInt_mul_thousand (by omega) hfits
  have hset : (sensor.batch samplingPeriodNs).mSamplingPeriodNs =
      (stdClamp samplingPeriodNs (sensor.minDelay * 1000) (sensor.maxDelay * 1000)).toInt64 := by
    rw [batch, hclass]
    dsimp only
    split
    next => rfl
    next hsame => exact of_not_not hsame
  rw [hset, Int32.toInt_toInt64, toInt_stdClamp _ _ _ (by omega), hmin, hmax, clamped]

/-- The period that arrives is clamped as the whole of it would be in just these cases. -/
theorem clamped_toInt32_iff (hdelays : sensor.DelaysFit) (samplingPeriodNs : Int64) :
    sensor.clamped samplingPeriodNs.toInt32.toInt = sensor.clamped samplingPeriodNs.toInt ↔
      sensor.Arrives samplingPeriodNs.toInt := by
  obtain ⟨hnonneg, hordered, hfits⟩ := hdelays
  have hsame : sensor.minDelay.toInt * 1000 = sensor.maxDelay.toInt * 1000 ↔
      sensor.minDelay = sensor.maxDelay := by
    rw [← Int32.toInt_inj]
    omega
  have hlo : 0 ≤ sensor.minDelay.toInt * 1000 := by omega
  have hle : sensor.minDelay.toInt * 1000 ≤ sensor.maxDelay.toInt * 1000 := by omega
  have hhi : sensor.maxDelay.toInt * 1000 < ((2 ^ 31 : Nat) : Int) := by simpa using hfits
  have hclamp := clamp_bmod_eq_iff hlo hle hhi samplingPeriodNs.toInt
  rw [hsame] at hclamp
  rw [Int64.toInt_toInt32, clamped, clamped]
  exact hclamp

end Sensor

namespace SensorsSubHal

variable {subHal : SensorsSubHal} {sensorHandle : Int32} {sensor : Sensor}

theorem batch_of_found (hfound : subHal.mSensors[sensorHandle]? = some sensor)
    (samplingPeriodNs maxReportLatencyNs : Int64) :
    subHal.batch sensorHandle samplingPeriodNs maxReportLatencyNs =
      (.ok, { mSensors := subHal.mSensors.insert sensorHandle
                (sensor.batch samplingPeriodNs.toInt32) }) := by
  rw [batch, hfound]

theorem periodOf_batch (hfound : subHal.mSensors[sensorHandle]? = some sensor)
    (hclass : sensor.sensorClass = .sensor) (hdelays : sensor.DelaysFit)
    (samplingPeriodNs maxReportLatencyNs : Int64) :
    (subHal.batch sensorHandle samplingPeriodNs maxReportLatencyNs).2.periodOf sensorHandle =
      some (sensor.clamped samplingPeriodNs.toInt32.toInt) := by
  rw [batch_of_found hfound, periodOf, Std.ExtTreeMap.getElem?_insert_self, Option.map_some,
    Sensor.toInt_batch hclass hdelays]

/-- Whether a longer period ever yields a shorter one. -/
theorem clamped_toInt32_monotone_iff (hdelays : sensor.DelaysFit) :
    (∀ period longer : Int64, period ≤ longer →
      sensor.clamped period.toInt32.toInt ≤ sensor.clamped longer.toInt32.toInt) ↔
        sensor.minDelay = sensor.maxDelay := by
  obtain ⟨hnonneg, hordered, hfits⟩ := hdelays
  constructor
  · intro hmonotone
    -- the low 32 bits of `2 ^ 32` are zero, which is clamped to the shortest period
    have hmax := Sensor.toInt_mul_thousand (by omega) hfits
    have hturn : (4294967296 : Int64).toInt = 4294967296 := by decide
    have hzero : (4294967296 : Int64).toInt32.toInt = 0 := by decide
    have hle : (sensor.maxDelay * 1000).toInt64 ≤ 4294967296 := by
      rw [Int64.le_iff_toInt_le, Int32.toInt_toInt64, hmax, hturn]
      omega
    have hshorter := hmonotone _ _ hle
    rw [Int32.toInt32_toInt64, hmax, hzero, Sensor.clamped, Sensor.clamped,
      clamp_of_upper_le (by omega) le_rfl, clamp_of_le_lower (by omega)] at hshorter
    rw [← Int32.toInt_inj]
    omega
  · intro hsame period longer _
    have hsingle (x : Int) : sensor.clamped x = sensor.minDelay.toInt * 1000 := by
      rw [Sensor.clamped, ← hsame]
      exact clamp_eq_lower_iff.mpr (.inl le_rfl)
    rw [hsingle, hsingle]

/-- After `batch` a continuous sensor has the clamped period exactly if the period arrives. A
longer period does not yield a shorter one if both arrive, and it never does only for a sensor
that has a single period. -/
theorem batch_clamps_iff (hfound : subHal.mSensors[sensorHandle]? = some sensor)
    (hclass : sensor.sensorClass = .sensor) (hdelays : sensor.DelaysFit)
    (maxReportLatencyNs : Int64) :
    (∀ samplingPeriodNs : Int64,
      (subHal.batch sensorHandle samplingPeriodNs maxReportLatencyNs).2.periodOf sensorHandle =
          some (sensor.clamped samplingPeriodNs.toInt) ↔
        sensor.Arrives samplingPeriodNs.toInt) ∧
      (∀ period longer : Int64, period ≤ longer →
        sensor.Arrives period.toInt → sensor.Arrives longer.toInt →
          ∀ set ∈ (subHal.batch sensorHandle period maxReportLatencyNs).2.periodOf sensorHandle,
          ∀ setLonger ∈ (subHal.batch sensorHandle longer maxReportLatencyNs).2.periodOf
            sensorHandle, set ≤ setLonger) ∧
      ((∀ period longer : Int64, period ≤ longer →
        ∀ set ∈ (subHal.batch sensorHandle period maxReportLatencyNs).2.periodOf sensorHandle,
        ∀ setLonger ∈ (subHal.batch sensorHandle longer maxReportLatencyNs).2.periodOf
          sensorHandle, set ≤ setLonger) ↔
        sensor.minDelay = sensor.maxDelay) := by
  simp only [periodOf_batch hfound hclass hdelays, Option.some.injEq, Option.mem_some_iff,
    forall_eq']
  refine ⟨Sensor.clamped_toInt32_iff hdelays, ?_, clamped_toInt32_monotone_iff hdelays⟩
  intro period longer hle hperiod hlonger
  rw [(Sensor.clamped_toInt32_iff hdelays period).mpr hperiod,
    (Sensor.clamped_toInt32_iff hdelays longer).mpr hlonger]
  exact clamp_le_clamp (Int64.le_iff_toInt_le.mp hle)

/-- A sensor with periods from 10 ms to 1 s. -/
def slowest : Sensor := { sensorClass := .sensor, minDelay := 10000, maxDelay := 1000000 }

def oneSensor : SensorsSubHal := { mSensors := (∅ : Std.ExtTreeMap Int32 Sensor).insert 1 slowest }

theorem oneSensor_found : oneSensor.mSensors[(1 : Int32)]? = some slowest :=
  Std.ExtTreeMap.getElem?_insert_self

theorem slowest_delaysFit : slowest.DelaysFit := ⟨by decide, by decide, by decide⟩

/-- A period of 5 s arrives as one of 705 ms. -/
theorem batch_clamps_iff_fiveSeconds :
    (oneSensor.batch 1 5000000000 0).2.periodOf 1 ≠ some (slowest.clamped 5000000000) := by
  intro hset
  have harrives := ((batch_clamps_iff oneSensor_found rfl slowest_delaysFit 0).1 5000000000).mp hset
  exact absurd harrives (by decide)

/-- The period of 5 s is not clamped to the longest period. -/
theorem fiveSeconds_notClamped : ¬ ∀ (subHal : SensorsSubHal) (sensorHandle : Int32)
    (sensor : Sensor), subHal.mSensors[sensorHandle]? = some sensor →
      sensor.sensorClass = .sensor → sensor.DelaysFit →
        ∀ samplingPeriodNs maxReportLatencyNs : Int64,
          (subHal.batch sensorHandle samplingPeriodNs maxReportLatencyNs).2.periodOf sensorHandle =
            some (sensor.clamped samplingPeriodNs.toInt) := by
  intro hclamped
  have hset := hclamped oneSensor 1 slowest oneSensor_found rfl slowest_delaysFit 5000000000 0
  rw [periodOf_batch oneSensor_found rfl slowest_delaysFit] at hset
  exact absurd hset (by decide)

end SensorsSubHal

end LgeHardware.Sensors
