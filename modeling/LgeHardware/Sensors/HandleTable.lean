import LgeHardware.Sensors.Continuous
import LgeHardware.Sensors.OneShot

/-! # The sensors behind one sub-HAL

`SensorsSubHal` gives its sensors handles from 1 on and finds them by these. A call is for the
sensor that it names, or for all of them where it sets the mode, so that each sensor behaves as
it would alone.
-/

namespace LgeHardware.Sensors

open LgeHardware.Foundation

/-- A sensor of either class. -/
inductive AnySensor
  | continuous (sensor : ContinuousSensor)
  | polling (sensor : SysfsPollingOneShotSensor)
  deriving DecidableEq, Repr

/-- What is not a call: a section of the run thread, and for the polling sensor also what the
file does and the second half of a call that sets the mode. -/
inductive OwnStep
  | turn (now elapsedRealtimeNano : Int)
  | polling (op : SensorOp)
  deriving DecidableEq, Repr

/-- What happens to one sensor. -/
inductive SensorStep
  | activate (enable : Bool)
  | batch (samplingPeriodNs : Int32)
  | flush
  | setOperationMode (mode : OperationMode)
  | injectEvent (event : Event)
  | own (step : OwnStep)
  deriving DecidableEq, Repr

namespace SensorStep

/-- What a step is for a continuous sensor. -/
def continuous : SensorStep → Option ContinuousOp
  | .activate enable => some (.activate enable)
  | .batch samplingPeriodNs => some (.batch samplingPeriodNs)
  | .flush => some .flush
  | .setOperationMode mode => some (.setOperationMode mode)
  | .injectEvent event => some (.injectEvent event)
  | .own (.turn now elapsedRealtimeNano) => some (.turn now elapsedRealtimeNano)
  | .own (.polling _) => none

/-- What a step is for a polling sensor, for which there is nothing to do in `batch`, `flush` and
`injectEvent`. -/
def polling : SensorStep → Option SensorOp
  | .activate enable => some (.activate enable)
  | .setOperationMode mode => some (.setOperationMode mode)
  | .own (.polling op) => some op
  | .batch _ | .flush | .injectEvent _ | .own (.turn ..) => none

end SensorStep

/-- What a polling sensor posted in a part of its log. -/
def reports (log : List SensorEvent) : List Posting :=
  log.flatMap fun
    | .postEvents events wakeup => events.map (.report · wakeup)
    | .writeEnable _ => []

namespace AnySensor

/-- `getSensorInfo`. -/
def getSensorInfo : AnySensor → SensorInfo
  | .continuous sensor => sensor.mSensorInfo
  | .polling sensor => sensor.mSensorInfo

def next : AnySensor → SensorStep → AnySensor
  | .continuous sensor, step =>
      .continuous ((step.continuous.map (sensor.perform · |>.1)).getD sensor)
  | .polling sensor, step => .polling ((step.polling.map sensor.next).getD sensor)

/-- What a step posts. -/
def out : AnySensor → SensorStep → List Posting
  | .continuous sensor, step => (step.continuous.map (sensor.perform · |>.2)).getD []
  | .polling sensor, .injectEvent event =>
      (injectEvent sensor.mSensorInfo sensor.mMode event).2
  | .polling sensor, step =>
      (step.polling.map fun op => reports ((sensor.next op).log.drop sensor.log.length)).getD []

/-- What a call of the sensor returns. `OneShotSensor::flush` always refuses. -/
def answer : AnySensor → SensorStep → Result
  | .continuous sensor, .flush => sensor.flush.1
  | .polling _, .flush => .badValue
  | .continuous sensor, .injectEvent event =>
      (injectEvent sensor.mSensorInfo sensor.mMode event).1
  | .polling sensor, .injectEvent event =>
      (injectEvent sensor.mSensorInfo sensor.mMode event).1
  | _, .activate _ | _, .batch _ | _, .setOperationMode _ | _, .own _ => .ok

def behaviour : Behaviour AnySensor SensorStep Posting := { next, out }

end AnySensor

/-! ## The sub-HAL -/

/-- A class for `AddSensor`, with the arguments and the state of the system that its constructor
finds. -/
inductive SensorSpec
  | continuous (type : Int) (flags : UInt32) (minDelay maxDelay : Int32) (mStopThread : Bool)
  | polling (type : Int) (mStopThread enableStream pipe pollFd : Bool) (content : Char)
      (edge : Bool)
  deriving DecidableEq, Repr

def SensorSpec.construct (sensorHandle : Int) : SensorSpec → AnySensor
  | .continuous type flags minDelay maxDelay mStopThread =>
      .continuous (.construct sensorHandle type flags minDelay maxDelay mStopThread)
  | .polling type mStopThread enableStream pipe pollFd content edge =>
      .polling (.construct sensorHandle type mStopThread enableStream pipe pollFd content edge)

/-- `mSensors`. -/
abbrev SensorTable := Std.ExtTreeMap Int AnySensor

namespace SensorTable

/-- `AddSensor`, with `mNextHandle`. -/
def addSensor (subHal : SensorTable × Int) (spec : SensorSpec) : SensorTable × Int :=
  let (mSensors, mNextHandle) := subHal
  let sensor := spec.construct mNextHandle
  (mSensors.insert sensor.getSensorInfo.sensorHandle sensor, mNextHandle + 1)

/-- The constructor, for any sensors that it adds. -/
def construct (specs : List SensorSpec) : SensorTable := (specs.foldl addSensor (∅, 1)).1

end SensorTable

/-- The calls of `SensorsSubHal`, and what its sensors do on their own. -/
inductive SubHalCall
  | initializeSubHal
  | setOperationMode (mode : OperationMode)
  | activate (sensorHandle : Int) (enabled : Bool)
  | batch (sensorHandle : Int) (samplingPeriodNs maxReportLatencyNs : Int64)
  | flush (sensorHandle : Int)
  | injectSensorData (event : Event)
  | own (sensorHandle : Int) (step : OwnStep)
  deriving DecidableEq, Repr

namespace SubHalCall

/-- The sensor that a call names, if it does, and what the call is for it. -/
def named : SubHalCall → Option (Int × SensorStep)
  | .initializeSubHal | .setOperationMode _ => none
  | .activate sensorHandle enabled => some (sensorHandle, .activate enabled)
  | .batch sensorHandle samplingPeriodNs _ => some (sensorHandle, .batch samplingPeriodNs.toInt32)
  | .flush sensorHandle => some (sensorHandle, .flush)
  | .injectSensorData event => some (event.sensorHandle, .injectEvent event)
  | .own sensorHandle step => some (sensorHandle, .own step)

/-- What a call is for all sensors. -/
def broadcast : SubHalCall → Option SensorStep
  | .initializeSubHal => some (.setOperationMode .normal)
  | .setOperationMode mode => some (.setOperationMode mode)
  | .activate .. | .batch .. | .flush _ | .injectSensorData _ | .own .. => none

/-- What a call is for one sensor. -/
def route (call : SubHalCall) (sensorHandle : Int) : Option SensorStep :=
  match call.named with
  | some (named, step) => if named = sensorHandle then some step else none
  | none => call.broadcast

end SubHalCall

namespace SensorTable

/-- A call for the sensor with a handle, if there is one. -/
def forward (mSensors : SensorTable) (sensorHandle : Int) (step : SensorStep) :
    SensorTable × List (Int × Posting) × Result :=
  match mSensors[sensorHandle]? with
  | some sensor => (mSensors.insert sensorHandle (sensor.next step),
      (sensor.out step).map (sensorHandle, ·), sensor.answer step)
  | none => (mSensors, [], .badValue)

/-- A call for all sensors, which posts nothing. -/
def forwardAll (mSensors : SensorTable) (step : SensorStep) :
    SensorTable × List (Int × Posting) × Result :=
  (mSensors.map fun _ sensor => sensor.next step, [], .ok)

/-- `setOperationMode`. -/
def setOperationMode (mSensors : SensorTable) (mode : OperationMode) :
    SensorTable × List (Int × Posting) × Result :=
  mSensors.forwardAll (.setOperationMode mode)

/-- The methods of the sub-HAL. `initialize` sets the mode, and `injectSensorData_2_1` finds the
sensor by the handle in the event. -/
def perform (mSensors : SensorTable) : SubHalCall → SensorTable × List (Int × Posting) × Result
  | .initializeSubHal => mSensors.setOperationMode .normal
  | .setOperationMode mode => mSensors.setOperationMode mode
  | .activate sensorHandle enabled => mSensors.forward sensorHandle (.activate enabled)
  | .batch sensorHandle samplingPeriodNs _ =>
      mSensors.forward sensorHandle (.batch samplingPeriodNs.toInt32)
  | .flush sensorHandle => mSensors.forward sensorHandle .flush
  | .injectSensorData event => mSensors.forward event.sensorHandle (.injectEvent event)
  | .own sensorHandle step => mSensors.forward sensorHandle (.own step)

def next (mSensors : SensorTable) (call : SubHalCall) : SensorTable := (mSensors.perform call).1

def put (mSensors : SensorTable) (call : SubHalCall) : List (Int × Posting) :=
  (mSensors.perform call).2.1

def answer (mSensors : SensorTable) (call : SubHalCall) : Result := (mSensors.perform call).2.2

variable {mSensors : SensorTable}

/-! ## Each sensor on its own -/

theorem perform_of_named {call : SubHalCall} {sensorHandle : Int} {step : SensorStep}
    (hnamed : call.named = some (sensorHandle, step)) :
    mSensors.perform call = mSensors.forward sensorHandle step := by
  cases call <;> cases hnamed <;> rfl

/-- A call that names no sensor sets the mode of all. -/
theorem perform_of_unnamed (mSensors : SensorTable) {call : SubHalCall}
    (hnamed : call.named = none) :
    ∃ mode, call.broadcast = some (.setOperationMode mode) ∧
      mSensors.perform call = mSensors.forwardAll (.setOperationMode mode) := by
  cases call with
  | initializeSubHal => exact ⟨.normal, rfl, rfl⟩
  | setOperationMode mode => exact ⟨mode, rfl, rfl⟩
  | activate | batch | flush | injectSensorData | own => cases hnamed

theorem putBy_map_pair (key sensorHandle : Int) (postings : List Posting) :
    putBy key (postings.map (sensorHandle, ·)) = if sensorHandle = key then postings else [] := by
  rw [putBy, List.filterMap_map]
  split
  next heq =>
    have hall : ((fun entry : Int × Posting => if entry.1 = key then some entry.2 else none) ∘
        fun posting => (sensorHandle, posting)) = some := by
      funext posting
      exact if_pos heq
    rw [hall, List.filterMap_some]
  next hne =>
    refine List.filterMap_eq_nil_iff.mpr fun posting _ => ?_
    exact if_neg hne

/-- Setting the mode posts nothing. -/
theorem out_setOperationMode (sensor : AnySensor) (mode : OperationMode) :
    sensor.out (.setOperationMode mode) = [] := by
  cases sensor with
  | continuous sensor => rfl
  | polling sensor =>
      have hlog : (sensor.next (.setOperationMode mode)).log = sensor.log := by
        rw [SysfsPollingOneShotSensor.next]
        split <;> rfl
      rw [AnySensor.out]
      · simp only [SensorStep.polling, Option.map_some, Option.getD_some, hlog, List.drop_length]
        rfl
      · intro event heq
        cases heq

theorem getElem?_forward (sensorHandle key : Int) (step : SensorStep) :
    (mSensors.forward sensorHandle step).1[key]? = mSensors[key]?.map fun sensor =>
      if sensorHandle = key then sensor.next step else sensor := by
  by_cases heq : sensorHandle = key
  · subst heq
    rw [forward]
    cases hfound : mSensors[sensorHandle]? with
    | none => exact hfound
    | some sensor => simp
  · have hsame : (mSensors.forward sensorHandle step).1[key]? = mSensors[key]? := by
      rw [forward]
      cases hfound : mSensors[sensorHandle]? with
      | none => rfl
      | some sensor => rw [Std.ExtTreeMap.getElem?_insert_of_eq, if_neg heq]
    rw [hsame]
    simp [heq]

theorem putBy_forward (sensorHandle key : Int) (step : SensorStep) :
    putBy key (mSensors.forward sensorHandle step).2.1 =
      if sensorHandle = key then (mSensors[key]?.map (·.out step)).getD [] else [] := by
  rw [forward]
  cases hfound : mSensors[sensorHandle]? with
  | none =>
      dsimp only
      split
      next heq => rw [← heq, hfound]; rfl
      next => rfl
  | some sensor =>
      rw [putBy_map_pair]
      split
      next heq => rw [← heq, hfound]; rfl
      next => rfl

/-- The table is one of machines that do not meddle with each other. -/
theorem routes : Routes AnySensor.behaviour SubHalCall.route next put := by
  constructor
  · intro mSensors call key
    cases hnamed : call.named with
    | none =>
        obtain ⟨mode, hbroadcast, hperform⟩ := perform_of_unnamed mSensors hnamed
        rw [next, hperform, forwardAll, SubHalCall.route, hnamed, hbroadcast,
          Std.ExtTreeMap.getElem?_map]
        rfl
    | some entry =>
        obtain ⟨sensorHandle, step⟩ := entry
        rw [next, perform_of_named hnamed, getElem?_forward, SubHalCall.route, hnamed]
        dsimp only
        split <;> rfl
  · intro mSensors call key
    cases hnamed : call.named with
    | none =>
        obtain ⟨mode, hbroadcast, hperform⟩ := perform_of_unnamed mSensors hnamed
        rw [put, hperform, forwardAll, SubHalCall.route, hnamed, hbroadcast]
        cases mSensors[key]? with
        | none => rfl
        | some sensor => exact (out_setOperationMode sensor mode).symm
    | some entry =>
        obtain ⟨sensorHandle, step⟩ := entry
        rw [put, perform_of_named hnamed, putBy_forward, SubHalCall.route, hnamed]
        dsimp only
        cases mSensors[key]? with
        | none => split <;> rfl
        | some sensor => split <;> rfl

/-! ## Handles -/

theorem sensorHandle_construct (sensorHandle : Int) (spec : SensorSpec) :
    (spec.construct sensorHandle).getSensorInfo.sensorHandle = sensorHandle := by
  cases spec <;> rfl

/-- The sensors get the handles from the next one on, in order. -/
theorem getElem?_addSensors (specs : List SensorSpec) (start : SensorTable) (first key : Int) :
    (specs.foldl addSensor (start, first)).1[key]? =
      if first ≤ key ∧ key < first + specs.length then
        specs[(key - first).toNat]?.map (·.construct key)
      else start[key]? := by
  induction specs generalizing start first with
  | nil =>
      rw [List.foldl_nil, List.length_nil, if_neg (by omega)]
  | cons spec rest ih =>
      rw [List.foldl_cons, addSensor, sensorHandle_construct, ih, List.length_cons]
      by_cases hfirst : key = first
      · subst hfirst
        rw [if_neg (by omega), if_pos (by omega), Std.ExtTreeMap.getElem?_insert_self, Int.sub_self]
        rfl
      · have hindex : first < key → (key - first).toNat = (key - (first + 1)).toNat + 1 := by omega
        by_cases hin : first + 1 ≤ key ∧ key < first + 1 + rest.length
        · rw [if_pos hin, if_pos (by omega), hindex (by omega), List.getElem?_cons_succ]
        · rw [if_neg hin, if_neg (by omega), Std.ExtTreeMap.getElem?_insert_of_eq,
            if_neg (Ne.symm hfirst)]

theorem getElem?_construct (specs : List SensorSpec) (key : Int) :
    (construct specs)[key]? =
      if 1 ≤ key ∧ key < 1 + specs.length then specs[(key - 1).toNat]?.map (·.construct key)
      else none := by
  rw [construct, getElem?_addSensors, Std.ExtTreeMap.getElem?_empty]

/-- A handle that the constructor gave to a sensor. -/
theorem getElem?_construct_of_index {specs : List SensorSpec} {index : Nat} {spec : SensorSpec}
    (hspec : specs[index]? = some spec) :
    (construct specs)[(index + 1 : Int)]? = some (spec.construct (index + 1)) := by
  have hlength := (List.getElem?_eq_some_iff.mp hspec).choose
  have hindex : ((index : Int) + 1 - 1).toNat = index := by omega
  rw [getElem?_construct, if_pos (by omega), hindex, hspec, Option.map_some]

/-! ## The whole sub-HAL -/

/-- What a run of the sub-HAL with these sensors posts. -/
def postings (specs : List SensorSpec) (calls : List SubHalCall) : List (Int × Posting) :=
  outputs next put (construct specs) calls

/-- A handle that no sensor has: the call is refused, changes nothing and posts nothing. -/
theorem perform_of_unknown {sensorHandle : Int} (hunknown : mSensors[sensorHandle]? = none)
    {call : SubHalCall} {step : SensorStep} (hnamed : call.named = some (sensorHandle, step)) :
    mSensors.perform call = (mSensors, [], .badValue) := by
  rw [perform_of_named hnamed, forward, hunknown]

/-- Every sensor is where it would be alone with the calls for it, and posts what it would post
alone. A handle that was not given to a sensor is refused for ever, without an effect. -/
theorem sensors_independent (specs : List SensorSpec) (calls : List SubHalCall) :
    (∀ (index : Nat) (spec : SensorSpec), specs[index]? = some spec →
      (run next (construct specs) calls)[(index + 1 : Int)]? =
          some (run AnySensor.next (spec.construct (index + 1))
            (told SubHalCall.route (index + 1 : Int) calls)) ∧
        putBy (index + 1 : Int) (postings specs calls) =
          outputs AnySensor.next AnySensor.out (spec.construct (index + 1))
            (told SubHalCall.route (index + 1 : Int) calls)) ∧
      ∀ sensorHandle : Int, sensorHandle < 1 ∨ specs.length < sensorHandle →
        putBy sensorHandle (postings specs calls) = [] ∧
          ∀ call step, call.named = some (sensorHandle, step) →
            (run next (construct specs) calls).perform call =
              (run next (construct specs) calls, [], .badValue) := by
  constructor
  · intro index spec hspec
    have hfound := getElem?_construct_of_index hspec
    constructor
    · rw [routes.getElem?_run, hfound]
      rfl
    · rw [postings, routes.putBy_outputs, hfound]
      rfl
  · intro sensorHandle hout
    have hunknown : (construct specs)[sensorHandle]? = none := by
      rw [getElem?_construct, if_neg (by omega)]
    constructor
    · rw [postings, routes.putBy_outputs, hunknown]
      rfl
    · intro call step hnamed
      apply perform_of_unknown _ hnamed
      rw [routes.getElem?_run, hunknown]
      rfl

end SensorTable

end LgeHardware.Sensors
