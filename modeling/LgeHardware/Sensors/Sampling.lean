import LgeHardware.Sensors.HandleTable

/-! # What the sensors of a sub-HAL post

Whatever clients do to the other sensors, a continuous sensor takes its samples at the period
that is in force for it, only while it is enabled and in normal mode, and it posts nothing else
but the ends of flushes and, in the mode for that, the events that are injected.
-/

namespace LgeHardware.Sensors

open LgeHardware.Foundation

/-- A continuous sensor that is told what concerns it not stays as it is. -/
theorem AnySensor.run_continuous (sensor : ContinuousSensor) (steps : List SensorStep) :
    run AnySensor.next (.continuous sensor) steps =
        .continuous (run ContinuousSensor.behaviour.next sensor
          (steps.filterMap SensorStep.continuous)) ∧
      outputs AnySensor.next AnySensor.out (.continuous sensor) steps =
        outputs ContinuousSensor.behaviour.next ContinuousSensor.behaviour.out sensor
          (steps.filterMap SensorStep.continuous) := by
  induction steps generalizing sensor with
  | nil => exact ⟨rfl, rfl⟩
  | cons step rest ih =>
      cases hstep : step.continuous with
      | none =>
          rw [List.filterMap_cons_none hstep, run_cons, outputs, AnySensor.next, AnySensor.out,
            hstep]
          exact ih sensor
      | some op =>
          rw [List.filterMap_cons_some hstep, run_cons, run_cons, outputs, outputs, AnySensor.next,
            AnySensor.out, hstep]
          obtain ⟨hrun, houtputs⟩ := ih (sensor.perform op).1
          exact ⟨hrun, congrArg ((sensor.perform op).2 ++ ·) houtputs⟩

namespace SubHalCall

/-- What a call is for a continuous sensor. -/
def continuousOp (sensorHandle : Int) (call : SubHalCall) : Option ContinuousOp :=
  (call.route sensorHandle).bind SensorStep.continuous

/-- What a call says about whether a sensor is enabled. -/
def enables (sensorHandle : Int) : SubHalCall → Option Bool
  | .activate named enabled => if named = sensorHandle then some enabled else none
  | .initializeSubHal | .setOperationMode _ | .batch .. | .flush _ | .injectSensorData _
  | .own .. => none

/-- What a call says about the mode. -/
def sets : SubHalCall → Option OperationMode
  | .initializeSubHal => some .normal
  | .setOperationMode mode => some mode
  | .activate .. | .batch .. | .flush _ | .injectSensorData _ | .own .. => none

end SubHalCall

namespace SensorTable

/-- The samples of a sensor in a run. -/
def samplesOf (mSensors : SensorTable) (sensorHandle : Int) (calls : List SubHalCall) :
    List Passed :=
  (putBy sensorHandle (outputs next put mSensors calls)).filterMap Posting.passed

variable {mSensors : SensorTable} {sensorHandle : Int} {sensor : ContinuousSensor}

/-- A continuous sensor of the table on its own. -/
theorem run_of_continuous (hsensor : mSensors[sensorHandle]? = some (.continuous sensor))
    (calls : List SubHalCall) :
    (run next mSensors calls)[sensorHandle]? =
        some (.continuous (run ContinuousSensor.behaviour.next sensor
          (calls.filterMap (·.continuousOp sensorHandle)))) ∧
      putBy sensorHandle (outputs next put mSensors calls) =
        outputs ContinuousSensor.behaviour.next ContinuousSensor.behaviour.out sensor
          (calls.filterMap (·.continuousOp sensorHandle)) := by
  have htold : (told SubHalCall.route sensorHandle calls).filterMap SensorStep.continuous =
      calls.filterMap (·.continuousOp sensorHandle) := List.filterMap_filterMap
  obtain ⟨hrun, houtputs⟩ :=
    AnySensor.run_continuous sensor (told SubHalCall.route sensorHandle calls)
  rw [htold] at hrun houtputs
  constructor
  · rw [routes.getElem?_run, hsensor]
    exact congrArg some hrun
  · rw [routes.putBy_outputs, hsensor]
    exact houtputs

/-- The samples of a continuous sensor are those that it would take alone. -/
theorem samplesOf_of_continuous (hsensor : mSensors[sensorHandle]? = some (.continuous sensor))
    (calls : List SubHalCall) :
    mSensors.samplesOf sensorHandle calls =
      sensor.samples (calls.filterMap (·.continuousOp sensorHandle)) := by
  rw [samplesOf, (run_of_continuous hsensor calls).2, ContinuousSensor.samples]

/-- Each sample of a continuous sensor is at least the period in force after the one before it.
Where the delays of the sensor are in order and fit into 32 bits as nanoseconds, the periods are
within them from the first `batch` call for the sensor on, and in any span of the clock there are
not more samples than shortest periods fit into it, and one. -/
theorem samples_keep_period {specs : List SensorSpec} {index : Nat} {type : Int} {flags : UInt32}
    {minDelay maxDelay : Int32} {mStopThread : Bool}
    (hspec : specs[index]? = some (.continuous type flags minDelay maxDelay mStopThread))
    (before after : List SubHalCall) (samplingPeriodNs maxReportLatencyNs : Int64) :
    let batch := SubHalCall.batch (index + 1) samplingPeriodNs maxReportLatencyNs
    let later := (run next (construct specs) (before ++ [batch])).samplesOf (index + 1) after
    (construct specs).samplesOf (index + 1) (before ++ batch :: after) =
        (construct specs).samplesOf (index + 1) before ++ later ∧
      Kept 0 ((construct specs).samplesOf (index + 1) before ++ later) ∧
      (0 ≤ minDelay.toInt → minDelay.toInt ≤ maxDelay.toInt → maxDelay.toInt * 1000 < 2 ^ 31 →
        (∀ sample ∈ later, minDelay.toInt * 1000 ≤ sample.distance ∧
          sample.distance ≤ maxDelay.toInt * 1000) ∧
        ∀ low high, low ≤ high →
          (later.countP (fun sample => low ≤ sample.time ∧ sample.time ≤ high) : Int) *
            (minDelay.toInt * 1000) ≤ high - low + minDelay.toInt * 1000) := by
  intro batch later
  have hsensor := getElem?_construct_of_index hspec
  rw [SensorSpec.construct] at hsensor
  have hbatch : batch.continuousOp (index + 1) = some (.batch samplingPeriodNs.toInt32) := by
    simp [batch, SubHalCall.continuousOp, SubHalCall.route, SubHalCall.named,
      SensorStep.continuous]
  -- The run is cut at the `batch` call: the sensor that has got it has its period within the
  -- delays.
  have hrun := (run_of_continuous hsensor (before ++ [batch])).1
  rw [List.filterMap_append, List.filterMap_cons_some hbatch, List.filterMap_nil] at hrun
  have hsamples := samplesOf_of_continuous hrun after
  have hall : (construct specs).samplesOf (index + 1) (before ++ batch :: after) =
      (construct specs).samplesOf (index + 1) before ++ later := by
    rw [samplesOf_of_continuous hsensor, samplesOf_of_continuous hsensor, List.filterMap_append,
      List.filterMap_cons_some hbatch, ContinuousSensor.samples_append_batch]
    exact congrArg _ hsamples.symm
  have hkept : Kept 0 ((construct specs).samplesOf (index + 1) before ++ later) := by
    rw [← hall, samplesOf_of_continuous hsensor]
    exact (ContinuousSensor.kept_samples
      (s := .construct (index + 1) type flags minDelay maxDelay mStopThread) _).1
  refine ⟨hall, hkept, fun hnonneg hordered hfits => ?_⟩
  have hlater : ∀ sample ∈ later, minDelay.toInt * 1000 ≤ sample.distance ∧
      sample.distance ≤ maxDelay.toInt * 1000 := by
    rw [show later = _ from hsamples]
    exact ContinuousSensor.distance_of_mem_samples_after_batch
      (s := .construct (index + 1) type flags minDelay maxDelay mStopThread) rfl
      ⟨hnonneg, hordered, hfits⟩ _ _ _
  refine ⟨hlater, fun low high hspan => ?_⟩
  exact (kept_append.mp hkept).2.count_le (by omega) (fun sample hmem => (hlater sample hmem).1)
    hspan

/-- A polling sensor, and one that samples every 10 ms at most. -/
def twoSensors : List SensorSpec :=
  [.polling 65538 false true true true '0' false, .continuous 1 0 10000 1000000 false]

/-- The second sensor is enabled, and its thread finds the clock at 20, 25 and 30 ms. -/
def threeTurns : List SubHalCall :=
  [.activate 2 true, .own 2 (.turn 20000000 7), .own 2 (.turn 25000000 8),
    .own 2 (.turn 30000000 9)]

/-- Two samples are taken, and no three in a span that is shorter than 20 ms. -/
theorem samples_keep_period_second :
    let later := (run next (construct twoSensors) [.batch 2 0 0]).samplesOf 2 threeTurns
    later.map (·.time) = [20000000, 30000000] ∧
      ∀ low high, low ≤ high →
        (later.countP (fun sample => low ≤ sample.time ∧ sample.time ≤ high) : Int) * 10000000 ≤
          high - low + 10000000 := by
  refine ⟨by decide +kernel, ?_⟩
  exact ((@samples_keep_period twoSensors 1 1 0 10000 1000000 false rfl [] threeTurns 0 0).2.2
    (by decide) (by decide) (by decide)).2

/-! ## Why a sensor posts something -/

/-- Why a continuous sensor posts something in a call: the calls before it left it enabled, or in
the mode that is required. -/
inductive Explained (sensorHandle : Int) (info : SensorInfo) (before : List SubHalCall) :
    SubHalCall → Posting → Prop
  | sample (now samplingPeriodNs elapsedRealtimeNano : Int) (event : Event)
      (hevent : event.sensorHandle = sensorHandle ∧ event.sensorType = info.type ∧
        event.timestamp = elapsedRealtimeNano)
      (henabled : latest (SubHalCall.enables sensorHandle) false before = true)
      (hmode : latest SubHalCall.sets .normal before = .normal) :
      Explained sensorHandle info before (.own sensorHandle (.turn now elapsedRealtimeNano))
        (.sample now samplingPeriodNs event info.isWakeUpSensor)
  | flushComplete (henabled : latest (SubHalCall.enables sensorHandle) false before = true) :
      Explained sensorHandle info before (.flush sensorHandle)
        (.flushComplete sensorHandle info.isWakeUpSensor)
  | injected (event : Event) (hevent : event.sensorHandle = sensorHandle)
      (hmode : latest SubHalCall.sets .normal before = .dataInjection)
      (hsupports : info.supportsDataInjection = true) :
      Explained sensorHandle info before (.injectSensorData event)
        (.injected event info.isWakeUpSensor)

/-- Whether a sensor is enabled, and in which mode, is what the calls said last. -/
theorem latest_continuousOp (sensorHandle : Int) (calls : List SubHalCall) :
    latest ContinuousSensor.enabledBy false (calls.filterMap (·.continuousOp sensorHandle)) =
        latest (SubHalCall.enables sensorHandle) false calls ∧
      latest ContinuousSensor.modeBy .normal (calls.filterMap (·.continuousOp sensorHandle)) =
        latest SubHalCall.sets .normal calls := by
  have hcall : ∀ call : SubHalCall,
      (call.continuousOp sensorHandle).bind ContinuousSensor.enabledBy =
          call.enables sensorHandle ∧
        (call.continuousOp sensorHandle).bind ContinuousSensor.modeBy = call.sets := by
    intro call
    rw [SubHalCall.continuousOp, SubHalCall.route]
    cases call with
    | initializeSubHal | setOperationMode => exact ⟨rfl, rfl⟩
    | activate | batch | flush | injectSensorData =>
        simp only [SubHalCall.named, SubHalCall.enables, SubHalCall.sets]
        split <;> exact ⟨rfl, rfl⟩
    | own named step =>
        simp only [SubHalCall.named, SubHalCall.enables, SubHalCall.sets]
        split
        next => cases step <;> exact ⟨rfl, rfl⟩
        next => exact ⟨rfl, rfl⟩
  rw [latest_filterMap, latest_filterMap, funext fun call => (hcall call).1,
    funext fun call => (hcall call).2]
  exact ⟨rfl, rfl⟩

/-- What a sensor posts is posted by an operation for it. -/
theorem exists_op_of_mem_put (hsensor : mSensors[sensorHandle]? = some (.continuous sensor))
    {call : SubHalCall} {posting : Posting} (h : (sensorHandle, posting) ∈ mSensors.put call) :
    ∃ op, call.continuousOp sensorHandle = some op ∧ posting ∈ (sensor.perform op).2 := by
  have hmem : posting ∈ putBy sensorHandle (mSensors.put call) :=
    List.mem_filterMap.mpr ⟨_, h, if_pos rfl⟩
  rw [routes.putBy_put, hsensor, Option.bind_some] at hmem
  rw [SubHalCall.continuousOp]
  cases hroute : call.route sensorHandle with
  | none =>
      rw [hroute] at hmem
      cases hmem
  | some step =>
      rw [hroute] at hmem
      cases hstep : step.continuous with
      | none =>
          have hmem : posting ∈ (AnySensor.continuous sensor).out step := hmem
          rw [AnySensor.out, hstep] at hmem
          cases hmem
      | some op =>
          have hmem : posting ∈ (AnySensor.continuous sensor).out step := hmem
          rw [AnySensor.out, hstep] at hmem
          exact ⟨op, hstep, hmem⟩

/-- The calls that an operation can come from. -/
theorem call_of_continuousOp {call : SubHalCall} {op : ContinuousOp}
    (h : call.continuousOp sensorHandle = some op) :
    (∀ now elapsedRealtimeNano, op = .turn now elapsedRealtimeNano →
        call = .own sensorHandle (.turn now elapsedRealtimeNano)) ∧
      (op = .flush → call = .flush sensorHandle) ∧
      ∀ event, op = .injectEvent event →
        call = .injectSensorData event ∧ event.sensorHandle = sensorHandle := by
  rw [SubHalCall.continuousOp, SubHalCall.route] at h
  cases call with
  | initializeSubHal | setOperationMode =>
      cases h
      simp
  | activate named | batch named | flush named =>
      simp only [SubHalCall.named] at h
      split at h
      next heq =>
        cases h
        simp [heq]
      next => cases h
  | injectSensorData event =>
      simp only [SubHalCall.named] at h
      split at h
      next heq =>
        cases h
        simp [heq]
      next => cases h
  | own named step =>
      simp only [SubHalCall.named] at h
      split at h
      next heq =>
        cases step <;> cases h
        simp [heq]
      next => cases h

/-- Nothing is posted for a continuous sensor without a reason. -/
theorem postings_explained {specs : List SensorSpec} {index : Nat} {type : Int} {flags : UInt32}
    {minDelay maxDelay : Int32} {mStopThread : Bool}
    (hspec : specs[index]? = some (.continuous type flags minDelay maxDelay mStopThread))
    (before : List SubHalCall) (call : SubHalCall) (posting : Posting)
    (hposted : ((index + 1 : Int), posting) ∈ put (run next (construct specs) before) call) :
    Explained (index + 1) { sensorHandle := index + 1, type, flags } before call posting := by
  have hsensor := getElem?_construct_of_index hspec
  rw [SensorSpec.construct] at hsensor
  obtain ⟨op, hop, hmem⟩ := exists_op_of_mem_put (run_of_continuous hsensor before).1 hposted
  obtain ⟨henabled, hmode⟩ := latest_continuousOp (index + 1) before
  have hstate := ContinuousSensor.mIsEnabled_run
    (s := .construct (index + 1) type flags minDelay maxDelay mStopThread)
    (before.filterMap (·.continuousOp (index + 1)))
  have hinfo := (ContinuousSensor.info_run
    (s := .construct (index + 1) type flags minDelay maxDelay mStopThread)
    (before.filterMap (·.continuousOp (index + 1)))).1
  generalize run ContinuousSensor.behaviour.next _ _ = state at hmem hstate hinfo
  obtain ⟨henabled', hmode'⟩ := hstate
  have hinfo : state.mSensorInfo = { sensorHandle := index + 1, type, flags } := hinfo
  have henabled : state.mIsEnabled = latest (SubHalCall.enables (index + 1)) false before :=
    henabled'.trans henabled
  have hmode : state.mMode = latest SubHalCall.sets .normal before := hmode'.trans hmode
  obtain ⟨hturn, hflush, hinject⟩ := call_of_continuousOp hop
  rw [← hinfo]
  cases ContinuousSensor.justified_of_mem hmem with
  | sample now samplingPeriodNs elapsedRealtimeNano hsampling =>
      rw [hturn now elapsedRealtimeNano rfl]
      refine .sample now samplingPeriodNs elapsedRealtimeNano _ ⟨?_, rfl, rfl⟩
        (henabled ▸ hsampling.1) (hmode ▸ hsampling.2.1)
      exact congrArg SensorInfo.sensorHandle hinfo
  | flushComplete hflushed =>
      rw [hflush rfl]
      have hcomplete : Explained (index + 1) state.mSensorInfo before (.flush (index + 1))
          (.flushComplete (index + 1) state.mSensorInfo.isWakeUpSensor) :=
        .flushComplete (henabled ▸ hflushed)
      rwa [show state.mSensorInfo.sensorHandle = _ from congrArg SensorInfo.sensorHandle hinfo]
  | injected event hinjection hsupports =>
      obtain ⟨rfl, hhandle⟩ := hinject event rfl
      exact .injected event hhandle (hmode ▸ hinjection) hsupports

theorem postings_explained_second :
    Explained 2 { sensorHandle := 2, type := 1, flags := 0 } [.activate 2 true]
      (.own 2 (.turn 5 7)) (.sample 5 0 ⟨2, 1, 7, (0, 0)⟩ false) :=
  @postings_explained twoSensors 1 1 0 10000 1000000 false rfl [.activate 2 true]
    (.own 2 (.turn 5 7)) (.sample 5 0 ⟨2, 1, 7, (0, 0)⟩ false) (by decide)

end SensorTable

end LgeHardware.Sensors
