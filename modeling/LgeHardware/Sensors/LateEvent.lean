import LgeHardware.Sensors.OneShot

/-! # Events after a deactivation

`run` takes the mutex back after `poll` and reports what `poll` has found, without a look
at the flag and the mode. A report is late where the calls since the thread let go of the
mutex leave the sensor disabled or in another mode, and in no other case.
-/

namespace LgeHardware.Sensors

open LgeHardware.Foundation

namespace SensorOp

/-- What a step sets `mIsEnabled` to. -/
def enables : SensorOp → Option Bool
  | .activate enable => some enable
  | .destroySensor => some false
  | _ => none

/-- What a step sets `mMode` to. -/
def mode : SensorOp → Option OperationMode
  | .setOperationMode mode => some mode
  | _ => none

/-- Calls that leave an active sensor active. -/
def LeaveActive (calls : List SensorOp) : Prop :=
  (calls.filterMap enables).getLast? ≠ some false ∧
    (calls.filterMap mode).getLast? ≠ some .dataInjection

instance (calls : List SensorOp) : Decidable (LeaveActive calls) :=
  inferInstanceAs (Decidable (_ ∧ _))

end SensorOp

/-- A sensor with the steps that others took since its thread let go of the mutex to
poll. -/
structure WatchedSensor where
  sensor : SysfsPollingOneShotSensor
  calls : List SensorOp := []

namespace WatchedSensor

def next (w : WatchedSensor) (op : SensorOp) : WatchedSensor :=
  { sensor := w.sensor.next op
    calls := if w.sensor.EntersPoll op then []
      else if w.sensor.Possible op then w.calls ++ [op] else w.calls }

/-- A report comes after calls that leave the sensor active. -/
def Undisturbed (w : WatchedSensor) (op : SensorOp) : Prop :=
  w.sensor.Reports op → SensorOp.LeaveActive w.calls

instance (w : WatchedSensor) (op : SensorOp) : Decidable (w.Undisturbed op) :=
  inferInstanceAs (Decidable (_ → _))

/-- While the thread polls, the flag and the mode are what the calls since then made of
them. -/
structure Recorded (w : WatchedSensor) : Prop where
  enabled : w.sensor.InPoll →
    w.sensor.mIsEnabled = ((w.calls.filterMap SensorOp.enables).getLast?.getD true)
  mode : w.sensor.InPoll →
    w.sensor.mMode = ((w.calls.filterMap SensorOp.mode).getLast?.getD .normal)

end WatchedSensor

namespace SysfsPollingOneShotSensor

variable {s : SysfsPollingOneShotSensor}

/-- A step that reports nothing sets the flag to what it says. -/
theorem mIsEnabled_of_not_reports {op : SensorOp} (hpossible : s.Possible op)
    (hnot : ¬s.Reports op) : (s.next op).mIsEnabled = op.enables.getD s.mIsEnabled := by
  rw [next_of_possible hpossible]
  cases op with
  | activate enable => rw [perform, activate_frame]; rfl
  | wake => rw [perform, wake_frame]; rfl
  | poll rc => rw [perform, poll_frame]; rfl
  | relock answers =>
      have hfind : ¬s.ReportsPress answers := fun h => hnot ⟨hpossible, h⟩
      rw [perform, loop, afterPoll_frame]
      exact if_neg hfind
  | setOperationMode | interruptPoll | notify | start | destroyPolling | destroySensor | join =>
      rfl

theorem mMode_next {op : SensorOp} (hpossible : s.Possible op) :
    (s.next op).mMode = op.mode.getD s.mMode := by
  rw [next_of_possible hpossible]
  cases op with
  | activate enable => rw [perform, activate_frame]; rfl
  | wake => rw [perform, wake_frame]; rfl
  | poll rc => rw [perform, poll_frame]; rfl
  | relock answers => rw [perform, loop, afterPoll_frame]; rfl
  | setOperationMode | interruptPoll | notify | start | destroyPolling | destroySensor | join =>
      rfl

/-- The sensor is active at the start of every section that posts an event, and while it is
not active none is posted. -/
def NoLateEvent (start : SysfsPollingOneShotSensor) (ops : List SensorOp) : Prop :=
  Admits next (fun s op => s.Posts op → s.Active) start ops ∧
    ∀ before between, before ++ between <+: ops →
      Throughout next (fun s => ¬s.Active) (run next start before) between →
      (run next start (before ++ between)).posts = (run next start before).posts

/-- A run that posts only where the sensor is active posts nothing while it is not. -/
theorem posts_run_of_inactive {ops : List SensorOp}
    (hactive : Admits next (fun s op => s.Posts op → s.Active) s ops)
    (hinactive : Throughout next (fun s => ¬s.Active) s ops) :
    (run next s ops).posts = s.posts := by
  induction ops generalizing s with
  | nil => rfl
  | cons op rest ih =>
      have hquiet : ¬s.Posts op := fun h => hinactive.1 (hactive.1 h)
      exact (ih hactive.2 hinactive.2).trans (not_not.mp hquiet)

/-- No event is late exactly if the sensor only posts while it is active. -/
theorem noLateEvent_iff_active (start : SysfsPollingOneShotSensor) (ops : List SensorOp) :
    NoLateEvent start ops ↔ Admits next (fun s op => s.Posts op → s.Active) start ops := by
  refine ⟨And.left, fun hactive => ⟨hactive, fun before between hops hinactive => ?_⟩⟩
  rw [run_append]
  exact posts_run_of_inactive (hactive.initial hops).of_append hinactive

end SysfsPollingOneShotSensor

namespace WatchedSensor

open SysfsPollingOneShotSensor

variable {w : WatchedSensor}

theorem getLast?_filterMap_concat {α β : Type} (f : α → Option β) (xs : List α) (x : α)
    (default : β) : ((xs ++ [x]).filterMap f).getLast?.getD default =
      (f x).getD ((xs.filterMap f).getLast?.getD default) := by
  cases hx : f x with
  | none => simp [hx]
  | some y => simp [hx]

/-- Every operation keeps the record in line with the sensor. -/
theorem Recorded.next (h : w.Recorded) (op : SensorOp) : (w.next op).Recorded := by
  by_cases henters : w.sensor.EntersPoll op
  · constructor
    · intro _
      simp only [WatchedSensor.next, if_pos henters]
      exact henters.active.1.1
    · intro _
      simp only [WatchedSensor.next, if_pos henters]
      exact henters.active.1.2
  · by_cases hpossible : w.sensor.Possible op
    · have hbefore : (w.next op).sensor.InPoll → w.sensor.InPoll ∧ ¬w.sensor.Reports op :=
        fun hpoll => (inPoll_next hpoll).resolve_left henters
      constructor
      · intro hpoll
        obtain ⟨hwas, hnot⟩ := hbefore hpoll
        simp only [WatchedSensor.next, if_neg henters, if_pos hpossible]
        rw [getLast?_filterMap_concat, ← h.enabled hwas]
        exact mIsEnabled_of_not_reports hpossible hnot
      · intro hpoll
        obtain ⟨hwas, -⟩ := hbefore hpoll
        simp only [WatchedSensor.next, if_neg henters, if_pos hpossible]
        rw [getLast?_filterMap_concat, ← h.mode hwas]
        exact mMode_next hpossible
    · have hsame : w.next op = w := by
        rw [WatchedSensor.next, if_neg henters, if_neg hpossible, next_of_impossible hpossible]
      rwa [hsame]

/-- What the calls left says whether the sensor is active. -/
theorem Recorded.active_iff (h : w.Recorded) (hpoll : w.sensor.InPoll) :
    w.sensor.Active ↔ SensorOp.LeaveActive w.calls := by
  rw [Active, SensorOp.LeaveActive, h.enabled hpoll, h.mode hpoll]
  apply and_congr
  · cases (w.calls.filterMap SensorOp.enables).getLast? with
    | none => simp
    | some enable => cases enable <;> simp
  · cases (w.calls.filterMap SensorOp.mode).getLast? with
    | none => simp
    | some mode => cases mode <;> simp

/-- The steps of a watched sensor are those of the sensor. -/
theorem admits_sensor {allowed : SysfsPollingOneShotSensor → SensorOp → Prop} (w : WatchedSensor)
    (ops : List SensorOp) :
    Admits SysfsPollingOneShotSensor.next allowed w.sensor ops ↔
      Admits next (fun w op => allowed w.sensor op) w ops := by
  induction ops generalizing w with
  | nil => exact Iff.rfl
  | cons op rest ih => exact and_congr Iff.rfl (ih (w.next op))

/-- No event is late exactly if every report comes after calls that leave the sensor
active. -/
theorem noLateEvent_iff (sensorHandle type : Int) (mStopThread enableStream pipe pollFd : Bool)
    (content : Char) (edge : Bool) (ops : List SensorOp) :
    let start := construct sensorHandle type mStopThread enableStream pipe pollFd content edge
    NoLateEvent start ops ↔ Admits next Undisturbed { sensor := start } ops := by
  intro start
  have hstart : Recorded { sensor := start } := by
    have hidle : ¬start.InPoll := by simp [start, construct, InPoll]
    exact ⟨fun h => absurd h hidle, fun h => absurd h hidle⟩
  rw [noLateEvent_iff_active, admits_sensor { sensor := start }]
  refine (Admits.always _ ops).congr Recorded (fun w op h _ => h.next op) ?_ hstart
  intro w op hrecorded _
  rw [Undisturbed, posts_iff_reports]
  refine forall_congr' fun hreports => hrecorded.active_iff ?_
  cases op with
  | relock answers => exact .inr hreports.1
  | activate | setOperationMode | interruptPoll | notify | start | wake | poll
  | destroyPolling | destroySensor | join => exact hreports.elim

/-- A press, and a deactivation after `poll` has seen it. -/
def deactivateAfterPoll : List SensorOp :=
  [.start, .activate true, .wake, .notify '1', .poll 1, .activate false, .relock {}]

theorem deactivateAfterPoll_late :
    ¬NoLateEvent (construct 1 0x10002 false true true true '0' false) deactivateAfterPoll := by
  rw [noLateEvent_iff_active]
  decide

end WatchedSensor

end LgeHardware.Sensors
