import LgeHardware.Foundation.Run

/-! # The polling one-shot sensor

`SysfsPollingOneShotSensor` reports a press on a polled file once per activation. Its
run thread lets go of `mRunMutex` while it waits on the condition variable and while
it polls, and clients, the polled file and the destructors act in between. A section
under the mutex is one step, and so is a call of `poll`. The thread may come out of
either kind of waiting without a cause.
-/

namespace LgeHardware.Sensors

open LgeHardware.Foundation

inductive OperationMode
  | normal
  | dataInjection
  deriving DecidableEq, Repr

/-- `POLLIN`. -/
def pollIn : UInt16 := 0x001
/-- `POLLPRI`. -/
def pollPri : UInt16 := 0x002
/-- `POLLERR`. -/
def pollErr : UInt16 := 0x008

/-- `SensorFlagBits::WAKE_UP`. -/
def flagWakeUp : UInt32 := 1
/-- `SensorFlagBits::ONE_SHOT_MODE`. -/
def flagOneShotMode : UInt32 := 4

/-- The bytes that fit into the wait pipe. A write to a full pipe blocks. -/
def pipeCapacity : Nat := 65536

/-- `struct pollfd`, without the descriptor. -/
structure PollFd where
  events : UInt16
  revents : UInt16 := 0
  deriving DecidableEq, Repr

/-- `SensorInfo`, as far as events depend on it. -/
structure SensorInfo where
  sensorHandle : Int
  type : Int
  flags : UInt32
  deriving DecidableEq, Repr

/-- `Event`, with the first two values of its data. -/
structure Event where
  sensorHandle : Int
  sensorType : Int
  timestamp : Int
  data : Int × Int
  deriving DecidableEq, Repr

/-- What a sensor does to its environment. -/
inductive SensorEvent
  | writeEnable (enable : Bool)
  | postEvents (events : List Event) (wakeup : Bool)
  deriving DecidableEq, Repr

/-- Where the run thread is: before its first section, inside `mWaitCV.wait`, inside
`poll`, after `poll` without the mutex, or at its end. -/
inductive RunThread
  | starting
  | waiting
  | polling
  | polled
  | finished
  deriving DecidableEq, Repr

/-- How far the destructors have come: `~SysfsPollingOneShotSensor` has run, the section
of `~Sensor` has run, the thread is joined. -/
inductive Teardown
  | alive
  | interrupted
  | stopped
  | joined
  deriving DecidableEq, Repr

/-- The answers of the system to one section of `run`. -/
structure Answers where
  lseek : Int := 0
  read : Int := 1
  readPipe : Int := 1
  elapsedRealtimeNano : Int := 0
  deriving DecidableEq, Repr

/-- A sensor with the file it polls, which reads as `content` and has an edge that `poll`
has yet to report if `edge` holds. `mWaitPipe` counts the bytes in the wait pipe, if
there is one, and `interrupts` the calls of `setOperationMode` that are yet to write
theirs; `rc` is the local variable of `run`. -/
structure SysfsPollingOneShotSensor where
  mSensorInfo : SensorInfo
  mIsEnabled : Bool := false
  mMode : OperationMode := .normal
  mStopThread : Bool
  mEnableStream : Bool
  mWaitPipe : Option Nat
  mPolls0 : PollFd := { events := pollIn }
  mPolls1 : PollFd := { events := pollErr ||| pollPri }
  content : Char
  edge : Bool
  runThread : RunThread := .starting
  rc : Int := 0
  teardown : Teardown := .alive
  interrupts : Nat := 0
  log : List SensorEvent := []
  deriving DecidableEq, Repr

/-- `readBool`, with what `lseek` and `read` return and the byte read. -/
def readBool (lseek read : Int) (c : Char) : Bool := lseek = 0 && read = 1 && c ≠ '0'

/-- The steps of the clients, of the polled file, of the run thread and of the thread
that destroys the sensor. -/
inductive SensorOp
  | activate (enable : Bool)
  | setOperationMode (mode : OperationMode)
  | interruptPoll
  | notify (content : Char)
  | start
  | wake
  | poll (rc : Int)
  | relock (answers : Answers)
  | destroyPolling
  | destroySensor
  | join
  deriving DecidableEq, Repr

namespace SysfsPollingOneShotSensor

/-- The constructed sensor. `mStopThread` is not initialised, and set where a descriptor
is missing. -/
def construct (sensorHandle type : Int) (mStopThread enableStream pipe pollFd : Bool)
    (content : Char) (edge : Bool) : SysfsPollingOneShotSensor :=
  { mSensorInfo := { sensorHandle, type, flags := flagOneShotMode ||| flagWakeUp }
    mStopThread := !pipe || !pollFd || mStopThread
    mEnableStream := enableStream
    mWaitPipe := if pipe then some 0 else none
    content
    edge }

/-- The state in which the sensor may report a press. -/
def Active (s : SysfsPollingOneShotSensor) : Prop := s.mIsEnabled = true ∧ s.mMode = .normal

instance (s : SysfsPollingOneShotSensor) : Decidable s.Active :=
  inferInstanceAs (Decidable (_ ∧ _))

/-- `interruptPoll` would not block. -/
def HasRoom (s : SysfsPollingOneShotSensor) : Prop := ∀ bytes ∈ s.mWaitPipe, bytes < pipeCapacity

instance (s : SysfsPollingOneShotSensor) : Decidable s.HasRoom :=
  inferInstanceAs (Decidable (∀ bytes ∈ s.mWaitPipe, _))

def writeEnable (s : SysfsPollingOneShotSensor) (enable : Bool) : SysfsPollingOneShotSensor :=
  if s.mEnableStream then { s with log := s.log ++ [.writeEnable enable] } else s

def interruptPoll (s : SysfsPollingOneShotSensor) : SysfsPollingOneShotSensor :=
  { s with mWaitPipe := s.mWaitPipe.map (· + 1) }

/-- `activate(enable, notify, lock)`. The condition variable needs no part in the model:
the run thread may wake up at any time. -/
def activate (s : SysfsPollingOneShotSensor) (enable notify : Bool) : SysfsPollingOneShotSensor :=
  if s.mIsEnabled ≠ enable then
    let s := { s.writeEnable enable with mIsEnabled := enable }
    if notify then s.interruptPoll else s
  else s

/-- `Sensor::setOperationMode`, after which `interruptPoll` is to be called. -/
def setOperationMode (s : SysfsPollingOneShotSensor) (mode : OperationMode) :
    SysfsPollingOneShotSensor :=
  { s with mMode := mode, interrupts := s.interrupts + 1 }

def isWakeUpSensor (s : SysfsPollingOneShotSensor) : Bool :=
  s.mSensorInfo.flags &&& flagWakeUp ≠ 0

def readEvents (s : SysfsPollingOneShotSensor) (elapsedRealtimeNano : Int) : List Event :=
  [{ sensorHandle := s.mSensorInfo.sensorHandle
     sensorType := s.mSensorInfo.type
     timestamp := elapsedRealtimeNano
     data := (0, 0) }]

def postEvents (s : SysfsPollingOneShotSensor) (answers : Answers) : SysfsPollingOneShotSensor :=
  { s with log := s.log ++
      [.postEvents (s.readEvents answers.elapsedRealtimeNano) s.isWakeUpSensor] }

/-! ## The run thread -/

/-- Where `run` goes from the head of its loop. -/
def destination (s : SysfsPollingOneShotSensor) : RunThread :=
  if s.mStopThread then .finished
  else if !s.mIsEnabled || s.mMode = .dataInjection then .waiting
  else .polling

/-- The loop of `run` from its head on, up to where the thread lets go of the mutex. -/
def loop (s : SysfsPollingOneShotSensor) : SysfsPollingOneShotSensor :=
  { s with runThread := s.destination }

/-- The section after a wake-up inside `mWaitCV.wait`. -/
def wake (s : SysfsPollingOneShotSensor) : SysfsPollingOneShotSensor :=
  if s.Active ∨ s.mStopThread then s.loop else s

/-- `poll` returns. It reports what is there, unless it fails. -/
def poll (s : SysfsPollingOneShotSensor) (rc : Int) : SysfsPollingOneShotSensor :=
  let s := { s with runThread := .polled, rc }
  if rc < 0 then s
  else
    { s with
      mPolls0 := { s.mPolls0 with revents := if s.mWaitPipe.any (0 < ·) then pollIn else 0 }
      mPolls1 := { s.mPolls1 with revents := if s.edge then pollErr ||| pollPri else 0 } }

/-- `poll` reported an edge, and the file reads as pressed. -/
def FindsPress (s : SysfsPollingOneShotSensor) (answers : Answers) : Prop :=
  s.mPolls1.revents = s.mPolls1.events ∧ readBool answers.lseek answers.read s.content = true

instance (s : SysfsPollingOneShotSensor) (answers : Answers) : Decidable (s.FindsPress answers) :=
  inferInstanceAs (Decidable (_ ∧ _))

/-- A read of the polled file takes its edge. -/
def readPollFd (s : SysfsPollingOneShotSensor) (answers : Answers) : SysfsPollingOneShotSensor :=
  if answers.lseek = 0 ∧ answers.read = 1 then { s with edge := false } else s

/-- A read of the wait pipe takes a byte. -/
def readWaitPipe (s : SysfsPollingOneShotSensor) (answers : Answers) :
    SysfsPollingOneShotSensor :=
  if answers.readPipe = 1 then { s with mWaitPipe := s.mWaitPipe.map (· - 1) } else s

/-- The body of the loop after `poll`. -/
def afterPoll (s : SysfsPollingOneShotSensor) (answers : Answers) : SysfsPollingOneShotSensor :=
  if s.rc < 0 then { s with mStopThread := true }
  else
    let s' := if s.mPolls1.revents = s.mPolls1.events then s.readPollFd answers else s
    if s.FindsPress answers then (s'.activate false false).postEvents answers
    else if s.mPolls0.revents = s.mPolls0.events then s'.readWaitPipe answers
    else s'

/-! ## Runs -/

/-- Clients do not call a sensor that is being destroyed, nobody gets past a write to a
full pipe, and each thread goes on from where it is. -/
def Possible (s : SysfsPollingOneShotSensor) : SensorOp → Prop
  | .activate enable => s.teardown = .alive ∧ (s.mIsEnabled = enable ∨ s.HasRoom)
  | .setOperationMode _ => s.teardown = .alive
  | .interruptPoll => 0 < s.interrupts ∧ s.HasRoom
  | .notify _ => True
  | .start => s.runThread = .starting
  | .wake => s.runThread = .waiting
  | .poll _ => s.runThread = .polling
  | .relock _ => s.runThread = .polled
  | .destroyPolling => s.teardown = .alive ∧ s.interrupts = 0 ∧ s.HasRoom
  | .destroySensor => s.teardown = .interrupted
  | .join => s.teardown = .stopped ∧ s.runThread = .finished

instance (s : SysfsPollingOneShotSensor) : ∀ op, Decidable (s.Possible op)
  | .activate _ | .interruptPoll | .destroyPolling | .join => inferInstanceAs (Decidable (_ ∧ _))
  | .notify _ => isTrue trivial
  | .setOperationMode _ | .start | .wake | .poll _ | .relock _ | .destroySensor =>
      inferInstanceAs (Decidable (_ = _))

def perform (s : SysfsPollingOneShotSensor) : SensorOp → SysfsPollingOneShotSensor
  | .activate enable => s.activate enable true
  | .setOperationMode mode => s.setOperationMode mode
  | .interruptPoll => { s.interruptPoll with interrupts := s.interrupts - 1 }
  | .notify content => { s with content, edge := true }
  | .start => s.loop
  | .wake => s.wake
  | .poll rc => s.poll rc
  | .relock answers => (s.afterPoll answers).loop
  | .destroyPolling => { s.interruptPoll with teardown := .interrupted }
  | .destroySensor => { s with mStopThread := true, mIsEnabled := false, teardown := .stopped }
  | .join => { s with teardown := .joined }

/-- A step, which does nothing where it is not possible. -/
def next (s : SysfsPollingOneShotSensor) (op : SensorOp) : SysfsPollingOneShotSensor :=
  if s.Possible op then s.perform op else s

/-- The number of `postEvents` calls that `run` has made. -/
def posts (s : SysfsPollingOneShotSensor) : Nat :=
  s.log.countP fun
    | .postEvents .. => true
    | .writeEnable _ => false

/-- The step calls `postEvents`. -/
def Posts (s : SysfsPollingOneShotSensor) (op : SensorOp) : Prop := (s.next op).posts ≠ s.posts

instance (s : SysfsPollingOneShotSensor) (op : SensorOp) : Decidable (s.Posts op) :=
  inferInstanceAs (Decidable (_ ≠ _))

/-! ## What a step does -/

/-- The section after `poll` takes the branch of a press. -/
def ReportsPress (s : SysfsPollingOneShotSensor) (answers : Answers) : Prop :=
  0 ≤ s.rc ∧ s.FindsPress answers

instance (s : SysfsPollingOneShotSensor) (answers : Answers) :
    Decidable (s.ReportsPress answers) :=
  inferInstanceAs (Decidable (_ ∧ _))

variable {s : SysfsPollingOneShotSensor}

theorem next_of_possible {op : SensorOp} (h : s.Possible op) : s.next op = s.perform op := if_pos h

theorem next_of_impossible {op : SensorOp} (h : ¬s.Possible op) : s.next op = s := if_neg h

theorem activate_frame (enable notify : Bool) : s.activate enable notify =
    { s with
      mIsEnabled := enable
      mWaitPipe := (s.activate enable notify).mWaitPipe
      log := (s.activate enable notify).log } := by
  rw [activate]
  split
  next =>
    rw [writeEnable]
    dsimp only
    split <;> split <;> rfl
  next hsame => rw [← not_not.mp hsame]

/-- An activation posts nothing, it only writes to the enable file. -/
theorem activate_posts (enable notify : Bool) : (s.activate enable notify).posts = s.posts := by
  have hwrite : (s.writeEnable enable).posts = s.posts := by
    rw [writeEnable]
    split
    next => simp [posts]
    next => rfl
  rw [activate]
  split
  next =>
    dsimp only
    split <;> exact hwrite
  next => rfl

theorem readPollFd_frame (answers : Answers) :
    s.readPollFd answers = { s with edge := (s.readPollFd answers).edge } := by
  rw [readPollFd]
  split <;> rfl

theorem readWaitPipe_frame (answers : Answers) :
    s.readWaitPipe answers = { s with mWaitPipe := (s.readWaitPipe answers).mWaitPipe } := by
  rw [readWaitPipe]
  split <;> rfl

theorem poll_frame (rc : Int) : s.poll rc =
    { s with
      mPolls0 := (s.poll rc).mPolls0
      mPolls1 := (s.poll rc).mPolls1
      runThread := .polled
      rc } := by
  rw [poll]
  dsimp only
  split <;> rfl

/-- The section after `poll` in terms of what it finds. -/
theorem afterPoll_frame (answers : Answers) : s.afterPoll answers =
    { s with
      mIsEnabled := if s.ReportsPress answers then false else s.mIsEnabled
      mStopThread := s.rc < 0 || s.mStopThread
      mWaitPipe := (s.afterPoll answers).mWaitPipe
      edge := (s.afterPoll answers).edge
      log := (s.afterPoll answers).log } := by
  rw [afterPoll]
  by_cases hrc : s.rc < 0
  · have hnot : ¬s.ReportsPress answers := fun h => Int.not_le.mpr hrc h.1
    simp only [hrc, hnot, decide_true, Bool.true_or, if_true, if_false]
  · have hreports : s.ReportsPress answers ↔ s.FindsPress answers :=
      and_iff_right (Int.not_lt.mp hrc)
    simp only [hrc, hreports, decide_false, Bool.false_or, if_false]
    split
    next =>
      rw [postEvents, activate_frame]
      split
      next => rw [readPollFd_frame]
      next => rfl
    next =>
      split <;> split
      next => rw [readWaitPipe_frame, readPollFd_frame]
      next => rw [readWaitPipe_frame]
      next => rw [readPollFd_frame]
      next => rfl

theorem afterPoll_posts (answers : Answers) :
    (s.afterPoll answers).posts = s.posts + if s.ReportsPress answers then 1 else 0 := by
  have hread : (if s.mPolls1.revents = s.mPolls1.events then s.readPollFd answers else s).posts =
      s.posts := by
    split
    next =>
      rw [readPollFd_frame]
      rfl
    next => rfl
  rw [afterPoll]
  by_cases hrc : s.rc < 0
  · have hnot : ¬s.ReportsPress answers := fun h => Int.not_le.mpr hrc h.1
    rw [if_pos hrc, if_neg hnot]
    rfl
  · have hreports : s.ReportsPress answers ↔ s.FindsPress answers :=
      and_iff_right (Int.not_lt.mp hrc)
    simp only [hrc, hreports, if_false]
    split
    next =>
      rw [postEvents, posts, List.countP_append]
      exact congrArg (· + 1) ((activate_posts false false).trans hread)
    next =>
      split
      next =>
        rw [readWaitPipe_frame]
        exact hread
      next => exact hread

end SysfsPollingOneShotSensor

end LgeHardware.Sensors
