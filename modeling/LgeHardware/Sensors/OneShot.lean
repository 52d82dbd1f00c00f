import LgeHardware.Sensors.Sensor

/-! # One event for one activation

The run thread goes to poll only with the sensor enabled and in normal mode, and a
report disables it. So an activation is used up by a report, although the sensor may
have been disabled, or sent to another mode, between the start of the poll and the
report: the state that allowed the poll is not looked at again.
-/

namespace LgeHardware.Sensors

open LgeHardware.Foundation

namespace SysfsPollingOneShotSensor

/-- The run thread is between the sections before and after `poll`. -/
def InPoll (s : SysfsPollingOneShotSensor) : Prop :=
  s.runThread = .polling ∨ s.runThread = .polled

instance (s : SysfsPollingOneShotSensor) : Decidable s.InPoll :=
  inferInstanceAs (Decidable (_ ∨ _))

/-- A report is still to be expected from the activations so far. -/
def Armed (s : SysfsPollingOneShotSensor) : Prop := s.mIsEnabled = true ∨ s.InPoll

instance (s : SysfsPollingOneShotSensor) : Decidable s.Armed :=
  inferInstanceAs (Decidable (_ ∨ _))

/-- The step enables the sensor. -/
def Enables (s : SysfsPollingOneShotSensor) (op : SensorOp) : Prop :=
  s.mIsEnabled = false ∧ (s.next op).mIsEnabled = true

instance (s : SysfsPollingOneShotSensor) (op : SensorOp) : Decidable (s.Enables op) :=
  inferInstanceAs (Decidable (_ ∧ _))

/-- The step is a section after `poll` that takes the branch of a press. -/
def Reports (s : SysfsPollingOneShotSensor) : SensorOp → Prop
  | .relock answers => s.runThread = .polled ∧ s.ReportsPress answers
  | _ => False

instance (s : SysfsPollingOneShotSensor) : ∀ op, Decidable (s.Reports op)
  | .relock _ => inferInstanceAs (Decidable (_ ∧ _))
  | .activate _ | .setOperationMode _ | .interruptPoll | .notify _ | .start | .wake | .poll _
  | .destroyPolling | .destroySensor | .join => isFalse id

variable {s : SysfsPollingOneShotSensor}

/-! ## What a step does to the flag, the thread and the log -/

theorem wake_frame : s.wake = { s with runThread := s.wake.runThread } := by
  rw [wake]
  split <;> rfl

/-- An event is posted by a step that reports one, and by no other. -/
theorem posts_next (op : SensorOp) :
    (s.next op).posts = s.posts + if s.Reports op then 1 else 0 := by
  by_cases hpossible : s.Possible op
  · rw [next_of_possible hpossible]
    cases op with
    | activate enable => exact activate_posts enable true
    | wake =>
        rw [perform, wake_frame]
        rfl
    | poll rc =>
        rw [perform, poll_frame]
        rfl
    | relock answers =>
        have hreports : s.Reports (.relock answers) ↔ s.ReportsPress answers :=
          and_iff_right hpossible
        simp only [hreports]
        exact afterPoll_posts answers
    | setOperationMode | interruptPoll | notify | start | destroyPolling | destroySensor | join =>
        rfl
  · have hnot : ¬s.Reports op := by
      cases op with
      | relock answers => exact fun h => hpossible h.1
      | activate | setOperationMode | interruptPoll | notify | start | wake | poll
      | destroyPolling | destroySensor | join => exact id
    rw [next_of_impossible hpossible, if_neg hnot, Nat.add_zero]

theorem posts_iff_reports (op : SensorOp) : s.Posts op ↔ s.Reports op := by
  rw [Posts, posts_next]
  split <;> simp_all

/-- A step that reports leaves the sensor disabled. -/
theorem mIsEnabled_of_reports {op : SensorOp} (h : s.Reports op) :
    (s.next op).mIsEnabled = false := by
  cases op with
  | relock answers =>
      have hpossible : s.Possible (.relock answers) := h.1
      rw [next_of_possible hpossible, perform, loop, afterPoll_frame]
      exact if_pos h.2
  | activate | setOperationMode | interruptPoll | notify | start | wake | poll
  | destroyPolling | destroySensor | join => exact h.elim

/-- Only a call of `activate` enables the sensor. -/
theorem mIsEnabled_next {op : SensorOp} (hop : op ≠ .activate true)
    (h : s.mIsEnabled = false) : (s.next op).mIsEnabled = false := by
  by_cases hpossible : s.Possible op
  · rw [next_of_possible hpossible]
    cases op with
    | activate enable =>
        rw [perform, activate_frame]
        cases enable with
        | false => rfl
        | true => exact absurd rfl hop
    | wake =>
        rw [perform, wake_frame]
        exact h
    | poll rc =>
        rw [perform, poll_frame]
        exact h
    | relock answers =>
        rw [perform, loop, afterPoll_frame, h]
        exact ite_self false
    | destroySensor => rfl
    | setOperationMode | interruptPoll | notify | start | destroyPolling | join => exact h
  · rw [next_of_impossible hpossible]
    exact h

/-- The thread goes to poll where the sensor is active. -/
theorem active_of_destination (h : s.destination = .polling) :
    s.Active ∧ s.mStopThread = false := by
  rw [destination] at h
  split at h
  next => contradiction
  next hstop =>
    split at h
    next => contradiction
    next hidle =>
      have hboth : s.mIsEnabled = true ∧ s.mMode ≠ .dataInjection := by simpa using hidle
      refine ⟨⟨hboth.1, ?_⟩, Bool.eq_false_iff.mpr hstop⟩
      cases hmode : s.mMode with
      | normal => rfl
      | dataInjection => exact absurd hmode hboth.2

theorem destination_ne_polled : s.destination ≠ .polled := by
  rw [destination]
  split
  next => nofun
  next => split <;> nofun

/-- The thread stays where it is, comes out of `poll`, or goes on from the head of its
loop. -/
theorem runThread_next (op : SensorOp) :
    (s.next op).runThread = s.runThread ∨
      s.runThread = .polling ∧ (s.next op).runThread = .polled ∨
      s.runThread ≠ .polling ∧ ∃ s', s.next op = loop s' := by
  by_cases hpossible : s.Possible op
  · rw [next_of_possible hpossible]
    cases op with
    | activate enable =>
        left
        rw [perform, activate_frame]
    | start =>
        have hstarting : s.runThread = .starting := hpossible
        exact .inr (.inr ⟨by rw [hstarting]; nofun, s, rfl⟩)
    | wake =>
        have hwaiting : s.runThread = .waiting := hpossible
        rw [perform, wake]
        split
        next => exact .inr (.inr ⟨by rw [hwaiting]; nofun, s, rfl⟩)
        next => exact .inl rfl
    | poll rc =>
        rw [perform, poll_frame]
        exact .inr (.inl ⟨hpossible, rfl⟩)
    | relock answers =>
        have hpolled : s.runThread = .polled := hpossible
        exact .inr (.inr ⟨by rw [hpolled]; nofun, s.afterPoll answers, rfl⟩)
    | setOperationMode | interruptPoll | notify | destroyPolling | destroySensor | join =>
        exact .inl rfl
  · rw [next_of_impossible hpossible]
    exact .inl rfl

/-- The step takes the thread into `poll`. -/
def EntersPoll (s : SysfsPollingOneShotSensor) (op : SensorOp) : Prop :=
  s.runThread ≠ .polling ∧ (s.next op).runThread = .polling

instance (s : SysfsPollingOneShotSensor) (op : SensorOp) : Decidable (s.EntersPoll op) :=
  inferInstanceAs (Decidable (_ ∧ _))

theorem EntersPoll.active {op : SensorOp} (h : s.EntersPoll op) :
    (s.next op).Active ∧ (s.next op).mStopThread = false := by
  obtain ⟨hbefore, hafter⟩ := h
  rcases runThread_next op with hsame | ⟨hpolling, -⟩ | ⟨-, s', hloop⟩
  · exact absurd (hsame.symm.trans hafter) hbefore
  · exact absurd hpolling hbefore
  · rw [hloop] at hafter ⊢
    exact active_of_destination hafter

/-- The thread is in `poll` because it was there, or because it just went there. -/
theorem inPoll_next {op : SensorOp} (h : (s.next op).InPoll) :
    s.EntersPoll op ∨ s.InPoll ∧ ¬s.Reports op := by
  by_cases henters : s.EntersPoll op
  · exact .inl henters
  · right
    have hno_report : s.Reports op → s.EntersPoll op := by
      intro hreports
      cases op with
      | relock answers =>
          have hpossible : s.Possible (.relock answers) := hreports.1
          refine ⟨by rw [hreports.1]; nofun, h.resolve_right ?_⟩
          rw [next_of_possible hpossible]
          exact destination_ne_polled
      | activate | setOperationMode | interruptPoll | notify | start | wake | poll
      | destroyPolling | destroySensor | join => exact hreports.elim
    refine ⟨?_, fun hreports => henters (hno_report hreports)⟩
    rcases runThread_next op with hsame | ⟨hpolling, -⟩ | ⟨hbefore, s', hloop⟩
    · rwa [InPoll, hsame] at h
    · exact .inl hpolling
    · rcases h with hpolling | hpolled
      · exact absurd ⟨hbefore, hpolling⟩ henters
      · rw [hloop] at hpolled
        exact absurd hpolled destination_ne_polled

/-! ## One event for one activation -/

/-- The events posted, and the one that is still to be expected. -/
def potential (s : SysfsPollingOneShotSensor) : Nat := s.posts + if s.Armed then 1 else 0

/-- A sensor that is armed after a step was enabled by it, or was armed and did not report. -/
theorem armed_next {op : SensorOp} (h : (s.next op).Armed) :
    s.Enables op ∨ s.Armed ∧ ¬s.Reports op := by
  have hflag : (s.next op).mIsEnabled = true → s.Enables op ∨ s.Armed ∧ ¬s.Reports op := by
    intro henabled
    cases hbefore : s.mIsEnabled with
    | false => exact .inl ⟨hbefore, henabled⟩
    | true =>
        refine .inr ⟨.inl hbefore, fun hreports => ?_⟩
        rw [mIsEnabled_of_reports hreports] at henabled
        contradiction
  rcases h with henabled | hpoll
  · exact hflag henabled
  · rcases inPoll_next hpoll with henters | ⟨hpoll, hnot⟩
    · exact hflag henters.active.1.1
    · exact .inr ⟨.inr hpoll, hnot⟩

theorem Reports.armed {op : SensorOp} (h : s.Reports op) : s.Armed := by
  cases op with
  | relock answers => exact .inr (.inr h.1)
  | activate | setOperationMode | interruptPoll | notify | start | wake | poll
  | destroyPolling | destroySensor | join => exact h.elim

/-- A report spends what an activation, or a poll that one allowed, provides. -/
theorem potential_next (s : SysfsPollingOneShotSensor) (op : SensorOp) :
    (s.next op).potential ≤ s.potential + if s.Enables op then 1 else 0 := by
  rw [potential, potential, posts_next]
  by_cases hnext : (s.next op).Armed
  · rcases armed_next hnext with henables | ⟨harmed, hnot⟩
    · by_cases hreports : s.Reports op
      · have hdisabled := mIsEnabled_of_reports hreports
        rw [henables.2] at hdisabled
        contradiction
      · rw [if_pos hnext, if_neg hreports, if_pos henables]
        omega
    · rw [if_pos hnext, if_neg hnot, if_pos harmed]
      omega
  · by_cases hreports : s.Reports op
    · rw [if_neg hnext, if_pos hreports, if_pos hreports.armed]
      omega
    · rw [if_neg hnext, if_neg hreports]
      omega

/-- A disabled sensor stays disabled until it is activated. -/
theorem mIsEnabled_run (ops : List SensorOp) (hops : .activate true ∉ ops)
    (h : s.mIsEnabled = false) : (run next s ops).mIsEnabled = false := by
  induction ops generalizing s with
  | nil => exact h
  | cons op rest ih =>
      have hop : op ≠ .activate true := fun heq => hops (heq ▸ List.mem_cons_self)
      exact ih (fun hmem => hops (List.mem_cons_of_mem op hmem)) (mIsEnabled_next hop h)

/-- At most as many events are posted as the sensor was enabled, and after each of them it
is disabled until it is activated again. -/
theorem one_event_per_activation (sensorHandle type : Int)
    (mStopThread enableStream pipe pollFd : Bool) (content : Char) (edge : Bool)
    (ops : List SensorOp) :
    let start := construct sensorHandle type mStopThread enableStream pipe pollFd content edge
    (run next start ops).posts ≤ countSteps next Enables start ops ∧
      ∀ before op between, before ++ op :: between <+: ops →
        (run next start before).Posts op → .activate true ∉ between →
        (run next start (before ++ op :: between)).mIsEnabled = false := by
  intro start
  constructor
  · have hbound := potential_le_countSteps potential potential_next start ops
    have hstart : start.potential = 0 := by
      have hidle : ¬start.Armed := by simp [start, construct, Armed, InPoll]
      rw [potential, if_neg hidle]
      rfl
    rw [hstart, potential] at hbound
    omega
  · intro before op between _ hposts hbetween
    rw [run_append, run_cons]
    apply mIsEnabled_run between hbetween
    exact mIsEnabled_of_reports ((posts_iff_reports op).mp hposts)

end SysfsPollingOneShotSensor

end LgeHardware.Sensors
