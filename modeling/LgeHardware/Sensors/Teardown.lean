import LgeHardware.Sensors.OneShot

/-! # Destroying a sensor

`~SysfsPollingOneShotSensor` writes a byte into the wait pipe, and only then `~Sensor`
sets the stop flag. A thread that takes the byte in between finds the flag clear and goes
back to poll, where nothing wakes it up any more.
-/

namespace LgeHardware.Sensors

open LgeHardware.Foundation

namespace SysfsPollingOneShotSensor

/-- The thread is inside `poll`, and there is nothing for `poll` to return with. -/
def Asleep (s : SysfsPollingOneShotSensor) : Prop :=
  s.runThread = .polling ∧ s.mWaitPipe = some 0 ∧ s.edge = false

instance (s : SysfsPollingOneShotSensor) : Decidable s.Asleep :=
  inferInstanceAs (Decidable (_ ∧ _ ∧ _))

/-- The destructors have done all they do to wake up the thread, and it does not wake up. -/
def Stranded (s : SysfsPollingOneShotSensor) : Prop :=
  s.mStopThread = true ∧ s.teardown = .stopped ∧ s.Asleep

instance (s : SysfsPollingOneShotSensor) : Decidable s.Stranded :=
  inferInstanceAs (Decidable (_ ∧ _ ∧ _))

/-- `~Sensor` does not set the stop flag while the thread is back in `poll`, with the byte of
`~SysfsPollingOneShotSensor` taken. -/
def StopsInTime (s : SysfsPollingOneShotSensor) (op : SensorOp) : Prop :=
  op = .destroySensor → s.teardown = .interrupted → ¬s.Asleep

instance (s : SysfsPollingOneShotSensor) (op : SensorOp) : Decidable (s.StopsInTime op) :=
  inferInstanceAs (Decidable (_ → _ → _))

/-- Once the section of `~Sensor` has run, the stop flag is set. -/
def StopFollows (s : SysfsPollingOneShotSensor) : Prop :=
  s.teardown = .stopped ∨ s.teardown = .joined → s.mStopThread = true

variable {s : SysfsPollingOneShotSensor}

/-- The stop flag is never cleared. -/
theorem mStopThread_next (op : SensorOp) (h : s.mStopThread = true) :
    (s.next op).mStopThread = true := by
  by_cases hpossible : s.Possible op
  · rw [next_of_possible hpossible]
    cases op with
    | activate enable =>
        rw [perform, activate_frame]
        exact h
    | wake =>
        rw [perform, wake_frame]
        exact h
    | poll rc =>
        rw [perform, poll_frame]
        exact h
    | relock answers =>
        rw [perform, loop, afterPoll_frame, h]
        exact Bool.or_true _
    | destroySensor => rfl
    | setOperationMode | interruptPoll | notify | start | destroyPolling | join => exact h
  · rw [next_of_impossible hpossible]
    exact h

/-- The destructors advance only by their own steps. -/
theorem teardown_next {op : SensorOp} (hpolling : op ≠ .destroyPolling)
    (hsensor : op ≠ .destroySensor) (hjoin : op ≠ .join) :
    (s.next op).teardown = s.teardown := by
  by_cases hpossible : s.Possible op
  · rw [next_of_possible hpossible]
    cases op with
    | activate enable => rw [perform, activate_frame]
    | wake => rw [perform, wake_frame]
    | poll rc => rw [perform, poll_frame]
    | relock answers => rw [perform, loop, afterPoll_frame]
    | setOperationMode | interruptPoll | notify | start => rfl
    | destroyPolling => exact absurd rfl hpolling
    | destroySensor => exact absurd rfl hsensor
    | join => exact absurd rfl hjoin
  · rw [next_of_impossible hpossible]

/-- Only `~Sensor` brings the teardown to where the thread is told to stop. -/
theorem stopped_of_next {op : SensorOp} (hop : op ≠ .destroySensor)
    (h : (s.next op).teardown = .stopped) : s.teardown = .stopped := by
  by_cases hpossible : s.Possible op
  · by_cases hpolling : op = .destroyPolling
    · subst hpolling
      rw [next_of_possible hpossible] at h
      nomatch h
    · by_cases hjoin : op = .join
      · exact (hjoin ▸ hpossible : s.Possible .join).1
      · exact (teardown_next hpolling hop hjoin).symm.trans h
  · rwa [next_of_impossible hpossible] at h

/-- Every step keeps the flag in line with the teardown. -/
theorem StopFollows.next (h : s.StopFollows) (op : SensorOp) : (s.next op).StopFollows := by
  by_cases hpossible : s.Possible op
  · have hother : op ≠ .destroyPolling → op ≠ .destroySensor → op ≠ .join →
        (s.next op).StopFollows := by
      intro hpolling hsensor hjoin hdone
      rw [teardown_next hpolling hsensor hjoin] at hdone
      exact mStopThread_next op (h hdone)
    cases op with
    | destroyPolling =>
        rw [next_of_possible hpossible]
        rintro (hstopped | hjoined)
        · nomatch hstopped
        · nomatch hjoined
    | destroySensor =>
        rw [next_of_possible hpossible]
        exact fun _ => rfl
    | join =>
        exact fun _ => mStopThread_next .join (h (.inl hpossible.1))
    | activate | setOperationMode | interruptPoll | notify | start | wake | poll | relock =>
        exact hother nofun nofun nofun
  · rwa [next_of_impossible hpossible]

/-- While the thread sleeps in `poll`, nothing has taken a byte or an edge from it. -/
theorem Asleep.of_next {op : SensorOp} (h : (s.next op).Asleep) :
    s.EntersPoll op ∨ s.Asleep := by
  by_cases henters : s.EntersPoll op
  · exact .inl henters
  · right
    have hbefore : s.runThread = .polling := by
      by_contra hbefore
      exact henters ⟨hbefore, h.1⟩
    by_cases hpossible : s.Possible op
    · rw [next_of_possible hpossible] at h
      have hwritten : ∀ {bytes : Option Nat}, bytes.map (· + 1) ≠ some 0 := by
        rintro (_ | bytes) <;> simp
      cases op with
      | activate enable =>
          obtain ⟨-, hpipe, hedge⟩ := h
          rw [perform, activate] at hpipe hedge
          split at hpipe
          next => exact absurd hpipe hwritten
          next hsame =>
            rw [if_neg hsame] at hedge
            exact ⟨hbefore, hpipe, hedge⟩
      | interruptPoll => exact absurd h.2.1 hwritten
      | destroyPolling => exact absurd h.2.1 hwritten
      | notify content => cases h.2.2
      | setOperationMode | destroySensor | join => exact h
      | start => exact absurd (hbefore.symm.trans hpossible) (by decide)
      | wake => exact absurd (hbefore.symm.trans hpossible) (by decide)
      | relock answers => exact absurd (hbefore.symm.trans hpossible) (by decide)
      | poll rc =>
          have hpolled := h.1
          rw [perform, poll_frame] at hpolled
          cases hpolled
    · rwa [next_of_impossible hpossible] at h

/-- The thread gets stranded at the step of `~Sensor`, where it is asleep, or not at all. -/
theorem not_stranded_next_iff (hfollows : s.StopFollows) (h : ¬s.Stranded) (op : SensorOp) :
    ¬(s.next op).Stranded ↔ s.StopsInTime op := by
  constructor
  · rintro hnext rfl hinterrupted hasleep
    apply hnext
    have hpossible : s.Possible .destroySensor := hinterrupted
    rw [next_of_possible hpossible]
    exact ⟨rfl, rfl, hasleep⟩
  · rintro htime ⟨hstop, hstopped, hasleep⟩
    rcases hasleep.of_next with henters | hbefore
    · rw [henters.active.2] at hstop
      contradiction
    · by_cases hop : op = .destroySensor
      · subst hop
        by_cases hpossible : s.Possible .destroySensor
        · exact htime rfl hpossible hbefore
        · rw [next_of_impossible hpossible] at hstop hstopped
          exact h ⟨hstop, hstopped, hbefore⟩
      · have hteardown := stopped_of_next hop hstopped
        exact h ⟨hfollows (.inl hteardown), hteardown, hbefore⟩

/-- The thread is never stranded exactly if `~Sensor` always sets the stop flag in time. -/
theorem never_stranded_iff (sensorHandle type : Int)
    (mStopThread enableStream pipe pollFd : Bool) (content : Char) (edge : Bool)
    (ops : List SensorOp) :
    let start := construct sensorHandle type mStopThread enableStream pipe pollFd content edge
    Throughout next (fun s => ¬s.Stranded) start ops ↔ Admits next StopsInTime start ops := by
  intro start
  have hstart : start.StopFollows := by
    rintro (hstopped | hjoined)
    · nomatch hstopped
    · nomatch hjoined
  refine Throughout.iff_admits StopFollows (fun s op hfollows _ => hfollows.next op)
    (fun s op hfollows hgood => not_stranded_next_iff hfollows hgood op) hstart ?_ ops
  rintro ⟨-, hstopped, -⟩
  nomatch hstopped

/-- The thread takes the byte before the stop flag is set. -/
def takeByteEarly : List SensorOp :=
  [.start, .activate true, .wake, .poll 1, .relock {}, .destroyPolling, .poll 1, .relock {},
    .destroySensor]

theorem takeByteEarly_stranded :
    ¬Throughout next (fun s => ¬s.Stranded)
      (construct 1 0x10002 false true true true '0' false) takeByteEarly := by
  decide

end SysfsPollingOneShotSensor

end LgeHardware.Sensors
