import LgeHardware.Haptics.Vibrator

/-! # The packets of a waveform

The samples reach every actuator in order, 40 in each packet, and zeros fill the last one. No
access is out of bounds. The header has one byte for the index of the actuator.
-/

namespace LgeHardware.Haptics

open LgeHardware.Foundation

/-! ## The arrays -/

/-- The buffer holds the wave, sample for sample. -/
theorem Vibrator.fillFullBuffer_eq (v : Vibrator) (wave : Waveform) (bufferSize : Nat) :
    v.fillFullBuffer wave bufferSize = pure (tab bufferSize (wave.sample v.mCurrentAmplitude)) := by
  rw [fillFullBuffer]
  refine (loop_eq_pure
    (fun i => tab bufferSize (below i (wave.sample v.mCurrentAmplitude) wave.stack)) ?_).trans ?_
  · intro i hi
    rw [writeAt_tab _ hi, update_below]
  · exact congrArg pure (tab_congr fun i hi => if_pos hi)

/-- The samples are in the places that division and remainder give, and zeros behind them. -/
theorem splitIntoBuffers_eq {bufferSize numBuffers : Nat}
    (hfits : bufferSize ≤ numBuffers * outputBufferSize) (sample : Nat → UInt8) :
    splitIntoBuffers bufferSize numBuffers (tab bufferSize sample) =
      pure (grid numBuffers outputBufferSize (below bufferSize sample fun _ => 0)) := by
  rw [splitIntoBuffers, replicate_eq_tab, replicate_eq_tab]
  refine loop_eq_pure
    (fun i => grid numBuffers outputBufferSize (below i sample fun _ => 0)) ?_
  intro i hi
  have hrow : i / outputBufferSize < numBuffers := Nat.div_lt_of_lt_mul (by
    rw [Nat.mul_comm]
    omega)
  have hplace : i % outputBufferSize < outputBufferSize := Nat.mod_lt i (by decide)
  rw [readAt_tab _ hi, grid, pure_bind, readAt_tab _ hrow, pure_bind, writeAt_tab _ hplace,
    pure_bind, writeAt_tab _ hrow, update_grid (by decide), update_below]

/-- The bytes of a packet, by their places. -/
def packetByte (index : UInt8) (payload : Nat → UInt8) : Nat → UInt8
  | 0 => index
  | 1 => 8
  | 2 => 40
  | k + 3 => payload k

/-- The header is the first three bytes of the packet. -/
theorem writeHeader_eq (index : Nat) (payload : Nat → UInt8) :
    writeHeader (tab 43 fun _ => 0) index =
      pure (tab 43 (below 3 (packetByte (UInt8.ofNat index) payload) fun _ => 0)) := by
  rw [writeHeader, writeAt_tab _ (by decide), pure_bind, writeAt_tab _ (by decide), pure_bind,
    writeAt_tab _ (by decide)]
  refine congrArg pure (tab_congr fun k _ => ?_)
  match k with
  | 0 | 1 | 2 => rfl
  | k + 3 => rfl

/-- A packet is the header and the samples of its buffer. -/
theorem makeOutput_eq {driver : Driver} (hheader : driver.spiHeaderSize = 3) {numBuffers j : Nat}
    (hj : j < numBuffers) (sample : Nat → UInt8) (i : Nat) :
    makeOutput driver (grid numBuffers outputBufferSize sample) i j =
      pure (tab 43 (packetByte (UInt8.ofNat i) fun k => sample (outputBufferSize * j + k))) := by
  have hsize : outputBufferSize + 3 = 43 := rfl
  rw [makeOutput, hheader, replicate_eq_tab, hsize,
    writeHeader_eq i fun k => sample (outputBufferSize * j + k), pure_bind]
  have hbyte (k : Nat) : sample (outputBufferSize * j + k) =
      packetByte (UInt8.ofNat i) (fun k => sample (outputBufferSize * j + k)) (k + 3) := rfl
  generalize packetByte (UInt8.ofNat i) (fun k => sample (outputBufferSize * j + k)) = bytes at *
  refine (loop_eq_pure (fun turn => tab 43 (below (turn + 3) bytes fun _ => 0)) ?_).trans ?_
  · intro turn hturn
    have hk : turn + 3 < 43 := by
      rw [← hsize]
      omega
    have hnext : turn + 1 + 3 = turn + 3 + 1 := Nat.add_right_comm turn 1 3
    rw [grid, readAt_tab _ hj, pure_bind, Nat.add_sub_cancel, readAt_tab _ hturn, pure_bind,
      writeAt_tab _ hk, hbyte, update_below, hnext]
  · exact congrArg pure (tab_congr fun k hk => if_pos hk)

theorem toList_packet (index : UInt8) (payload : Nat → UInt8) :
    (tab 43 (packetByte index payload)).toList =
      index :: 8 :: 40 :: (tab outputBufferSize payload).toList := by
  rw [toList_tab, toList_tab]
  rfl

/-! ## The packets -/

/-- What an actuator is sent for the buffer with the given number. -/
def bufferEvents (index : Nat → UInt8) (i : Nat) (payload : List UInt8) (j : Nat) :
    List DriverEvent :=
  .write (index i :: 8 :: 40 :: payload) :: if (j + 1) % 4 = 0 then [.enableAmp i 0] else []

/-- What an actuator is sent for all buffers in order. -/
def actuatorEvents (index : Nat → UInt8) (payloads : List (List UInt8)) (i : Nat) :
    List DriverEvent :=
  payloads.zipIdx.flatMap fun (payload, j) => bufferEvents index i payload j

/-- The run ended with a call of `TSPDRV_ENABLE_AMP` that failed. -/
def EnableFailed (exit : Exit) (log : List DriverEvent) : Prop :=
  exit = .transactionFailed ∧ ∃ events index ret, log = events ++ [.enableAmp index ret] ∧ ret ≠ 0

theorem enable_ends (driver : Driver) (i : Nat) (log : List DriverEvent) :
    Ends (driver.enable i) log (fun _ log' => log' = log ++ [.enableAmp i 0]) EnableFailed := by
  rw [Driver.enable]
  simp only [ends_bind, ends_get, ends_modify]
  rw [ends_ite]
  refine ⟨fun hfailed => ⟨rfl, log, i, _, rfl, hfailed⟩, fun hzero => ?_⟩
  rw [ends_pure, of_not_not hzero]

/-- The buffers as lists. -/
def payloadsOf (numBuffers : Nat) (sample : Nat → UInt8) : List (List UInt8) :=
  (List.range numBuffers).map fun j =>
    (tab outputBufferSize fun k => sample (outputBufferSize * j + k)).toList

theorem actuatorEvents_succ (index : Nat → UInt8) (numBuffers : Nat) (sample : Nat → UInt8)
    (i : Nat) : actuatorEvents index (payloadsOf (numBuffers + 1) sample) i =
      actuatorEvents index (payloadsOf numBuffers sample) i ++ bufferEvents index i
        (tab outputBufferSize fun k => sample (outputBufferSize * numBuffers + k)).toList
          numBuffers := by
  rw [actuatorEvents, payloadsOf, List.range_succ, List.map_append, List.zipIdx_append,
    List.flatMap_append]
  simp [actuatorEvents, payloadsOf]

/-- The event is a call of `TSPDRV_DISABLE_AMP`. -/
def DriverEvent.isDisable : DriverEvent → Bool
  | .disableAmp .. => true
  | .enableAmp .. | .write _ => false

/-- Whether it fails or not, `off` does nothing but to disable amplifiers. -/
theorem Vibrator.final_off (v : Vibrator) (driver : Driver) (log : List DriverEvent) :
    ∃ disables, final (v.off driver) log = log ++ disables ∧
      ∀ event ∈ disables, event.isDisable = true := by
  let Disabled (log' : List DriverEvent) : Prop :=
    ∃ disables, log' = log ++ disables ∧ ∀ event ∈ disables, event.isDisable = true
  suffices h : Ends (v.off driver) log (fun _ => Disabled) fun _ => Disabled from h.holds
  rw [off]
  refine Ends.loop (fun _ _ => Disabled) ⟨[], by simp⟩ ?_
  rintro i _ _ log' ⟨disables, rfl, hdisables⟩
  have hnext (ret : Int32) : Disabled (log ++ disables ++ [.disableAmp i ret]) := by
    refine ⟨disables ++ [.disableAmp i ret], List.append_assoc .., ?_⟩
    simpa [or_imp, forall_and] using ⟨hdisables, rfl⟩
  rw [Driver.disable]
  simp only [ends_bind, ends_get, ends_modify]
  rw [ends_ite]
  exact ⟨fun _ => hnext _, fun _ => hnext _⟩

/-! ## The payloads -/

/-- The payloads are the rows of the grid that the samples fill. -/
theorem payloadsOf_eq (numBuffers : Nat) (sample : Nat → UInt8) :
    payloadsOf numBuffers sample = (grid numBuffers outputBufferSize sample).toList.map
      Array.toList := by
  rw [payloadsOf, grid, toList_tab, List.map_map]
  rfl

theorem length_of_mem_payloadsOf {numBuffers : Nat} {sample : Nat → UInt8} {payload : List UInt8}
    (h : payload ∈ payloadsOf numBuffers sample) : payload.length = 40 := by
  obtain ⟨j, -, rfl⟩ := List.mem_map.mp h
  rw [Array.length_toList, size_tab, outputBufferSize]

/-- The payloads are the samples, and zeros at the end. -/
theorem flatten_payloadsOf {numBuffers bufferSize : Nat} (sample : Nat → UInt8)
    (hfits : bufferSize ≤ numBuffers * outputBufferSize) :
    (payloadsOf numBuffers (below bufferSize sample fun _ => 0)).flatten =
      (List.range bufferSize).map sample ++
        List.replicate (numBuffers * outputBufferSize - bufferSize) 0 := by
  rw [payloadsOf_eq, ← List.flatMap_def, flatten_grid, map_below 0 hfits]

/-- The samples that `on` computes. -/
def Vibrator.samples (v : Vibrator) (wave : Waveform) (timeoutMs : Int32) : List UInt8 :=
  (List.range (wave.bufferSize timeoutMs)).map (wave.sample v.mCurrentAmplitude)

/-- The actuators are sent the samples one after the other, each of them in as many packets of 40
as hold them, with less than 40 zeros at the end. -/
def Delivers (index : Nat → UInt8) (samples : List UInt8) (actuators : Nat)
    (events : List DriverEvent) : Prop :=
  ∃ payloads : List (List UInt8), ∃ zeros < 40,
    payloads.length = (samples.length + 39) / 40 ∧
      (∀ payload ∈ payloads, payload.length = 40) ∧
      payloads.flatten = samples ++ List.replicate zeros 0 ∧
      events = (List.range actuators).flatMap (actuatorEvents index payloads)

variable {driver : Driver} (hheader : driver.spiHeaderSize = 3)

include hheader

/-- The buffers reach every actuator in order, unless the amplifier is not enabled. -/
theorem Vibrator.sendBuffers_ends (v : Vibrator) (numBuffers : Nat) (sample : Nat → UInt8)
    (log : List DriverEvent) :
    Ends (v.sendBuffers driver numBuffers (grid numBuffers outputBufferSize sample)) log
      (fun _ log' => log' = log ++ (List.range v.actuators).flatMap
        (actuatorEvents UInt8.ofNat (payloadsOf numBuffers sample))) EnableFailed := by
  rw [sendBuffers]
  let sent (i j : Nat) : List DriverEvent :=
    actuatorEvents UInt8.ofNat (payloadsOf j sample) i
  refine Ends.loop (fun i _ log' => log' = log ++ (List.range i).flatMap (sent · numBuffers))
    (List.append_nil log).symm ?_
  intro i _ _ log₁ hlog₁
  refine (Ends.loop (fun j _ log' => log' = log₁ ++ sent i j) (List.append_nil log₁).symm ?_).mono
    ?_ fun _ _ h => h
  · intro j hj _ log₂ hlog₂
    have hnext := actuatorEvents_succ UInt8.ofNat j sample i
    rw [makeOutput_eq hheader hj, pure_bind, toList_packet, ends_bind, ends_modify, ends_ite]
    refine ⟨fun hfourth => (enable_ends driver i _).mono ?_ fun _ _ h => h, fun hnot => ?_⟩
    · rintro _ log' rfl
      simp only [sent, hnext, bufferEvents, if_pos hfourth, hlog₂, List.append_assoc]
      rfl
    · simp only [ends_pure, sent, hnext, bufferEvents, if_neg hnot, hlog₂, List.append_assoc]
  · rintro _ log' rfl
    rw [hlog₁, List.range_succ, List.flatMap_append, List.flatMap_singleton, List.append_assoc]

/-- What `on` sends, for the samples that it computes. -/
theorem Vibrator.on_ends (v : Vibrator) (wave : Waveform) (timeoutMs : Int32)
    (log : List DriverEvent) :
    Ends (v.on wave driver timeoutMs) log
      (fun _ log' => ∃ disables events, log' = log ++ disables ++ events ∧
        (∀ event ∈ disables, event.isDisable = true) ∧
          Delivers UInt8.ofNat (v.samples wave timeoutMs) v.actuators events) EnableFailed := by
  obtain ⟨disables, hoff, hdisables⟩ := v.final_off driver log
  rw [on, ends_bind, ends_ignore, hoff, fillFullBuffer_eq, pure_bind]
  set bufferSize := wave.bufferSize timeoutMs
  set numBuffers := (bufferSize + (outputBufferSize - 1)) / outputBufferSize with hnumBuffers
  have hceil : bufferSize ≤ numBuffers * outputBufferSize ∧
      numBuffers * outputBufferSize - bufferSize < 40 := by
    rw [hnumBuffers, outputBufferSize]
    omega
  dsimp only
  rw [splitIntoBuffers_eq hceil.1, pure_bind]
  refine (sendBuffers_ends hheader v numBuffers _ _).mono ?_ fun _ _ h => h
  rintro _ log' rfl
  refine ⟨disables, _, rfl, hdisables, _, _, hceil.2, ?_, ?_, flatten_payloadsOf _ hceil.1, rfl⟩
  · simp [payloadsOf, samples, hnumBuffers, outputBufferSize, bufferSize]
  · exact fun payload hpayload => length_of_mem_payloadsOf hpayload

/-- In every run either an amplifier is not enabled, or all actuators are sent all samples, with
the index of the actuator modulo 256 in the header. -/
theorem Vibrator.on_delivers (v : Vibrator) (wave : Waveform) (timeoutMs : Int32)
    (log : List DriverEvent) :
    Ends (v.on wave driver timeoutMs) log
      (fun _ log' => ∃ disables events index, log' = log ++ disables ++ events ∧
        (∀ event ∈ disables, event.isDisable = true) ∧
          (∀ i, (index i : UInt8).toNat = i % 256) ∧
            Delivers index (v.samples wave timeoutMs) v.actuators events) EnableFailed := by
  refine (v.on_ends hheader wave timeoutMs log).mono ?_ fun _ _ h => h
  rintro _ log' ⟨disables, events, hlog', hdisables, hdelivers⟩
  exact ⟨disables, events, UInt8.ofNat, hlog', hdisables, fun i => UInt8.toNat_ofNat', hdelivers⟩

omit hheader

/-- A driver with a header of three bytes that enables and disables every amplifier. -/
def workingDriver : Driver :=
  { spiHeaderSize := 3, disableAmp := fun _ _ => 0, enableAmp := fun _ _ => 0 }

/-- Eight samples for each millisecond. -/
def ramp : Waveform :=
  { bufferSize := fun timeoutMs => 8 * timeoutMs.toNatClampNeg
    sample := fun amplitude i => amplitude + UInt8.ofNat i
    stack := fun _ => 0 }

/-- Two packets for each of two actuators. -/
theorem Vibrator.on_delivers_ramp : ∃ (v : Vibrator) (wave : Waveform) (driver : Driver),
    v.actuators = 2 ∧ wave.bufferSize 6 = 48 ∧ driver.spiHeaderSize = 3 ∧
      Ends (v.on wave driver 6) []
        (fun _ log' => ∃ disables events index, log' = [] ++ disables ++ events ∧
          (∀ event ∈ disables, event.isDisable = true) ∧
            (∀ i, (index i : UInt8).toNat = i % 256) ∧
              Delivers index (v.samples wave 6) v.actuators events) EnableFailed := by
  obtain ⟨v, hv⟩ : ∃ v : Vibrator, v.actuators = 2 :=
    ⟨{ mNumActuators := 2, mCurrentAmplitude := 80 }, by decide⟩
  obtain ⟨wave, hwave⟩ : ∃ wave : Waveform, wave.bufferSize 6 = 48 := ⟨ramp, by decide⟩
  obtain ⟨driver, hdriver⟩ : ∃ driver : Driver, driver.spiHeaderSize = 3 := ⟨workingDriver, rfl⟩
  exact ⟨v, wave, driver, hv, hwave, hdriver, on_delivers hdriver v wave 6 []⟩

/-- The packets of 257 actuators do not all have the index of the actuator in the header. -/
theorem Vibrator.on_index_wraps : ¬ ∀ (v : Vibrator) (wave : Waveform) (driver : Driver)
    (timeoutMs : Int32) (log : List DriverEvent), driver.spiHeaderSize = 3 →
      (∀ log i, driver.enableAmp log i = 0) →
        Ends (v.on wave driver timeoutMs) log
          (fun _ log' => ∃ disables events index, log' = log ++ disables ++ events ∧
            (∀ event ∈ disables, event.isDisable = true) ∧
              (v.samples wave timeoutMs ≠ [] → ∀ i < v.actuators, (index i : UInt8).toNat = i) ∧
                Delivers index (v.samples wave timeoutMs) v.actuators events)
          fun _ _ => False := by
  intro hclaim
  obtain ⟨v, hv⟩ : ∃ v : Vibrator, v.actuators = 257 :=
    ⟨{ mNumActuators := 257, mCurrentAmplitude := 80 }, by decide⟩
  obtain ⟨wave, hwave⟩ : ∃ wave : Waveform, wave.bufferSize 1 = 8 := ⟨ramp, by decide⟩
  obtain ⟨driver, hdriver, henable⟩ : ∃ driver : Driver, driver.spiHeaderSize = 3 ∧
      ∀ log i, driver.enableAmp log i = 0 := ⟨workingDriver, rfl, fun _ _ => rfl⟩
  have hsamples : v.samples wave 1 ≠ [] := by simp [samples, hwave]
  apply Ends.false ((hclaim v wave driver 1 [] hdriver henable).mono _ fun _ _ h => h)
  rintro _ log' ⟨_, _, index, -, -, hindex, -⟩
  have hlast := hindex hsamples 256 (by omega)
  have hbyte := (index 256).toNat_lt
  omega

end LgeHardware.Haptics
