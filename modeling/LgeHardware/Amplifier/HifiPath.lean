import LgeHardware.Amplifier.Frame

/-! # The path of the headphones

The cached flag stands for the path that was applied last, so that skipping the switch when
the flag agrees with the property leaves the path that the property asks for.
-/

namespace LgeHardware.Amplifier

open LgeHardware.Foundation

/-- The path with the Hi-Fi DAC on or off. -/
def pathOf (enabled : Bool) : HeadphonePath := if enabled then hifiPath else defaultPath

/-- The path shows whether the DAC is on. -/
theorem hifi_iff (enabled : Bool) :
    enabled = true ↔
      ((pathOf enabled).backend = hifiDacBackend ∧ (pathOf enabled).interface = hifiDacInterface ∧
        (pathOf enabled).mixerPath = essHifiModeMixerPath) := by
  cases enabled
  · decide
  · decide

/-- What the property asks for. -/
def AudioState.asked (s : AudioState) : Bool := propertyGetBool s.hifiEnabled false

/-- The routing left the headphones on the path that the property asks for. -/
def Routing.Follows (r : Routing) : Prop :=
  r.devices = .outHeadphones → r.path = pathOf (propertyGetBool r.property false)

/-- The flag stands for the applied path, and every routing so far followed the property.
`changed` says whether `set_parameters` is switching. -/
structure PathKept (changed : Bool) (s : AudioState) : Prop where
  path : s.headphones = pathOf s.lgeAmplifier.hifiDacEnabled
  switching : s.lgeAmplifier.hifiDacConfigChanged = changed
  routed : ∀ r ∈ s.routings, r.Follows

/-- What does not touch the path keeps it. -/
theorem PathKept.of_same {changed : Bool} {s t : AudioState} (h : PathKept changed s)
    (hsame : SamePath s t) : PathKept changed t where
  path := by rw [hsame.path, hsame.enabled, h.path]
  switching := by rw [hsame.changed, h.switching]
  routed r hr := h.routed r (by rwa [hsame.routings] at hr)

/-! ## Routing -/

/-- The state after a change of the path. -/
def AudioState.routedTo (s : AudioState) (path : HeadphonePath) (enabled : Bool) : AudioState :=
  { s with
    headphones := path
    lgeAmplifier := { s.lgeAmplifier with hifiDacEnabled := enabled } }

/-- The path is changed as a whole, unless there is no audio device. -/
theorem ends_changePath {s : AudioState} (path : HeadphonePath) (enabled : Bool)
    {post : PUnit → AudioState → Prop} (h : post ⟨⟩ (s.routedTo path enabled)) :
    Ends (changePath path enabled) s post fun _ _ => s.lgeAmplifier.adev = false := by
  rw [changePath, ends_bind, audioRouteApplyAndUpdatePath, setHeadphonesBackend, ends_modify,
    ends_bind, ends_bind, ends_derefAdev]
  cases hadev : s.lgeAmplifier.adev with
  | true => exact h
  | false => rfl

/-- What `set_output_devices` does to the state. -/
inductive Routes (device : DevicePtr) (devices : SndDevice) (s : AudioState) :
    Int → AudioState → Prop
  | null (h : device = .null) : Routes device devices s (-einval) s
  | elsewhere (h : devices ≠ .outHeadphones) : Routes device devices s 0 s
  | unchanged (h : s.lgeAmplifier.hifiDacEnabled = s.asked)
      (hsame : s.lgeAmplifier.hifiDacConfigChanged = false) : Routes device devices s 0 s
  | switched : Routes device devices s 0 (s.routedTo (pathOf s.asked) s.asked)

/-- A routing ends in one of the ways of `Routes`. -/
theorem ends_routeOutputDevices (device : DevicePtr) (devices : SndDevice) (s : AudioState) :
    Ends (routeOutputDevices device devices) s (Routes device devices s)
      fun _ _ => s.lgeAmplifier.adev = false := by
  rw [routeOutputDevices, ends_bind, ends_get, ends_ite]
  refine ⟨Routes.null, fun _ => ?_⟩
  rw [ends_ite]
  refine ⟨Routes.elsewhere, fun _ => ?_⟩
  rw [ends_bind, ends_get, ends_ite]
  refine ⟨fun h => Routes.unchanged h.2.symm h.1, fun _ => ?_⟩
  have hswitched : Routes device devices s 0 (s.routedTo (pathOf s.asked) s.asked) :=
    Routes.switched
  rw [AudioState.asked] at hswitched
  cases hasked : propertyGetBool s.hifiEnabled false with
  | true =>
      rw [hasked] at hswitched
      exact (ends_bind _ _).mpr (ends_changePath hifiPath true hswitched)
  | false =>
      rw [hasked] at hswitched
      exact (ends_bind _ _).mpr (ends_changePath defaultPath false hswitched)

variable {changed : Bool} {s t : AudioState} {rc : Int} {device : DevicePtr}
  {devices : SndDevice}

/-- A routing changes neither the property nor the usecases. -/
theorem Routes.same (h : Routes device devices s rc t) :
    t.hifiEnabled = s.hifiEnabled ∧ t.lgeAmplifier.adev = s.lgeAmplifier.adev ∧
      t.usecaseList = s.usecaseList := by
  cases h with
  | null h => exact ⟨rfl, rfl, rfl⟩
  | elsewhere h => exact ⟨rfl, rfl, rfl⟩
  | unchanged h hsame => exact ⟨rfl, rfl, rfl⟩
  | switched => exact ⟨rfl, rfl, rfl⟩

/-- A routing keeps the path and the flags in line. -/
theorem Routes.pathKept (h : Routes device devices s rc t) (hs : PathKept changed s) :
    PathKept changed t := by
  cases h with
  | null h => exact hs
  | elsewhere h => exact hs
  | unchanged h hsame => exact hs
  | switched => exact { path := rfl, switching := hs.switching, routed := hs.routed }

/-- The skip is right because the flag stands for the path. -/
theorem Routes.follows (h : Routes device devices s rc t) (hs : PathKept changed s)
    (hrc : rc = 0) (hdevices : devices = .outHeadphones) : t.headphones = pathOf t.asked := by
  cases h with
  | null h => cases hrc
  | elsewhere h => exact absurd hdevices h
  | unchanged h hsame => rw [hs.path, h]
  | switched => rfl

/-- A routing only fails without a device. -/
theorem Routes.rc_eq_zero (h : Routes device devices s rc t) (hdevice : device = .opened) :
    rc = 0 := by
  cases h with
  | null h =>
      rw [h] at hdevice
      cases hdevice
  | elsewhere h => rfl
  | unchanged h hsame => rfl
  | switched => rfl

/-- A routing that returned 0 is noted with its path. -/
theorem ends_noteRouting (devices : SndDevice) (rc : Int) {post : PUnit → AudioState → Prop}
    {stop : Unit → AudioState → Prop} :
    Ends (noteRouting devices rc) s post stop ↔
      post ⟨⟩ (if rc = 0 then
        { s with routings := s.routings ++ [⟨devices, s.hifiEnabled, s.headphones⟩] } else s) := by
  rw [noteRouting]
  split
  · rfl
  · rfl

/-- A call keeps the path and the flags in line and leaves the headphones, if it is for
them, on the path that the property asks for. -/
theorem ends_setOutputDevices (device : DevicePtr) (devices : SndDevice)
    (hs : PathKept changed s) :
    Ends (setOutputDevices device devices) s
      (fun _ t => (PathKept changed t ∧
          (device = .opened → devices = .outHeadphones → t.headphones = pathOf t.asked)) ∧
        t.hifiEnabled = s.hifiEnabled ∧ t.lgeAmplifier.adev = s.lgeAmplifier.adev)
      fun _ _ => s.lgeAmplifier.adev = false := by
  rw [setOutputDevices]
  apply (ends_routeOutputDevices device devices s).bind
  intro rc t ht
  have hkept := ht.pathKept hs
  have hfollows : device = .opened → devices = .outHeadphones → t.headphones = pathOf t.asked :=
    fun hdevice => ht.follows hs (ht.rc_eq_zero hdevice)
  rw [ends_bind, ends_noteRouting, ends_pure]
  split
  · rename_i hrc
    refine ⟨⟨⟨hkept.path, hkept.switching, ?_⟩, hfollows⟩, ht.same.1, ht.same.2.1⟩
    intro r hr
    cases List.mem_append.mp hr with
    | inl hold => exact hkept.routed r hold
    | inr hnew =>
        rw [List.mem_singleton.mp hnew]
        exact ht.follows hs hrc
  · exact ⟨⟨hkept, hfollows⟩, ht.same.1, ht.same.2.1⟩

/-! ## Setting parameters -/

/-- The property is not part of what is kept. -/
theorem PathKept.propertyChanged (hs : PathKept changed s) (value : String) :
    PathKept changed { s with hifiEnabled := value } where
  path := hs.path
  switching := hs.switching
  routed := hs.routed

/-- Whatever happens during `select_devices`, the path and the flags stay in line. The induction is
on what happens. -/
theorem ends_reenter (reentries : List Reentry) (hs : PathKept changed s) :
    Ends (reenter reentries) s
      (fun _ t => PathKept changed t ∧ t.lgeAmplifier.adev = s.lgeAmplifier.adev)
      fun _ _ => s.lgeAmplifier.adev = false := by
  induction reentries generalizing s with
  | nil => exact ⟨hs, rfl⟩
  | cons reentry rest ih =>
      cases reentry with
      | setOutputDevices device devices =>
          apply (ends_setOutputDevices device devices hs).bind
          intro rc t ht
          rw [← ht.2.2]
          exact ih ht.1.1
      | propertyChanged value => exact (ends_bind _ _).mpr (ih (hs.propertyChanged value))

/-- The state in which `select_devices` runs for a usecase. -/
def AudioState.switching (s : AudioState) (usecase : Usecase) : AudioState :=
  ((s.withAmplifier { s.lgeAmplifier with hifiDacConfigChanged := true }).withUsecases
    (s.usecaseList.setStreamConfigChanged usecase.address true)).logging
      (.selectDevices usecase.id)

/-- The flag for the switch is set around `select_devices` only. -/
theorem ends_switchPlayback (build : Build) (reentries : List Reentry)
    (hs : PathKept false s) :
    Ends (switchPlayback build reentries) s
      (fun _ t => PathKept false t ∧ t.lgeAmplifier.adev = s.lgeAmplifier.adev)
      fun _ _ => s.lgeAmplifier.adev = false := by
  rw [switchPlayback, ends_bind, ends_get]
  cases s.usecaseList.usecases.find? (playsOnHeadphones build) with
  | none => exact ⟨hs, rfl⟩
  | some usecase =>
      have hswitching : PathKept true (s.switching usecase) := ⟨hs.path, rfl, hs.routed⟩
      simp only [ends_bind, setHifiDacConfigChanged, setStreamConfigChanged, selectDevices,
        calling, ends_modify]
      apply (ends_reenter reentries hswitching).mono
      · exact fun _ t ht => ⟨⟨ht.1.path, rfl, ht.1.routed⟩, ht.2⟩
      · exact fun _ _ h => h

/-- The DAC is switched by way of the property, and the path follows where a playback is on. -/
theorem ends_setHifiDac (build : Build) (value : String) (answers : ParametersAnswers)
    (hs : PathKept false s) :
    Ends (setHifiDac build value answers) s
      (fun _ t => PathKept false t ∧ t.lgeAmplifier.adev = s.lgeAmplifier.adev)
      fun _ _ => s.lgeAmplifier.adev = false := by
  have hset : ∀ text : String,
      Ends (do
        propertySet answers.propertySet text
        switchPlayback build answers.reentries
        return (0 : Int)) s
        (fun _ t => PathKept false t ∧ t.lgeAmplifier.adev = s.lgeAmplifier.adev)
        fun _ _ => s.lgeAmplifier.adev = false := by
    intro text
    cases hok : answers.propertySet with
    | true =>
        rw [propertySet, if_pos rfl, ends_bind, propertyChanged, ends_modify, ends_bind]
        exact ends_switchPlayback build answers.reentries (hs.propertyChanged text)
    | false =>
        rw [propertySet, if_neg Bool.false_ne_true, ends_bind, ends_pure, ends_bind]
        exact ends_switchPlayback build answers.reentries hs
  rw [setHifiDac, ends_bind, ends_get, ends_ite]
  refine ⟨fun _ => ?_, fun _ => ?_⟩
  · rw [ends_ite]
    exact ⟨fun _ => ⟨hs, rfl⟩, fun _ => hset "true"⟩
  · rw [ends_ite]
    refine ⟨fun _ => ?_, fun _ => ⟨hs, rfl⟩⟩
    rw [ends_ite]
    exact ⟨fun _ => ⟨hs, rfl⟩, fun _ => hset "false"⟩

/-- The call always returns, as it checks the pointer to the audio device first. -/
theorem ends_setParameters (build : Build) (device : DevicePtr) (parms : StrParms)
    (answers : ParametersAnswers) (hs : PathKept false s) :
    Ends (setParameters build device parms answers) s (fun _ => PathKept false)
      fun _ _ => False := by
  rw [setParameters, ends_ite]
  refine ⟨fun _ => hs, fun _ => ?_⟩
  rw [ends_bind, ends_get, ends_ite]
  refine ⟨fun _ => hs, fun hadev => ?_⟩
  rw [ends_ite]
  refine ⟨fun _ => hs, fun _ => ?_⟩
  rw [ends_ite]
  refine ⟨fun _ => hs, fun _ => ?_⟩
  cases StrParms.getStr parms "hifi_dac" build.abi.sizeofPointer with
  | none => exact hs
  | some value =>
      exact (ends_setHifiDac build value answers hs).mono (fun _ _ h => h.1) fun _ _ h => hadev h

/-! ## Runs -/

/-- Every operation that returns keeps the path and the flags in line. -/
theorem PathKept.of_returns (build : Build) (hs : PathKept false s) {op : Op}
    (hreturns : Returns build s op) : PathKept false (step build s op) := by
  have hsame : ∀ x : AmpM Int, Moves SamePath True x → PathKept false (final x s) :=
    fun x hx => hs.of_same (hx.final s)
  cases op with
  | setOutputDevices device devices =>
      have hends : Ends (setOutputDevices device devices) s (fun _ => PathKept false)
          fun _ _ => s.lgeAmplifier.adev = false :=
        (ends_setOutputDevices device devices hs).mono (fun _ _ h => h.1.1) fun _ _ h => h
      exact hends.of_returns hreturns
  | setParameters device parms answers =>
      exact (ends_setParameters build device parms answers hs).of_returns hreturns
  | setFeedback device adev devices enable answers =>
      exact hsame _ (samePath_setFeedback device adev devices enable answers)
  | calibrate device adev => exact hsame _ (samePath_calibrate device adev)
  | propertyChanged value => exact hs.propertyChanged value
  | startUsecase usecase =>
      exact hsame _ (samePath_bind (samePath_startUsecase usecase) fun _ => samePath_pure 0)
  | stopUsecase address =>
      exact hsame _ (samePath_bind (samePath_stopUsecase address) fun _ => samePath_pure 0)

/-- A device just opened is on the normal path. -/
theorem pathKept_opened (hifiEnabled : String) : PathKept false (opened {} hifiEnabled) where
  path := rfl
  switching := rfl
  routed := nofun

/-- After a call for the headphones they are on the path that the property asks for. -/
def FollowsProperty (op : Op) (t : AudioState) : Prop :=
  op = .setOutputDevices .opened .outHeadphones → t.headphones = pathOf t.asked

/-- A call for the headphones leaves them on the path that the property asks for. -/
theorem PathKept.followsProperty (build : Build) (hs : PathKept false s) {op : Op}
    (hreturns : Returns build s op) : FollowsProperty op (step build s op) := by
  intro hop
  subst hop
  have hends : Ends (setOutputDevices .opened .outHeadphones) s
      (fun _ t => t.headphones = pathOf t.asked) fun _ _ => s.lgeAmplifier.adev = false :=
    (ends_setOutputDevices .opened .outHeadphones hs).mono (fun _ _ h => h.1.2 rfl rfl)
      fun _ _ h => h
  exact hends.of_returns hreturns

/-- In every run of calls that return, the flag stands for the path that is applied, the flag for
the switch is down between calls, every routing so far has followed the property, and a call for
the headphones leaves them on the path that the property asks for. -/
theorem applied_path_follows_setting (build : Build) {interface name : String} {calloc : Bool}
    {device : LgeAmplifierDevice} (hopen : moduleOpen interface name calloc = .ok device)
    (hifiEnabled : String) {ops : List Op}
    (hreturns : Admits (step build) (Returns build) (opened device hifiEnabled) ops) :
    (opened device hifiEnabled).headphones = defaultPath ∧
    Throughout (step build)
      (fun s => (s.lgeAmplifier.hifiDacEnabled = true ↔
          (s.headphones.backend = hifiDacBackend ∧ s.headphones.interface = hifiDacInterface ∧
            s.headphones.mixerPath = essHifiModeMixerPath)) ∧
        (s.lgeAmplifier.hifiDacEnabled = false → s.headphones = defaultPath) ∧
        s.lgeAmplifier.hifiDacConfigChanged = false ∧ ∀ r ∈ s.routings, r.Follows)
      (opened device hifiEnabled) ops ∧
    Admits (step build) (fun s op => FollowsProperty op (step build s op))
      (opened device hifiEnabled) ops := by
  rw [moduleOpen_eq_ok hopen] at hreturns ⊢
  have hstep : ∀ s op, PathKept false s → Returns build s op → PathKept false (step build s op) :=
    fun s op hs hop => hs.of_returns build hop
  refine ⟨rfl, ?_, ?_⟩
  · apply hreturns.throughout (PathKept false) hstep _ (pathKept_opened hifiEnabled)
    intro s hs
    rw [hs.path]
    refine ⟨hifi_iff _, fun hoff => ?_, hs.switching, hs.routed⟩
    rw [hoff]
    rfl
  · apply hreturns.strengthen (PathKept false) hstep _ (pathKept_opened hifiEnabled)
    exact fun s op hs hop => hs.followsProperty build hop

/-- A playback on wired headphones. -/
def headphonePlayback : Usecase where
  id := .other 0
  type := .pcmPlayback
  streamOut := some {}
  deviceList := [audioDeviceOutWiredHeadphone]

/-- The DAC is turned off during a playback, and the property is set back by others. -/
def switchingRun : List Op :=
  [.calibrate .opened true, .setOutputDevices .opened .outHeadphones,
    .startUsecase headphonePlayback,
    .setParameters .opened [("hifi_dac", "off")]
      { reentries := [.setOutputDevices .opened .outSpeaker,
          .setOutputDevices .opened .outHeadphones] },
    .propertyChanged "true", .setOutputDevices .opened .outHeadphones]

/-- The switch is applied while `set_parameters` runs, and later calls follow the property. -/
theorem applied_path_follows_setting_run :
    (run (step {}) (opened {} "yes") switchingRun).routings =
        [⟨.outHeadphones, "yes", hifiPath⟩, ⟨.outSpeaker, "false", hifiPath⟩,
          ⟨.outHeadphones, "false", defaultPath⟩, ⟨.outHeadphones, "true", hifiPath⟩] ∧
      (run (step {}) (opened {} "yes") switchingRun).lgeAmplifier.hifiDacConfigChanged = false :=
  have hopen : moduleOpen "audio" "audio" true = .ok {} := rfl
  have hreturns : Admits (step {}) (Returns {}) (opened {} "yes") switchingRun := by
    decide +kernel
  ⟨by decide +kernel, (applied_path_follows_setting {} hopen "yes" hreturns).2.1.run.2.2.1⟩

end LgeHardware.Amplifier
