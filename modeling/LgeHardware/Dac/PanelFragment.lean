import LgeHardware.Dac.PanelSettings

/-! # The panel and its controls

The panel has a switch for the DAC, which can be used while a headset is plugged in, and controls
for the settings, which can be used while the DAC is switched on as well. Those of the custom
filter are only shown while that filter is chosen, but for the button that resets them. Headsets
come and go, and each of the handlers changes a few controls.
-/

namespace LgeHardware.Dac

open LgeHardware.Foundation

/-! ## The controls -/

/-- The fourteen seek bars of the coefficients are always treated alike. -/
inductive Control
  | quadDacSwitch
  | soundPresetList
  | digitalFilterList
  | modeList
  | balancePreference
  | avcVolume
  | customFilterShape
  | customFilterSymmetry
  | customFilterCoeffs
  | customFilterResetCoeffsButton
  deriving DecidableEq, Repr

/-- The service, and what the fragment has made of the controls. A list shows an index, and a
seek bar a value. -/
structure PanelFragment where
  service : DacState
  enabled : Control → Bool
  visible : Control → Bool
  switchChecked : Bool
  shown : Feature → Int32

namespace PanelFragment

def extraSettings : List Control :=
  [.digitalFilterList, .modeList, .avcVolume, .balancePreference]

def customFilterSettings : List Control :=
  [.customFilterShape, .customFilterSymmetry, .customFilterCoeffs]

def customFilterControls : List Control :=
  customFilterSettings ++ [.customFilterResetCoeffsButton]

def setEnabled (controls : List Control) (enabled : Bool) (p : PanelFragment) : PanelFragment :=
  { p with enabled := fun c => if c ∈ controls then enabled else p.enabled c }

def setVisible (controls : List Control) (visible : Bool) (p : PanelFragment) : PanelFragment :=
  { p with visible := fun c => if c ∈ controls then visible else p.visible c }

def showing (f : Feature) (v : Int32) (p : PanelFragment) : PanelFragment :=
  { p with shown := Function.update p.shown f v }

def call (device : Device) (dacFeatures : List Feature) (c : PanelCall) (p : PanelFragment) :
    PanelFragment :=
  { p with service := c.next device dacFeatures p.service }

/-! ## The handlers -/

def checkCustomFilterVisibility (p : PanelFragment) : PanelFragment :=
  match p.service.getFeatureValue .digitalFilter with
  | none => p
  | some filter => p.setVisible customFilterSettings (filter == 3)

/-- It does not matter how applying the settings of the filter ends. -/
def enableCustomFilter (device : Device) (dacFeatures : List Feature) (answers : Answers)
    (p : PanelFragment) : PanelFragment :=
  let p := p.checkCustomFilterVisibility.setEnabled customFilterControls true
  p.call device dacFeatures ⟨.setCustomFilterShape p.service.getCustomFilterShape, answers⟩

def disableCustomFilter (p : PanelFragment) : PanelFragment :=
  p.checkCustomFilterVisibility.setEnabled customFilterControls false

def enableExtraSettings (device : Device) (dacFeatures : List Feature) (answers : Answers)
    (p : PanelFragment) : PanelFragment :=
  let p := p.setEnabled extraSettings true
  let p := if dacFeatures.contains .soundPreset then p.setEnabled [.soundPresetList] true else p
  if dacFeatures.contains .customFilter then p.enableCustomFilter device dacFeatures answers
  else p

def disableExtraSettings (p : PanelFragment) : PanelFragment :=
  (p.setEnabled (extraSettings ++ [.soundPresetList]) false).disableCustomFilter

/-- A control shows the new value if the handler returns true. `QuadDAC.enable` does not throw;
where another call does, the handler returns false. -/
def onPreferenceChange (device : Device) (dacFeatures : List Feature) (call : PanelCall)
    (answers : Answers) (p : PanelFragment) : PanelFragment :=
  let q := p.call device dacFeatures call
  match call.op with
  | .enable => { q.enableExtraSettings device dacFeatures answers with switchChecked := true }
  | op =>
      if stops (op.program device dacFeatures) (p.service.withAnswers call.answers) then q
      else
        match op with
        | .disable => { q.disableExtraSettings with switchChecked := false }
        | .setDigitalFilter filter =>
            (if dacFeatures.contains .customFilter && filter == 3 then
              q.enableCustomFilter device dacFeatures answers
            else q.disableCustomFilter).showing .digitalFilter filter
        | op =>
            match op.chosen with
            | some (f, v) => q.showing f v
            | none => q

/-- `HeadsetPluggedFragmentReceiver.onReceive`. -/
def onReceive (device : Device) (dacFeatures : List Feature) (state : Int32) (answers : Answers)
    (p : PanelFragment) : PanelFragment :=
  if state = 1 then
    let p := p.setEnabled [.quadDacSwitch] true
    if p.switchChecked then p.enableExtraSettings device dacFeatures answers else p
  else if state = 0 then (p.setEnabled [.quadDacSwitch] false).disableExtraSettings
  else p

/-! ## The fragment is created -/

/-- `ListPreference.setValueIndex`, which throws where there is no such entry. -/
def listEntry (entries v : Int32) : Option Int32 := if 0 ≤ v ∧ v < entries then some v else none

/-- `SeekBarPreference.setValue`, which stays in the range. -/
def seekBar (range : Range) (v : Int32) : Option Int32 :=
  some (if v < range.min then range.min else if range.max < v then range.max else v)

/-- A feature of the service becomes visible, and its control shows the value. -/
def load (dacFeatures : List Feature) (f : Feature) (c : Control)
    (entry : Int32 → Option Int32) : EStateM Unit PanelFragment PUnit := fun p =>
  if f ∈ dacFeatures then
    let p := p.setVisible [c] true
    match (p.service.getFeatureValue f).bind entry with
    | some v => .ok ⟨⟩ (p.showing f v)
    | none => .error () p
  else .ok ⟨⟩ p

/-- The first part of `addPreferencesFromResource`, which ends where a call throws. What the
controls of the custom filter show is left out. -/
def loadFeatures (dacFeatures : List Feature) : EStateM Unit PanelFragment PUnit := do
  modify fun p => if .quadDac ∈ dacFeatures then p.setVisible [.quadDacSwitch] true else p
  load dacFeatures .soundPreset .soundPresetList (listEntry 5)
  load dacFeatures .digitalFilter .digitalFilterList (listEntry 4)
  modify fun p =>
    if .balanceLeft ∈ dacFeatures ∧ .balanceRight ∈ dacFeatures then
      p.setVisible [.balancePreference] true
    else p
  load dacFeatures .avcVolume .avcVolume (seekBar DacState.getAvcVolumeStates.range)
  load dacFeatures .hifiMode .modeList (listEntry 3)
  modify fun p =>
    if .customFilter ∈ dacFeatures then p.setVisible customFilterSettings true else p

/-- The second part of `addPreferencesFromResource`. -/
def loadSwitch (device : Device) (dacFeatures : List Feature) (isWiredHeadsetOn : Bool)
    (answers : Answers) (p : PanelFragment) : PanelFragment :=
  if isWiredHeadsetOn then
    let p := p.setEnabled [.quadDacSwitch] true
    if p.service.getHifiDacState device then
      { p with switchChecked := true }.enableExtraSettings device dacFeatures answers
    else { p with switchChecked := false }.disableExtraSettings
  else
    let p := (p.setEnabled [.quadDacSwitch] false).disableExtraSettings
    if p.service.getHifiDacState device then { p with switchChecked := true } else p

/-- The controls as the resource describes them. The switch and the values are those that the
preferences have kept. -/
def resource (service : DacState) (switchChecked : Bool) (shown : Feature → Int32) :
    PanelFragment where
  service := service
  enabled _ := true
  visible c := customFilterControls.contains c
  switchChecked := switchChecked
  shown := shown

def addPreferencesFromResource (device : Device) (dacFeatures : List Feature)
    (isWiredHeadsetOn : Bool) (answers : Answers) (p : PanelFragment) : PanelFragment :=
  (final (loadFeatures dacFeatures) p).loadSwitch device dacFeatures isWiredHeadsetOn answers

end PanelFragment

/-! ## Runs -/

/-- What the user, the headset and the rest of the application do. Every call to the service ends
as its answers say. -/
inductive PanelEvent
  | preferenceChange (call : PanelCall) (answers : Answers)
  | headsetPlug (state : Int32) (answers : Answers)
  | elsewhere (call : PanelCall)

/-- The control behind a call. -/
def PanelOp.control : PanelOp → Control
  | .enable | .disable => .quadDacSwitch
  | .setDACMode _ => .modeList
  | .setLeftBalance _ | .setRightBalance _ => .balancePreference
  | .setAVCVolume _ => .avcVolume
  | .setDigitalFilter _ => .digitalFilterList
  | .setSoundPreset _ => .soundPresetList
  | .setCustomFilterShape _ => .customFilterShape
  | .setCustomFilterSymmetry _ => .customFilterSymmetry
  | .setCustomFilterCoeff .. => .customFilterCoeffs
  | .resetCustomFilterCoeffs => .customFilterResetCoeffsButton

/-- The features whose values the fragment shows. -/
def shownFeatures : List Feature := [.soundPreset, .digitalFilter, .avcVolume, .hifiMode]

namespace PanelEvent

/-- Whether a headset is plugged in, as the event tells. -/
def plugged : PanelEvent → Option Bool
  | .headsetPlug state _ => if state = 1 then some true else if state = 0 then some false else none
  | _ => none

/-- Where the event moves the switch. -/
def switched : PanelEvent → Option Bool
  | .preferenceChange call _ =>
      match call.op with
      | .enable => some true
      | .disable => some false
      | _ => none
  | _ => none

end PanelEvent

namespace PanelFragment

def next (device : Device) (dacFeatures : List Feature) (p : PanelFragment) :
    PanelEvent → PanelFragment
  | .preferenceChange call answers => p.onPreferenceChange device dacFeatures call answers
  | .headsetPlug state answers => p.onReceive device dacFeatures state answers
  | .elsewhere call => p.call device dacFeatures call

/-- A control that is used is enabled, and a value chosen with it is stored. Nothing else sets the
features that the fragment shows. -/
def Allowed (device : Device) (features : List Feature) (p : PanelFragment) : PanelEvent → Prop
  | .preferenceChange call _ => p.enabled call.op.control = true ∧
      ∀ chosen ∈ call.op.chosen, stores device features call.answers chosen.1 chosen.2 = true
  | .headsetPlug .. => True
  | .elsewhere call => ∀ chosen ∈ call.op.chosen, chosen.1 ∉ shownFeatures

instance (device : Device) (features : List Feature) (p : PanelFragment) (event : PanelEvent) :
    Decidable (p.Allowed device features event) :=
  match event with
  | .preferenceChange call _ => inferInstanceAs (Decidable (p.enabled call.op.control = true ∧
      ∀ chosen ∈ call.op.chosen, _))
  | .headsetPlug .. => inferInstanceAs (Decidable True)
  | .elsewhere call => inferInstanceAs (Decidable (∀ chosen ∈ call.op.chosen, _))

/-- A headset is plugged in, and the switch is on. -/
def usable (p : PanelFragment) : Bool := p.enabled .quadDacSwitch && p.switchChecked

/-- The controls that go with the DAC. -/
def withDac (features : List Feature) : List Control :=
  extraSettings ++ if features.contains .soundPreset then [.soundPresetList] else []

def FilterChosen (p : PanelFragment) : Prop := p.service.getFeatureValue .digitalFilter = some 3

/-- The features of a device with a custom filter. -/
def HasCustomFilter (features : List Feature) : Prop :=
  .digitalFilter ∈ features ∧ .customFilter ∈ features

/-- What a control is shown for. The settings of the custom filter and the button that resets them
are not hidden to begin with. -/
def Offered (features : List Feature) : Control → Prop
  | .quadDacSwitch => .quadDac ∈ features
  | .soundPresetList => .soundPreset ∈ features
  | .digitalFilterList => .digitalFilter ∈ features
  | .modeList => .hifiMode ∈ features
  | .balancePreference => .balanceLeft ∈ features ∧ .balanceRight ∈ features
  | .avcVolume => .avcVolume ∈ features
  | .customFilterShape | .customFilterSymmetry | .customFilterCoeffs
  | .customFilterResetCoeffsButton => True

/-- The settings of the custom filter are shown exactly while it is chosen. Then its controls can
be used exactly while the DAC can, and otherwise not without the DAC. -/
structure FilterFollows (p : PanelFragment) : Prop where
  visible : ∀ c ∈ customFilterSettings, p.visible c = true ↔ p.FilterChosen
  usable : ∀ c ∈ customFilterControls, p.enabled c = true → p.usable = true
  chosen : p.FilterChosen → ∀ c ∈ customFilterControls, p.enabled c = p.usable

/-- The settings can be used exactly while the DAC can. What the lists and the seek bar show is
what the service has. The controls are shown that the device has something for, and where it has a
custom filter its settings follow it. -/
structure Consistent (features : List Feature) (p : PanelFragment) : Prop where
  extra : ∀ c ∈ withDac features, p.enabled c = p.usable
  agrees : ∀ f ∈ shownFeatures, f ∈ features → p.service.getFeatureValue f = some (p.shown f)
  offered : ∀ c ∉ customFilterSettings, p.visible c = true ↔ Offered features c
  filter : HasCustomFilter features → p.FilterFollows

/-- The service is alive, and the fragment shows what it has. -/
def Agrees (features : List Feature) (p : PanelFragment) : Prop :=
  ∃ values, Holding features values p.service ∧
    ∀ f ∈ shownFeatures, f ∈ features → p.shown f = values f

/-- What a handler leaves behind that enables or disables all the settings. -/
structure AllSet (features : List Feature) (on : Bool) (p : PanelFragment) : Prop where
  extra : ∀ c ∈ withDac features, p.enabled c = on
  custom : HasCustomFilter features → ∀ c ∈ customFilterControls, p.enabled c = on
  visible : HasCustomFilter features →
    ∀ c ∈ customFilterSettings, p.visible c = true ↔ p.FilterChosen

variable {device : Device} {features : List Feature} {values : Feature → Int32}
  {p : PanelFragment} {on : Bool}

/-! What the handlers make of the controls. -/

/-- What is shown is what the service reads. -/
theorem Agrees.reads (h : p.Agrees features) {f : Feature} (hf : f ∈ shownFeatures)
    (hsupported : f ∈ features) : p.service.getFeatureValue f = some (p.shown f) := by
  obtain ⟨values, hholding, hshown⟩ := h
  rw [hshown f hf hsupported]
  exact hholding.reads f hsupported

/-- A panel with all its settings set alike is consistent if that is what the switch says. -/
theorem AllSet.consistent (h : p.AllSet features on) (hon : on = p.usable)
    (hagrees : p.Agrees features)
    (hoffered : ∀ c ∉ customFilterSettings, p.visible c = true ↔ Offered features c) :
    p.Consistent features where
  extra c hc := (h.extra c hc).trans hon
  agrees _ hf hsupported := hagrees.reads hf hsupported
  offered := hoffered
  filter hfeatures :=
    { visible := h.visible hfeatures
      usable := fun c hc henabled => by
        rw [← hon, ← h.custom hfeatures c hc]
        exact henabled
      chosen := fun _ c hc => (h.custom hfeatures c hc).trans hon }

/-- Where the switch stands makes no difference to how the settings are set. -/
theorem AllSet.moved (h : p.AllSet features on) (switchChecked : Bool) :
    AllSet features on { p with switchChecked } :=
  ⟨h.extra, h.custom, h.visible⟩

/-- A call that chooses none of the values shown leaves them as they are. -/
theorem Agrees.call (h : p.Agrees features) {call : PanelCall}
    (hcall : ∀ chosen ∈ call.op.chosen, chosen.1 ∉ shownFeatures) :
    (p.call device features call).Agrees features ∧
      ∀ f ∈ shownFeatures, f ∈ features →
        (p.call device features call).service.getFeatureValue f = p.service.getFeatureValue f := by
  obtain ⟨values, hholding, hshown⟩ := h
  have hkept : ∀ f ∈ shownFeatures, (call.stored device features f).getD (values f) = values f := by
    intro f hf
    rw [PanelCall.stored]
    cases hchosen : call.op.chosen with
    | none => rfl
    | some chosen =>
        dsimp only
        rw [if_neg, Option.getD_none]
        rintro ⟨rfl, -⟩
        exact hcall chosen hchosen hf
  have hnext := hholding.next device call
  refine ⟨⟨_, hnext, fun f hf hsupported => ?_⟩, fun f hf hsupported => ?_⟩
  · exact (hshown f hf hsupported).trans (hkept f hf).symm
  · refine (hnext.reads f hsupported).trans ?_
    rw [hkept f hf]
    exact (hholding.reads f hsupported).symm

theorem checkCustomFilterVisibility_eq {filter : Int32}
    (h : p.service.getFeatureValue .digitalFilter = some filter) :
    p.checkCustomFilterVisibility = p.setVisible customFilterSettings (filter == 3) := by
  rw [checkCustomFilterVisibility, h]

/-- The custom filter is shown as it should be, and its controls are enabled or disabled. -/
theorem visible_checked {filter : Int32}
    (h : p.service.getFeatureValue .digitalFilter = some filter) {c : Control}
    (hc : c ∈ customFilterSettings) :
    (p.setVisible customFilterSettings (filter == 3)).visible c = true ↔ p.FilterChosen := by
  have hshown : (p.setVisible customFilterSettings (filter == 3)).visible c = (filter == 3) :=
    if_pos hc
  rw [hshown, beq_iff_eq, FilterChosen, h, Option.some_inj]

/-- What the handlers leave to their callers. -/
structure SameSwitch (p q : PanelFragment) : Prop where
  enabled : q.enabled .quadDacSwitch = p.enabled .quadDacSwitch
  checked : q.switchChecked = p.switchChecked
  shown : q.shown = p.shown
  visible : ∀ c ∉ customFilterSettings, q.visible c = p.visible c

theorem SameSwitch.usable {q : PanelFragment} (h : SameSwitch p q) : q.usable = p.usable := by
  rw [PanelFragment.usable, PanelFragment.usable, h.enabled, h.checked]

theorem SameSwitch.trans {q r : PanelFragment} (h : SameSwitch p q) (h' : SameSwitch q r) :
    SameSwitch p r where
  enabled := h'.enabled.trans h.enabled
  checked := h'.checked.trans h.checked
  shown := h'.shown.trans h.shown
  visible c hc := (h'.visible c hc).trans (h.visible c hc)

theorem sameSwitch_setEnabled {controls : List Control} (hcontrols : .quadDacSwitch ∉ controls)
    (enabled : Bool) : SameSwitch p (p.setEnabled controls enabled) :=
  ⟨if_neg hcontrols, rfl, rfl, fun _ _ => rfl⟩

/-- The check changes nothing but which settings of the custom filter are shown. -/
theorem checkCustomFilterVisibility_frame :
    SameSwitch p p.checkCustomFilterVisibility ∧
      p.checkCustomFilterVisibility.service = p.service ∧
      p.checkCustomFilterVisibility.enabled = p.enabled := by
  rw [checkCustomFilterVisibility]
  split
  next => exact ⟨⟨rfl, rfl, rfl, fun _ _ => rfl⟩, rfl, rfl⟩
  next => exact ⟨⟨rfl, rfl, rfl, fun c hc => if_neg hc⟩, rfl, rfl⟩

/-- The controls of the custom filter are disabled, and nothing else changes but which of its
settings are shown. -/
theorem disableCustomFilter_spec (hagrees : p.Agrees features) :
    SameSwitch p p.disableCustomFilter ∧ p.disableCustomFilter.Agrees features ∧
      (∀ c ∉ customFilterControls, p.disableCustomFilter.enabled c = p.enabled c) ∧
      (∀ c ∈ customFilterControls, p.disableCustomFilter.enabled c = false) ∧
      (.digitalFilter ∈ features → ∀ c ∈ customFilterSettings,
        p.disableCustomFilter.visible c = true ↔ p.disableCustomFilter.FilterChosen) := by
  obtain ⟨hswitch, hservice, henabled⟩ := @checkCustomFilterVisibility_frame p
  refine ⟨hswitch.trans (sameSwitch_setEnabled (by decide) false), ?_, ?_, fun c hc => if_pos hc,
    ?_⟩
  · obtain ⟨values, hholding, hshown⟩ := hagrees
    exact ⟨values, hservice.symm ▸ hholding, hswitch.shown.symm ▸ hshown⟩
  · intro c hc
    exact (if_neg hc).trans (congrFun henabled c)
  · intro hfilter c hc
    have hreads := hagrees.reads (by decide) hfilter
    rw [disableCustomFilter, checkCustomFilterVisibility_eq hreads]
    exact visible_checked hreads hc

/-- The controls of the custom filter are enabled, and nothing else changes on the panel but which
of its settings are shown. -/
theorem enableCustomFilter_spec (hagrees : p.Agrees features) (answers : Answers) :
    SameSwitch p (p.enableCustomFilter device features answers) ∧
      (p.enableCustomFilter device features answers).Agrees features ∧
      (∀ c ∉ customFilterControls,
        (p.enableCustomFilter device features answers).enabled c = p.enabled c) ∧
      (∀ c ∈ customFilterControls,
        (p.enableCustomFilter device features answers).enabled c = true) ∧
      (.digitalFilter ∈ features → ∀ c ∈ customFilterSettings,
        (p.enableCustomFilter device features answers).visible c = true ↔
          (p.enableCustomFilter device features answers).FilterChosen) := by
  obtain ⟨hswitch, hservice, henabled⟩ := @checkCustomFilterVisibility_frame p
  have hchecked : (p.checkCustomFilterVisibility.setEnabled customFilterControls true).Agrees
      features := by
    obtain ⟨values, hholding, hshown⟩ := hagrees
    exact ⟨values, hservice.symm ▸ hholding, hswitch.shown.symm ▸ hshown⟩
  obtain ⟨hnext, hsame⟩ := @Agrees.call device _ _ hchecked
    ⟨.setCustomFilterShape p.checkCustomFilterVisibility.service.getCustomFilterShape, answers⟩
    (fun _ h => nomatch h)
  have hnotSwitch : .quadDacSwitch ∉ customFilterControls := by decide
  obtain ⟨henabledSwitch, hcheckedSwitch, hshown, hvisible⟩ :=
    hswitch.trans (sameSwitch_setEnabled hnotSwitch true)
  refine ⟨⟨henabledSwitch, hcheckedSwitch, hshown, hvisible⟩, hnext, ?_, fun c hc => if_pos hc, ?_⟩
  · intro c hc
    exact (if_neg hc).trans (congrFun henabled c)
  · intro hfilter c hc
    have hreads := hagrees.reads (by decide) hfilter
    have hchosen := hsame .digitalFilter (by decide) hfilter
    have hvisibleFilter : p.checkCustomFilterVisibility.visible c = true ↔ p.FilterChosen := by
      rw [checkCustomFilterVisibility_eq hreads]
      exact visible_checked hreads hc
    refine hvisibleFilter.trans (Eq.congr_left ?_)
    exact (congrArg (·.getFeatureValue .digitalFilter) hservice).symm.trans hchosen.symm

theorem notMem_of_withDac {c : Control} (hc : c ∈ withDac features) : c ∉ customFilterControls := by
  rw [withDac] at hc
  split at hc <;> revert c <;> decide

theorem switch_notMem_withDac : .quadDacSwitch ∉ withDac features := by
  rw [withDac]
  split <;> decide

theorem setEnabled_append (first second : List Control) (enabled : Bool) :
    (p.setEnabled first enabled).setEnabled second enabled =
      p.setEnabled (first ++ second) enabled := by
  rw [setEnabled, setEnabled, setEnabled]
  congr
  funext c
  by_cases hfirst : c ∈ first
  · simp [hfirst]
  · simp [hfirst]

/-- All settings are disabled. -/
theorem disableExtraSettings_spec (hagrees : p.Agrees features) :
    SameSwitch p p.disableExtraSettings ∧ p.disableExtraSettings.Agrees features ∧
      p.disableExtraSettings.AllSet features false := by
  obtain ⟨hswitch, hnext, houtside, hinside, hvisible⟩ :=
    @disableCustomFilter_spec _ (p.setEnabled (extraSettings ++ [.soundPresetList]) false) hagrees
  refine ⟨(sameSwitch_setEnabled (by decide) false).trans hswitch, hnext,
    ⟨fun c hc => ?_, fun _ => hinside, fun hfeatures => hvisible hfeatures.1⟩⟩
  rw [disableExtraSettings, houtside c (notMem_of_withDac hc)]
  apply if_pos
  rw [withDac] at hc
  split at hc
  next => exact hc
  next =>
    rw [List.append_nil] at hc
    exact List.mem_append_left _ hc

@[simp] theorem service_disableExtraSettings : p.disableExtraSettings.service = p.service := by
  rw [disableExtraSettings, disableCustomFilter, checkCustomFilterVisibility]
  split <;> rfl

theorem enableExtraSettings_eq (answers : Answers) :
    p.enableExtraSettings device features answers =
      if features.contains .customFilter then
        (p.setEnabled (withDac features) true).enableCustomFilter device features answers
      else p.setEnabled (withDac features) true := by
  have hextra : (if features.contains .soundPreset then
        (p.setEnabled extraSettings true).setEnabled [.soundPresetList] true
      else p.setEnabled extraSettings true) = p.setEnabled (withDac features) true := by
    rw [withDac]
    split
    next => rw [setEnabled_append]
    next => rw [List.append_nil]
  rw [← hextra]
  rfl

/-- All settings are enabled that the device has. -/
theorem enableExtraSettings_spec (hagrees : p.Agrees features) (answers : Answers) :
    SameSwitch p (p.enableExtraSettings device features answers) ∧
      (p.enableExtraSettings device features answers).Agrees features ∧
      (p.enableExtraSettings device features answers).AllSet features true := by
  have hextra : SameSwitch p (p.setEnabled (withDac features) true) :=
    sameSwitch_setEnabled switch_notMem_withDac true
  rw [enableExtraSettings_eq]
  split
  next =>
    obtain ⟨hswitch, hnext, houtside, hinside, hvisible⟩ :=
      @enableCustomFilter_spec device _ (p.setEnabled (withDac features) true) hagrees answers
    refine ⟨hextra.trans hswitch, hnext,
      ⟨fun c hc => ?_, fun _ => hinside, fun hfeatures => hvisible hfeatures.1⟩⟩
    exact (houtside c (notMem_of_withDac hc)).trans (if_pos hc)
  next hcustom =>
    have hnone : ¬ HasCustomFilter features := by
      intro hfeatures
      exact hcustom (List.contains_iff_mem.mpr hfeatures.2)
    exact ⟨hextra, hagrees, ⟨fun c hc => if_pos hc, fun hfeatures => absurd hfeatures hnone,
      fun hfeatures => absurd hfeatures hnone⟩⟩

/-! What one event makes of the panel. -/

theorem Agrees.filterChosen_iff (h : p.Agrees features) (hfilter : .digitalFilter ∈ features) :
    p.FilterChosen ↔ p.shown .digitalFilter = 3 := by
  rw [FilterChosen, h.reads (by decide) hfilter, Option.some_inj]

/-- The panel is consistent as long as no control and no chosen filter changes. -/
theorem Consistent.of_same {q : PanelFragment} (h : p.Consistent features)
    (hp : p.Agrees features) (hq : q.Agrees features) (henabled : q.enabled = p.enabled)
    (hvisible : q.visible = p.visible) (hchecked : q.switchChecked = p.switchChecked)
    (hshown : q.shown .digitalFilter = p.shown .digitalFilter) : q.Consistent features := by
  have husable : q.usable = p.usable := by
    rw [PanelFragment.usable, PanelFragment.usable, henabled, hchecked]
  refine ⟨?_, fun f hf hsupported => hq.reads hf hsupported, ?_, fun hfeatures => ?_⟩
  · intro c hc
    rw [henabled, husable]
    exact h.extra c hc
  · rw [hvisible]
    exact h.offered
  · have hfilter := h.filter hfeatures
    have hchosen : q.FilterChosen ↔ p.FilterChosen := by
      rw [hq.filterChosen_iff hfeatures.1, hp.filterChosen_iff hfeatures.1, hshown]
    constructor
    · intro c hc
      rw [hvisible, hchosen]
      exact hfilter.visible c hc
    · intro c hc
      rw [henabled, husable]
      exact hfilter.usable c hc
    · intro hfilterChosen c hc
      rw [henabled, husable]
      exact hfilter.chosen (hchosen.mp hfilterChosen) c hc

/-- A value that is stored is also shown. -/
theorem Agrees.choose (h : p.Agrees features) {call : PanelCall} {g : Feature} {v : Int32}
    (hchosen : call.op.chosen = some (g, v))
    (hstores : stores device features call.answers g v = true) :
    ((p.call device features call).showing g v).Agrees features := by
  obtain ⟨values, hholding, hshown⟩ := h
  have hnext := hholding.next device call
  rw [getD_stored hchosen, if_pos hstores] at hnext
  refine ⟨_, hnext, fun f hf hsupported => ?_⟩
  by_cases hfg : f = g
  · subst hfg
    change Function.update p.shown f v f = Function.update values f v f
    rw [Function.update_self, Function.update_self]
  · calc
      Function.update p.shown g v f = p.shown f := Function.update_of_ne hfg ..
      _ = values f := hshown f hf hsupported
      _ = Function.update values g v f := (Function.update_of_ne hfg ..).symm

@[simp] theorem shown_showing (f : Feature) (v : Int32) : (p.showing f v).shown f = v :=
  Function.update_self ..

theorem showing_disableCustomFilter (f : Feature) (v : Int32) :
    p.disableCustomFilter.showing f v = (p.showing f v).disableCustomFilter := by
  rw [disableCustomFilter, disableCustomFilter, checkCustomFilterVisibility,
    checkCustomFilterVisibility]
  change showing f v (setEnabled _ _ (match p.service.getFeatureValue .digitalFilter with
    | none => p
    | some filter => _)) = setEnabled _ _ (match p.service.getFeatureValue .digitalFilter with
    | none => p.showing f v
    | some filter => _)
  cases p.service.getFeatureValue .digitalFilter with
  | none => rfl
  | some filter => rfl

theorem showing_enableCustomFilter (answers : Answers) (f : Feature) (v : Int32) :
    (p.enableCustomFilter device features answers).showing f v =
      (p.showing f v).enableCustomFilter device features answers := by
  have hservice : (p.showing f v).service = p.service := rfl
  simp only [enableCustomFilter, checkCustomFilterVisibility, hservice]
  cases p.service.getFeatureValue .digitalFilter with
  | none => rfl
  | some filter => rfl

theorem call_agrees_of_chosen_none (h : p.Agrees features) {call : PanelCall}
    (hcall : call.op.chosen = none) : (p.call device features call).Agrees features := by
  apply (h.call fun chosen hchosen => ?_).1
  rw [hcall] at hchosen
  cases hchosen

/-- No call to a service that is alive stops. -/
theorem Agrees.survives (h : p.Agrees features) (device : Device) (call : PanelCall) :
    stops (call.op.program device features) (p.service.withAnswers call.answers) = false := by
  obtain ⟨values, hholding, -⟩ := h
  exact hholding.survives call

/-- Where neither the switch nor the filter is moved. -/
theorem onPreferenceChange_eq (h : p.Agrees features) {call : PanelCall} (answers : Answers)
    (hop : call.op ≠ .enable ∧ call.op ≠ .disable ∧ ∀ filter, call.op ≠ .setDigitalFilter filter) :
    p.onPreferenceChange device features call answers =
      match call.op.chosen with
      | some (f, v) => (p.call device features call).showing f v
      | none => p.call device features call := by
  have hsurvives := h.survives device call
  obtain ⟨op, callAnswers⟩ := call
  rw [onPreferenceChange]
  cases op with
  | enable => exact absurd rfl hop.1
  | disable => exact absurd rfl hop.2.1
  | setDigitalFilter filter => exact absurd rfl (hop.2.2 filter)
  | _ => exact if_neg (Bool.eq_false_iff.mp hsurvives)

/-- What the panel is like between two events. -/
def Good (features : List Feature) (p : PanelFragment) : Prop :=
  p.Consistent features ∧ p.Agrees features

/-- What an event makes of the panel. -/
structure Follows (features : List Feature) (event : PanelEvent) (p q : PanelFragment) : Prop where
  good : q.Good features
  plugged : q.enabled .quadDacSwitch = event.plugged.getD (p.enabled .quadDacSwitch)
  switched : q.switchChecked = event.switched.getD p.switchChecked

/-- The switch is moved on. -/
theorem follows_enable (h : p.Good features) {call : PanelCall} (hop : call.op = .enable)
    (hcontrol : p.enabled .quadDacSwitch = true) (answers : Answers) :
    Follows features (.preferenceChange call answers) p
      (p.onPreferenceChange device features call answers) := by
  obtain ⟨hconsistent, hagrees⟩ := h
  obtain ⟨op, callAnswers⟩ := call
  subst hop
  have hcall := @call_agrees_of_chosen_none device _ _ hagrees ⟨.enable, callAnswers⟩ rfl
  obtain ⟨hswitch, hnext, hset⟩ := @enableExtraSettings_spec device _ _ hcall answers
  have hplugged := hswitch.enabled.trans hcontrol
  rw [onPreferenceChange]
  refine ⟨⟨(hset.moved true).consistent ?_ hnext fun c hc => ?_, hnext⟩, hswitch.enabled, rfl⟩
  · exact ((Bool.and_true _).trans hplugged).symm
  · exact (Eq.congr_left (hswitch.visible c hc)).trans (hconsistent.offered c hc)

/-- The switch is moved off. -/
theorem follows_disable (h : p.Good features) {call : PanelCall} (hop : call.op = .disable)
    (answers : Answers) :
    Follows features (.preferenceChange call answers) p
      (p.onPreferenceChange device features call answers) := by
  obtain ⟨hconsistent, hagrees⟩ := h
  have hsurvives := hagrees.survives device call
  obtain ⟨op, callAnswers⟩ := call
  subst hop
  have hcall := @call_agrees_of_chosen_none device _ _ hagrees ⟨.disable, callAnswers⟩ rfl
  obtain ⟨hswitch, hnext, hset⟩ := disableExtraSettings_spec hcall
  rw [onPreferenceChange]
  dsimp only
  rw [if_neg (Bool.eq_false_iff.mp hsurvives)]
  refine ⟨⟨(hset.moved false).consistent ?_ hnext fun c hc => ?_, hnext⟩, hswitch.enabled, rfl⟩
  · exact (Bool.and_false _).symm
  · exact (Eq.congr_left (hswitch.visible c hc)).trans (hconsistent.offered c hc)

/-- The controls of the custom filter follow the filter that is chosen. -/
theorem follows_setDigitalFilter (h : p.Good features) {call : PanelCall} {filter : Int32}
    (hop : call.op = .setDigitalFilter filter)
    (hcontrol : p.enabled .digitalFilterList = true)
    (hstores : stores device features call.answers .digitalFilter filter = true)
    (answers : Answers) : Follows features (.preferenceChange call answers) p
      (p.onPreferenceChange device features call answers) := by
  obtain ⟨hconsistent, hagrees⟩ := h
  have husable : p.usable = true := by
    rw [← hconsistent.extra .digitalFilterList (List.mem_append_left _ (by decide))]
    exact hcontrol
  have hsurvives := hagrees.survives device call
  obtain ⟨op, callAnswers⟩ := call
  subst hop
  have hchoose := @Agrees.choose device _ _ hagrees ⟨.setDigitalFilter filter, callAnswers⟩ _ _
    rfl hstores
  rw [onPreferenceChange]
  dsimp only
  rw [if_neg (Bool.eq_false_iff.mp hsurvives)]
  split
  next =>
    rw [showing_enableCustomFilter]
    obtain ⟨hswitch, hnext, houtside, hinside, hvisible⟩ :=
      @enableCustomFilter_spec device _ _ hchoose answers
    have hstill := hswitch.usable.trans husable
    refine ⟨⟨?_, hnext⟩, hswitch.enabled, hswitch.checked⟩
    refine ⟨fun c hc => ?_, fun f hf hsupported => hnext.reads hf hsupported, fun c hc => ?_,
      fun hfeatures => ⟨hvisible hfeatures.1, fun _ _ _ => hstill, fun _ c hc => ?_⟩⟩
    · rw [houtside c (notMem_of_withDac hc), hswitch.usable]
      exact hconsistent.extra c hc
    · exact (Eq.congr_left (hswitch.visible c hc)).trans (hconsistent.offered c hc)
    · exact (hinside c hc).trans hstill.symm
  next hcustom =>
    rw [showing_disableCustomFilter]
    obtain ⟨hswitch, hnext, houtside, hinside, hvisible⟩ :=
      disableCustomFilter_spec hchoose
    refine ⟨⟨?_, hnext⟩, hswitch.enabled, hswitch.checked⟩
    refine ⟨fun c hc => ?_, fun f hf hsupported => hnext.reads hf hsupported, fun c hc => ?_,
      fun hfeatures => ⟨hvisible hfeatures.1, fun c hc henabled => ?_, fun hchosen => ?_⟩⟩
    · rw [houtside c (notMem_of_withDac hc), hswitch.usable]
      exact hconsistent.extra c hc
    · exact (Eq.congr_left (hswitch.visible c hc)).trans (hconsistent.offered c hc)
    · rw [hinside c hc] at henabled
      cases henabled
    · rw [hnext.filterChosen_iff hfeatures.1, hswitch.shown, shown_showing] at hchosen
      subst hchosen
      exact absurd (List.contains_iff_mem.mpr hfeatures.2) (by simpa using hcustom)

/-- A setting is chosen that has nothing to do with the switch or the filter. -/
theorem follows_other (h : p.Good features) {call : PanelCall}
    (hop : call.op ≠ .enable ∧ call.op ≠ .disable ∧ ∀ filter, call.op ≠ .setDigitalFilter filter)
    (hstores : ∀ chosen ∈ call.op.chosen,
      stores device features call.answers chosen.1 chosen.2 = true) (answers : Answers) :
    Follows features (.preferenceChange call answers) p
      (p.onPreferenceChange device features call answers) := by
  obtain ⟨hconsistent, hagrees⟩ := h
  have hstay : (PanelEvent.preferenceChange call answers).switched = none := by
    obtain ⟨op, callAnswers⟩ := call
    cases op with
    | enable => exact absurd rfl hop.1
    | disable => exact absurd rfl hop.2.1
    | _ => rfl
  rw [onPreferenceChange_eq hagrees answers hop]
  cases hchosen : call.op.chosen with
  | none =>
      have hcall := @call_agrees_of_chosen_none device _ _ hagrees _ hchosen
      refine ⟨⟨hconsistent.of_same hagrees hcall rfl rfl rfl rfl, hcall⟩, rfl, ?_⟩
      rw [hstay]
      rfl
  | some chosen =>
      obtain ⟨f, v⟩ := chosen
      have hother : .digitalFilter ≠ f := by
        rintro rfl
        obtain ⟨op, callAnswers⟩ := call
        cases op <;> cases hchosen
        exact hop.2.2 v rfl
      have hchoose := hagrees.choose hchosen (hstores _ hchosen)
      refine ⟨⟨hconsistent.of_same hagrees hchoose rfl rfl rfl ?_, hchoose⟩, rfl, ?_⟩
      · exact Function.update_of_ne hother ..
      · rw [hstay]
        rfl

/-- While the switch is off, a headset enables nothing but the switch. -/
theorem Consistent.plug (h : p.Consistent features) (hchecked : p.switchChecked = false)
    (plugged : Bool) : (p.setEnabled [.quadDacSwitch] plugged).Consistent features := by
  have hunusable : p.usable = false := by
    rw [PanelFragment.usable, hchecked, Bool.and_false]
  have hstill : (p.setEnabled [.quadDacSwitch] plugged).usable = p.usable := by
    rw [hunusable, PanelFragment.usable]
    exact (congrArg _ hchecked).trans (Bool.and_false _)
  have hkept : ∀ c ≠ .quadDacSwitch,
      (p.setEnabled [.quadDacSwitch] plugged).enabled c = p.enabled c :=
    fun c hc => if_neg fun hmem => hc (List.mem_singleton.mp hmem)
  have hcustom : ∀ c ∈ customFilterControls, c ≠ .quadDacSwitch := by decide
  refine ⟨fun c hc => ?_, h.agrees, h.offered, fun hfeatures => ?_⟩
  · rw [hstill, hkept c fun heq => switch_notMem_withDac (heq ▸ hc)]
    exact h.extra c hc
  · have hfilter := h.filter hfeatures
    refine ⟨hfilter.visible, fun c hc => ?_, fun hchosen c hc => ?_⟩
    · rw [hstill, hkept c (hcustom c hc)]
      exact hfilter.usable c hc
    · rw [hstill, hkept c (hcustom c hc)]
      exact hfilter.chosen hchosen c hc

/-- A headset comes or goes. -/
theorem follows_headsetPlug (h : p.Good features) (state : Int32) (answers : Answers) :
    Follows features (.headsetPlug state answers) p
      (p.onReceive device features state answers) := by
  have hagrees : ∀ plugged, (p.setEnabled [.quadDacSwitch] plugged).Agrees features := fun _ => h.2
  have hplugged : ∀ plugged, (p.setEnabled [.quadDacSwitch] plugged).enabled .quadDacSwitch =
      plugged := fun _ => rfl
  rw [onReceive]
  split
  next hin =>
    subst hin
    dsimp only
    split
    next hchecked =>
      obtain ⟨hswitch, hnext, hset⟩ :=
        @enableExtraSettings_spec device _ _ (hagrees true) answers
      have husable : (p.setEnabled [.quadDacSwitch] true).usable = true := hchecked
      refine ⟨⟨hset.consistent (hswitch.usable.trans husable).symm hnext fun c hc => ?_, hnext⟩,
        hswitch.enabled, hswitch.checked⟩
      exact (Eq.congr_left (hswitch.visible c hc)).trans (h.1.offered c hc)
    next hchecked =>
      exact ⟨⟨h.1.plug (Bool.eq_false_iff.mpr hchecked) true, h.2⟩, rfl, rfl⟩
  next hin =>
    split
    next hout =>
      subst hout
      obtain ⟨hswitch, hnext, hset⟩ := disableExtraSettings_spec (hagrees false)
      have husable : (p.setEnabled [.quadDacSwitch] false).usable = false := rfl
      refine ⟨⟨hset.consistent (hswitch.usable.trans husable).symm hnext fun c hc => ?_, hnext⟩,
        hswitch.enabled, hswitch.checked⟩
      exact (Eq.congr_left (hswitch.visible c hc)).trans (h.1.offered c hc)
    next hout =>
      refine ⟨h, ?_, rfl⟩
      rw [PanelEvent.plugged, if_neg hin, if_neg hout, Option.getD_none]

/-- Every event leaves the panel in order, and the switch as the event says. -/
theorem Good.next (h : p.Good features) {event : PanelEvent}
    (hevent : p.Allowed device features event) :
    Follows features event p (p.next device features event) := by
  cases event with
  | preferenceChange call answers =>
      obtain ⟨hcontrol, hstores⟩ := hevent
      cases hop : call.op with
      | enable =>
          rw [hop] at hcontrol
          exact follows_enable h hop hcontrol answers
      | disable => exact follows_disable h hop answers
      | setDigitalFilter filter =>
          rw [hop] at hcontrol hstores
          exact follows_setDigitalFilter h hop hcontrol (hstores _ rfl) answers
      | _ =>
          apply follows_other h _ hstores
          rw [hop]
          exact ⟨nofun, nofun, nofun⟩
  | headsetPlug state answers => exact follows_headsetPlug h state answers
  | elsewhere call =>
      obtain ⟨hnext, -⟩ := h.2.call hevent
      exact ⟨⟨h.1.of_same h.2 hnext rfl rfl rfl rfl, hnext⟩, rfl, rfl⟩

/-! The start. -/

/-- What the control of a feature makes of a value. -/
def entryOf : Feature → Int32 → Option Int32
  | .soundPreset => listEntry 5
  | .digitalFilter => listEntry 4
  | .avcVolume => seekBar DacState.getAvcVolumeStates.range
  | .hifiMode => listEntry 3
  | _ => some

/-- The values of some features are shown, some controls are there if the device has something for
them, and nothing else has changed but the settings of the custom filter. -/
structure Loaded (features : List Feature) (values : Feature → Int32) (p : PanelFragment)
    (done : List Feature) (controls : List Control) (q : PanelFragment) : Prop where
  service : q.service = p.service
  checked : q.switchChecked = p.switchChecked
  shown : ∀ f ∈ done, f ∈ features → q.shown f = values f
  visible : ∀ c ∉ customFilterSettings,
    q.visible c = true ↔ p.visible c = true ∨ c ∈ controls ∧ Offered features c

/-- A control becomes visible if the device has something for it. -/
theorem Loaded.offer {done : List Feature} {controls : List Control} {q : PanelFragment}
    (h : Loaded features values p done controls q) (condition : Prop) [Decidable condition]
    (c : Control) (hc : Offered features c ↔ condition) :
    Loaded features values p done (c :: controls)
      (if condition then q.setVisible [c] true else q) := by
  have hkept : ∀ other, other ≠ c → (q.setVisible [c] true).visible other = q.visible other :=
    fun other hother => if_neg fun hmem => hother (List.mem_singleton.mp hmem)
  split
  next hcondition =>
    refine ⟨h.service, h.checked, h.shown, fun other hother => ?_⟩
    by_cases heq : other = c
    · subst heq
      exact iff_of_true (if_pos (List.mem_singleton.mpr rfl))
        (.inr ⟨List.mem_cons_self, hc.mpr hcondition⟩)
    · rw [hkept other heq, h.visible other hother, List.mem_cons, or_iff_right heq]
  next hcondition =>
    refine ⟨h.service, h.checked, h.shown, fun other hother => ?_⟩
    by_cases heq : other = c
    · subst heq
      have hnot : ¬ Offered features other := fun hoffered => hcondition (hc.mp hoffered)
      simp only [h.visible other hother, hnot, and_false]
    · rw [h.visible other hother, List.mem_cons, or_iff_right heq]

/-- The control of a feature becomes visible and shows its value. -/
theorem Loaded.load {done : List Feature} {controls : List Control} {q : PanelFragment}
    (h : Loaded features values p done controls q) (hholding : Holding features values p.service)
    (f : Feature) (c : Control) (hc : Offered features c ↔ f ∈ features)
    {entry : Int32 → Option Int32} (hentry : f ∈ features → entry (values f) = some (values f)) :
    Ends (load features f c entry) q
      (fun _ => Loaded features values p (f :: done) (c :: controls)) fun _ _ => False := by
  obtain ⟨hservice, hchecked, hshown, hvisible⟩ := h.offer (f ∈ features) c hc
  rw [Ends, PanelFragment.load]
  by_cases hf : f ∈ features
  · have hreads : (q.setVisible [c] true).service.getFeatureValue f = some (values f) := by
      rw [← hholding.reads f hf, ← h.service]
      rfl
    rw [if_pos hf] at hservice hchecked hshown hvisible ⊢
    dsimp only
    rw [hreads, Option.bind_some, hentry hf]
    refine ⟨hservice, hchecked, fun g hg hsupported => ?_, hvisible⟩
    by_cases hgf : g = f
    · subst hgf
      exact shown_showing ..
    · have hdone : g ∈ done := (List.mem_cons.mp hg).resolve_left hgf
      exact (Function.update_of_ne hgf ..).trans (hshown g hdone hsupported)
  · rw [if_neg hf] at hservice hchecked hshown hvisible ⊢
    refine ⟨hservice, hchecked, fun g hg hsupported => ?_, hvisible⟩
    refine hshown g ((List.mem_cons.mp hg).resolve_left ?_) hsupported
    rintro rfl
    exact hf hsupported

/-- Where the controls have the values of the service, all features are loaded. -/
theorem loadFeatures_loaded (hholding : Holding features values p.service)
    (hentries : ∀ f ∈ shownFeatures, f ∈ features → entryOf f (values f) = some (values f)) :
    Loaded features values p shownFeatures
      (.quadDacSwitch :: .soundPresetList :: extraSettings) (final (loadFeatures features) p) := by
  have hends : Ends (loadFeatures features) p
      (fun _ => Loaded features values p [.hifiMode, .avcVolume, .digitalFilter, .soundPreset]
        [.modeList, .avcVolume, .balancePreference, .digitalFilterList, .soundPresetList,
          .quadDacSwitch])
      fun _ _ => False := by
    rw [loadFeatures, ends_bind, ends_modify]
    -- Each stage adds its feature and its control to those that are done, in the order of the
    -- source.
    have hstart : Loaded features values p [] [] p :=
      ⟨rfl, rfl, fun _ hf => (nomatch hf), fun _ _ => by simp⟩
    have hswitch := hstart.offer (.quadDac ∈ features) .quadDacSwitch Iff.rfl
    apply Ends.bind (hswitch.load hholding .soundPreset .soundPresetList Iff.rfl
      (hentries .soundPreset (by decide)))
    intro _ q hq
    apply Ends.bind (hq.load hholding .digitalFilter .digitalFilterList Iff.rfl
      (hentries .digitalFilter (by decide)))
    intro _ q hq
    rw [ends_bind, ends_modify]
    have hbalance := hq.offer (.balanceLeft ∈ features ∧ .balanceRight ∈ features)
      .balancePreference Iff.rfl
    apply Ends.bind (hbalance.load hholding .avcVolume .avcVolume Iff.rfl
      (hentries .avcVolume (by decide)))
    intro _ q hq
    apply Ends.bind (hq.load hholding .hifiMode .modeList Iff.rfl
      (hentries .hifiMode (by decide)))
    intro _ q hq
    rw [ends_modify]
    split
    next =>
      refine ⟨hq.service, hq.checked, hq.shown, fun c hc => ?_⟩
      exact (Eq.congr_left (if_neg hc)).trans (hq.visible c hc)
    next => exact hq
  have hloaded := (hends.mono (fun _ _ h => h) fun _ _ h => h.elim).holds
  refine ⟨hloaded.service, hloaded.checked, fun f hf => hloaded.shown f ?_, fun c hc => ?_⟩
  · revert f
    decide
  · rw [hloaded.visible c hc]
    cases c <;> simp [extraSettings]

/-- The switch starts as the DAC is, or where no headset is plugged in as it was kept. -/
theorem loadSwitch_good (hagrees : p.Agrees features)
    (hoffered : ∀ c ∉ customFilterSettings, p.visible c = true ↔ Offered features c)
    (isWiredHeadsetOn : Bool) (answers : Answers) :
    (p.loadSwitch device features isWiredHeadsetOn answers).Good features ∧
      (p.loadSwitch device features isWiredHeadsetOn answers).enabled .quadDacSwitch =
        isWiredHeadsetOn ∧
      (p.loadSwitch device features isWiredHeadsetOn answers).switchChecked =
        (p.service.getHifiDacState device || (!isWiredHeadsetOn && p.switchChecked)) := by
  have hservice : ∀ plugged,
      (p.setEnabled [.quadDacSwitch] plugged).service.getHifiDacState device =
        p.service.getHifiDacState device := fun _ => rfl
  rw [loadSwitch]
  -- With a headset the switch takes the state of the DAC before the settings are enabled or
  -- disabled. Without one it is only ever moved on, after all of them have been disabled.
  cases isWiredHeadsetOn with
  | true =>
      rw [if_pos rfl]
      dsimp only
      rw [hservice]
      cases p.service.getHifiDacState device with
      | true =>
          obtain ⟨hswitch, hnext, hset⟩ := @enableExtraSettings_spec device _
            { p.setEnabled [.quadDacSwitch] true with switchChecked := true } hagrees answers
          refine ⟨⟨hset.consistent hswitch.usable.symm hnext fun c hc => ?_, hnext⟩,
            hswitch.enabled, hswitch.checked⟩
          exact (Eq.congr_left (hswitch.visible c hc)).trans (hoffered c hc)
      | false =>
          obtain ⟨hswitch, hnext, hset⟩ := @disableExtraSettings_spec _
            { p.setEnabled [.quadDacSwitch] true with switchChecked := false } hagrees
          refine ⟨⟨hset.consistent hswitch.usable.symm hnext fun c hc => ?_, hnext⟩,
            hswitch.enabled, hswitch.checked⟩
          exact (Eq.congr_left (hswitch.visible c hc)).trans (hoffered c hc)
  | false =>
      obtain ⟨hswitch, hnext, hset⟩ := @disableExtraSettings_spec _
        (p.setEnabled [.quadDacSwitch] false) hagrees
      have hvisible : ∀ c ∉ customFilterSettings,
          (p.setEnabled [.quadDacSwitch] false).disableExtraSettings.visible c = true ↔
            Offered features c :=
        fun c hc => (Eq.congr_left (hswitch.visible c hc)).trans (hoffered c hc)
      rw [if_neg Bool.false_ne_true]
      dsimp only
      have hstate : DacState.getHifiDacState
          (p.setEnabled [.quadDacSwitch] false).disableExtraSettings.service device =
            p.service.getHifiDacState device :=
        congrArg (·.getHifiDacState device) service_disableExtraSettings
      rw [hstate]
      cases p.service.getHifiDacState device with
      | true =>
          rw [if_pos rfl]
          refine ⟨⟨(hset.moved true).consistent ?_ hnext hvisible, hnext⟩, hswitch.enabled, rfl⟩
          exact ((congrArg (· && true) hswitch.enabled).trans (Bool.false_and _)).symm
      | false =>
          rw [if_neg Bool.false_ne_true]
          exact ⟨⟨hset.consistent hswitch.usable.symm hnext hvisible, hnext⟩, hswitch.enabled,
            hswitch.checked⟩

/-- The panel on a service, with what the preferences have kept. -/
def create (device : Device) (service : DacState) (isWiredHeadsetOn switchChecked : Bool)
    (shown : Feature → Int32) (answers : Answers) : PanelFragment :=
  (resource service switchChecked shown).addPreferencesFromResource device
    service.mSupportedFeatures isWiredHeadsetOn answers

/-- The panel is in order once it is created. -/
theorem create_good {service : DacState}
    (hholding : Holding service.mSupportedFeatures values service)
    (hentries : ∀ f ∈ shownFeatures, f ∈ service.mSupportedFeatures →
      entryOf f (values f) = some (values f))
    (isWiredHeadsetOn switchChecked : Bool) (shown : Feature → Int32) (answers : Answers) :
    (create device service isWiredHeadsetOn switchChecked shown answers).Good
        service.mSupportedFeatures ∧
      (create device service isWiredHeadsetOn switchChecked shown answers).enabled
        .quadDacSwitch = isWiredHeadsetOn ∧
      (create device service isWiredHeadsetOn switchChecked shown answers).switchChecked =
        (service.getHifiDacState device || (!isWiredHeadsetOn && switchChecked)) := by
  have hloaded := @loadFeatures_loaded _ _ (resource service switchChecked shown) hholding hentries
  have hagrees : (final (loadFeatures service.mSupportedFeatures)
      (resource service switchChecked shown)).Agrees service.mSupportedFeatures :=
    ⟨values, hloaded.service.symm ▸ hholding, hloaded.shown⟩
  have hoffered : ∀ c ∉ customFilterSettings,
      (final (loadFeatures service.mSupportedFeatures)
        (resource service switchChecked shown)).visible c = true ↔
          Offered service.mSupportedFeatures c := by
    intro c hc
    rw [hloaded.visible c hc]
    cases c with
    | customFilterShape | customFilterSymmetry | customFilterCoeffs => exact absurd (by decide) hc
    | customFilterResetCoeffsButton => exact iff_of_true (.inl rfl) trivial
    | _ => simp [resource, extraSettings, customFilterControls, customFilterSettings]
  have hswitch := @loadSwitch_good device _ _ hagrees hoffered isWiredHeadsetOn answers
  rw [hloaded.service, hloaded.checked] at hswitch
  exact hswitch

/-- From its creation on a service whose values its lists have, as long as only enabled controls are
used and the service stores what is chosen, the panel offers its settings exactly while a headset is
plugged in and the switch is on, shows the settings of a custom filter exactly while it is chosen,
and shows the values that the service has. The switch can be used while the last headset event was a
plug, and is where it was moved last. -/
theorem panel_consistent (device : Device) {service : DacState}
    (haudio : service.usedVersion.isSome = true ∧ service.mAudioDevice = true)
    {values : Feature → Int32}
    (hreads : ∀ f ∈ service.mSupportedFeatures, service.getFeatureValue f = some (values f))
    (hentries : ∀ f ∈ shownFeatures, f ∈ service.mSupportedFeatures →
      entryOf f (values f) = some (values f))
    (isWiredHeadsetOn switchChecked : Bool) (shown : Feature → Int32) (answers : Answers)
    {events : List PanelEvent}
    (hevents : Admits (next device service.mSupportedFeatures)
      (Allowed device service.mSupportedFeatures)
      (create device service isWiredHeadsetOn switchChecked shown answers) events) :
    Throughout (next device service.mSupportedFeatures) (Consistent service.mSupportedFeatures)
        (create device service isWiredHeadsetOn switchChecked shown answers) events ∧
      (run (next device service.mSupportedFeatures)
          (create device service isWiredHeadsetOn switchChecked shown answers)
          events).enabled .quadDacSwitch =
        latest PanelEvent.plugged isWiredHeadsetOn events ∧
      (run (next device service.mSupportedFeatures)
          (create device service isWiredHeadsetOn switchChecked shown answers)
          events).switchChecked =
        latest PanelEvent.switched
          (service.getHifiDacState device || (!isWiredHeadsetOn && switchChecked)) events := by
  have hfollows : ∀ p event, Good service.mSupportedFeatures p →
      p.Allowed device service.mSupportedFeatures event →
      Follows service.mSupportedFeatures event p
        (p.next device service.mSupportedFeatures event) :=
    fun p event hp hevent => hp.next hevent
  obtain ⟨hgood, hplugged, hchecked⟩ := @create_good device _ service ⟨rfl, haudio, hreads⟩
    hentries isWiredHeadsetOn switchChecked shown answers
  have hkept : ∀ p event, Good service.mSupportedFeatures p →
      p.Allowed device service.mSupportedFeatures event →
      Good service.mSupportedFeatures (p.next device service.mSupportedFeatures event) :=
    fun p event hp hevent => (hfollows p event hp hevent).good
  refine ⟨hevents.throughout _ hkept (fun p hp => hp.1) hgood, ?_, ?_⟩
  · have hview := @Admits.view_run _ _ _ _ _ _ PanelEvent.plugged (·.enabled .quadDacSwitch) hkept
      (fun p event hp hevent => (hfollows p event hp hevent).plugged) _ hgood _ hevents
    exact hview.trans (congrArg (latest _ · _) hplugged)
  · have hview := @Admits.view_run _ _ _ _ _ _ PanelEvent.switched (·.switchChecked) hkept
      (fun p event hp hevent => (hfollows p event hp hevent).switched) _ hgood _ hevents
    exact hview.trans (congrArg (latest _ · _) hchecked)

/-- A headset is plugged in, the DAC is switched on, and the custom filter is chosen before the
headset is gone for a while. -/
def customChosen : List PanelEvent :=
  [.headsetPlug 1 {}, .preferenceChange ⟨.enable, {}⟩ {},
    .preferenceChange ⟨.setDigitalFilter 3, {}⟩ {}, .headsetPlug 0 {}, .elsewhere ⟨.disable, {}⟩,
    .headsetPlug 1 {}]

theorem panel_consistent_customChosen :
    Throughout (next {} firstService.mSupportedFeatures)
        (Consistent firstService.mSupportedFeatures)
        (create {} firstService false false (fun _ => 0) {}) customChosen ∧
      (run (next {} firstService.mSupportedFeatures)
          (create {} firstService false false (fun _ => 0) {})
          customChosen).enabled .quadDacSwitch =
        latest PanelEvent.plugged false customChosen ∧
      (run (next {} firstService.mSupportedFeatures)
          (create {} firstService false false (fun _ => 0) {}) customChosen).switchChecked =
        latest PanelEvent.switched (firstService.getHifiDacState {} || (!false && false))
          customChosen :=
  @panel_consistent {} firstService (by decide +kernel)
    (fun f => (firstService.getFeatureValue f).getD 0) firstService_reads (by decide +kernel)
    false false (fun _ => 0) {} customChosen (by decide +kernel)

end PanelFragment

end LgeHardware.Dac
