import LgeHardware.Dac.DacControl

/-! # The settings with a node of their own

Five features have a value that the kernel driver takes from a node. Each has its own
node, property, default and encoding, picked by separate switches for writing and for
reading. The table here brings the switches together.
-/

namespace LgeHardware.Dac

open LgeHardware.Foundation

/-! ## The table -/

structure Setting where
  path : String
  property : String
  default : Int32
  encode : Int32 → Option String

/-- What the node gets for a value; `none` where the value is refused. -/
def Feature.setting : Feature → Option Setting
  | .digitalFilter =>
      some ⟨essFilterPath, propertyDigitalFilter, 0, fun v => (filterCode v).map toStr⟩
  | .balanceLeft => some ⟨volumeLeftPath, propertyLeftBalance, 0, fun v => some (toStr v)⟩
  | .balanceRight => some ⟨volumeRightPath, propertyRightBalance, 0, fun v => some (toStr v)⟩
  | .avcVolume =>
      some ⟨avcPath, propertyHifiDacAvcVolume, avcVolumeDefault, fun v => some (toStr ((-1) * v))⟩
  | .hifiMode => some ⟨hifiPath, propertyHifiDacMode, hifiModeDefault, fun v => some (toStr v)⟩
  | _ => none

/-- The property that a feature is read from, with the default. -/
def Feature.source : Feature → Option (String × Int32)
  | .digitalFilter => some (propertyDigitalFilter, 0)
  | .soundPreset => some (propertySoundPreset, 0)
  | .balanceLeft => some (propertyLeftBalance, 0)
  | .balanceRight => some (propertyRightBalance, 0)
  | .avcVolume => some (propertyHifiDacAvcVolume, avcVolumeDefault)
  | .hifiMode => some (propertyHifiDacMode, hifiModeDefault)
  | _ => none

variable {f g : Feature} {k l : Setting}

theorem Feature.source_of_setting (hf : f.setting = some k) :
    f.source = some (k.property, k.default) := by
  cases f <;> cases hf <;> rfl

/-- No two features share a property. -/
theorem Feature.source_injective {property : String} {default default' : Int32}
    (hf : f.source = some (property, default)) (hg : g.source = some (property, default')) :
    f = g := by
  have hnames : ∀ f g : Feature, f.source.map Prod.fst = g.source.map Prod.fst →
      f.source.isSome = true → f = g := by
    intro f g
    cases f <;> cases g <;> decide +kernel
  apply hnames f g
  · rw [hf, hg]
    rfl
  · rw [hf]
    rfl

/-- No two features share a node. -/
theorem Feature.path_injective (hf : f.setting = some k) (hg : g.setting = some l)
    (hpath : k.path = l.path) : f = g := by
  have hnames : ∀ f g : Feature, f.setting.map Setting.path = g.setting.map Setting.path →
      f.setting.isSome = true → f = g := by
    intro f g
    cases f <;> cases g <;> decide +kernel
  apply hnames f g
  · rw [hf, hg, Option.map_some, Option.map_some, hpath]
  · rw [hf]
    rfl

/-- The value that a number of the driver stands for. -/
def filterOfCode (code : Int32) : Int32 :=
  if code = 9 then 0 else if code = 4 then 1 else if code = 5 then 2 else 3

/-- The code of a filter is read as the filter. -/
theorem filterOfCode_of_filterCode {v code : Int32} (h : filterCode v = some code) :
    filterOfCode code = v := by
  rw [filterCode] at h
  split_ifs at h with h0 h1 h2 h3
  · rw [← Option.some_inj.mp h, h0]
    rfl
  · rw [← Option.some_inj.mp h, h1]
    rfl
  · rw [← Option.some_inj.mp h, h2]
    rfl
  · rw [← Option.some_inj.mp h, h3]
    rfl

/-- No two filters have one code. -/
theorem filterCode_injective {v w code : Int32} (hv : filterCode v = some code)
    (hw : filterCode w = some code) : v = w :=
  (filterOfCode_of_filterCode hv).symm.trans (filterOfCode_of_filterCode hw)

/-- A node text stands for one value only. -/
theorem Feature.encode_injective (hf : f.setting = some k) {v w : Int32} {text : String}
    (hv : k.encode v = some text) (hw : k.encode w = some text) : v = w := by
  cases f with
  | digitalFilter =>
      cases hf
      obtain ⟨code, hcode, htext⟩ := Option.map_eq_some_iff.mp hv
      obtain ⟨code', hcode', htext'⟩ := Option.map_eq_some_iff.mp hw
      have hsame : code = code' := toStr_injective (htext.trans htext'.symm)
      rw [← hsame] at hcode'
      exact filterCode_injective hcode hcode'
  | avcVolume =>
      cases hf
      have hsame := toStr_injective (Option.some_inj.mp (hv.trans hw.symm))
      rw [Int32.neg_mul, Int32.neg_mul, Int32.one_mul, Int32.one_mul] at hsame
      exact Int32.neg_inj.mp hsame
  | balanceLeft | balanceRight | hifiMode =>
      cases hf
      exact toStr_injective (Option.some_inj.mp (hv.trans hw.symm))
  | quadDac | soundPreset | customFilter => cases hf

/-! ## Reading -/

/-- A feature reads as its property, or as its default where there is none. -/
theorem DacState.getFeatureValue_eq (s : DacState) (f : Feature) :
    s.getFeatureValue f =
      if f ∉ s.mSupportedFeatures then some (-1)
      else
        match f.source with
        | some (property, default) => stoi (s.propertyGet property (toStr default))
        | none => some 0 := by
  cases f <;> rfl

/-- Features read the same where the supported features and the properties are the same. -/
theorem DacState.getFeatureValue_congr {s s' : DacState}
    (hfeatures : s'.mSupportedFeatures = s.mSupportedFeatures)
    (hget : ∀ property default, f.source = some (property, default) →
      s'.propertyGet property (toStr default) = s.propertyGet property (toStr default)) :
    s'.getFeatureValue f = s.getFeatureValue f := by
  rw [getFeatureValue_eq, getFeatureValue_eq, hfeatures]
  split
  next => rfl
  next =>
    cases hsource : f.source with
    | none => rfl
    | some source =>
        obtain ⟨property, default⟩ := source
        dsimp only
        rw [hget property default hsource]

/-- A stored value is what its feature reads as, and no other feature. -/
theorem DacState.getFeatureValue_afterPropertySet (s : DacState)
    {property : String} {default : Int32} (hf : f.source = some (property, default))
    (hsupported : f ∈ s.mSupportedFeatures) (v : Int32) (g : Feature) :
    (s.afterPropertySet property (toStr v)).getFeatureValue g =
      if s.answers.propertySets.headD true = true ∧ f = g then some v
      else s.getFeatureValue g := by
  by_cases hg : s.answers.propertySets.headD true = true ∧ f = g
  · obtain ⟨hok, rfl⟩ := hg
    have hstill : ¬f ∉ (s.afterPropertySet property (toStr v)).mSupportedFeatures :=
      fun hnot => hnot hsupported
    rw [if_pos ⟨hok, rfl⟩, getFeatureValue_eq, if_neg hstill, hf]
    dsimp only
    rw [propertyGet_afterPropertySet _ (toStr_ne_empty v), if_pos ⟨hok, rfl⟩, stoi_toStr]
  · rw [if_neg hg]
    apply getFeatureValue_congr
    · rfl
    · intro other default' hother
      rw [propertyGet_afterPropertySet _ (toStr_ne_empty v), if_neg]
      rintro ⟨hok, rfl⟩
      exact hg ⟨hok, Feature.source_injective hf hother⟩

/-! ## Writing -/

/-- A feature that the device lacks is refused, and nothing changes. -/
theorem setFeatureValue_of_notMem (device : Device) {s : DacState}
    (hf : f ∉ s.mSupportedFeatures) (v : Int32) : setFeatureValue device f v s = .ok false s := by
  change (if f ∉ s.mSupportedFeatures then (return false : DacM Bool) else _) s = _
  rw [if_pos hf]
  rfl

section

variable (device : Device) {s : DacState} (v : Int32)

/-- In the build that has them, a sound preset is stored once the audio HAL has taken it. -/
theorem setSoundPreset_eq (hproprietary : device.proprietaryAudioModule = true)
    (haudio : s.usedVersion.isSome = true ∧ s.mAudioDevice = true) :
    setSoundPreset device v s =
      if s.answers.setParameters.headD true = true then
        .ok true ((s.afterSetParameters ⟨"SOUND_PRESET", toStr v⟩).afterPropertySet
          propertySoundPreset (toStr v))
      else .ok false (s.afterSetParameters ⟨"SOUND_PRESET", toStr v⟩) := by
  have hcall : setAudioHALParameters ⟨"SOUND_PRESET", toStr v⟩ s =
      .ok (s.answers.setParameters.headD true)
        (s.afterSetParameters ⟨"SOUND_PRESET", toStr v⟩) := by
    rw [setAudioHALParameters, if_pos haudio]
  rw [setSoundPreset, if_pos hproprietary]
  change EStateM.bind _ _ s = _
  rw [EStateM.bind, hcall]
  cases s.answers.setParameters.headD true with
  | true => rfl
  | false => rfl

theorem setFeatureValue_soundPreset (hsupported : Feature.soundPreset ∈ s.mSupportedFeatures) :
    setFeatureValue device .soundPreset v s = setSoundPreset device v s := by
  have hguard : ¬Feature.soundPreset ∉ s.mSupportedFeatures := fun hnot => hnot hsupported
  change (if Feature.soundPreset ∉ s.mSupportedFeatures then
    (return false : DacM Bool) else _) s = _
  rw [if_neg hguard]

/-- The other features without a node of their own are never set. -/
theorem setFeatureValue_of_setting_eq_none (hf : f.setting = none) (hne : f ≠ .soundPreset) :
    setFeatureValue device f v s = .ok false s := by
  by_cases hsupported : f ∈ s.mSupportedFeatures
  · have hguard : ¬f ∉ s.mSupportedFeatures := fun hnot => hnot hsupported
    change (if f ∉ s.mSupportedFeatures then (return false : DacM Bool) else _) s = _
    rw [if_neg hguard]
    cases f with
    | quadDac | customFilter => rfl
    | soundPreset => exact absurd rfl hne
    | digitalFilter | balanceLeft | balanceRight | hifiMode | avcVolume => cases hf
  · exact setFeatureValue_of_notMem device hsupported v

/-- Setting a feature writes its node and its property, or refuses the value. -/
theorem setFeatureValue_setting (hf : f.setting = some k)
    (hsupported : f ∈ s.mSupportedFeatures) :
    setFeatureValue device f v s =
      match k.encode v with
      | some text =>
          .ok (s.answers.propertySets.headD true && s.answers.sets.headD true)
            ((s.afterSet k.path text).afterPropertySet k.property (toStr v))
      | none => .ok false s := by
  have hguard : ¬f ∉ s.mSupportedFeatures := fun hnot => hnot hsupported
  change (if f ∉ s.mSupportedFeatures then (return false : DacM Bool) else _) s = _
  rw [if_neg hguard]
  cases f with
  | digitalFilter =>
      cases hf
      change setDigitalFilterState v s = _
      rw [setDigitalFilterState]
      dsimp only
      cases filterCode v with
      | none => rfl
      | some code => rfl
  | balanceLeft | balanceRight | hifiMode | avcVolume =>
      cases hf
      rfl
  | quadDac | soundPreset | customFilter => cases hf

end

end LgeHardware.Dac
