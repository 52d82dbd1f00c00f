import Mathlib.Logic.Function.Basic
import LgeHardware.Dac.Restore
import LgeHardware.Foundation.Run

/-! # Settings across restarts

What the service is for, as far as the settings with a node are concerned, is a table of
values: setting a feature changes its entry and a restart changes nothing. The service
keeps this table in the properties, and keeps the nodes in line with it.
-/

namespace LgeHardware.Dac

open LgeHardware.Foundation

/-! ## The table of values -/

def Feature.defaultValue (f : Feature) : Int32 := (f.source.map Prod.snd).getD 0

/-- The properties hold the values, and so do the nodes of all features that are listed, but
for one feature whose node is still to be written. -/
structure Settled (values : Feature → Int32) (pending : Option Feature) (s : DacState) : Prop where
  reads : ∀ f p default, f.source = some (p, default) →
    stoi (s.propertyGet p (toStr default)) = some (values f)
  applied : ∀ f ∈ s.mSupportedFeatures, pending ≠ some f → ∀ k, f.setting = some k →
    s.lastWritten k.path = k.encode (values f)
  encodable : ∀ (f : Feature) (k : Setting), f.setting = some k →
    (k.encode (values f)).isSome = true
  audio : s.mSupportedFeatures ≠ [] → s.usedVersion.isSome = true ∧ s.mAudioDevice = true
  sets : s.answers.sets = []
  propertySets : s.answers.propertySets = []

variable {values : Feature → Int32} {pending : Option Feature} {s s' : DacState}

theorem Settled.weaken (h : Settled values none s) (f : Feature) : Settled values (some f) s where
  reads := h.reads
  applied g hg _ := h.applied g hg nofun
  encodable := h.encodable
  audio := h.audio
  sets := h.sets
  propertySets := h.propertySets

/-- A settled service reads the values. -/
theorem Settled.getFeatureValue {f : Feature} {p : String} {default : Int32}
    (h : Settled values pending s) (hf : f.source = some (p, default))
    (hsupported : f ∈ s.mSupportedFeatures) : s.getFeatureValue f = some (values f) := by
  rw [DacState.getFeatureValue_eq, if_neg (fun hnot => hnot hsupported), hf]
  exact h.reads f p default hf

theorem Settled.setSucceeds (h : Settled values pending s) :
    s.answers.sets.headD true = true := by
  rw [h.sets]
  rfl

theorem Settled.propertySetSucceeds (h : Settled values pending s) :
    s.answers.propertySets.headD true = true := by
  rw [h.propertySets]
  rfl

/-- Whatever keeps to the area of the custom filter keeps the settings. -/
theorem Settled.step (h : Settled values pending s) (hstep : Step CustomPath CustomProperty s s') :
    Settled values pending s' where
  reads f p default hf := by
    rw [hstep.frame.propertyGet (not_customProperty_of_source hf)]
    exact h.reads f p default hf
  applied f hf hne k hk := by
    rw [hstep.frame.written (not_customPath_of_featurePath ⟨k, hk, rfl⟩)]
    rw [hstep.same.features] at hf
    exact h.applied f hf hne k hk
  encodable := h.encodable
  audio hne := by
    rw [hstep.same.version, hstep.same.audio]
    rw [hstep.same.features] at hne
    exact h.audio hne
  sets := hstep.frame.sets h.sets
  propertySets := hstep.frame.propertySets h.propertySets

/-! ## Setting a feature -/

/-- A stored value is the one that is read from then on. -/
theorem Settled.reads_afterPropertySet (h : Settled values pending s) {f : Feature} {p : String}
    {default : Int32} (hf : f.source = some (p, default)) (v : Int32) :
    ∀ g q default', g.source = some (q, default') →
      stoi ((s.afterPropertySet p (toStr v)).propertyGet q (toStr default')) =
        some (Function.update values f v g) := by
  intro g q default' hg
  rw [DacState.propertyGet_afterPropertySet _ (toStr_ne_empty v)]
  by_cases hgf : g = f
  · subst hgf
    rw [hf] at hg
    cases hg
    rw [if_pos ⟨h.propertySetSucceeds, rfl⟩, Function.update_self, stoi_toStr]
  · have hne : p ≠ q := by
      rintro rfl
      exact hgf (Feature.source_injective hg hf)
    rw [if_neg (fun heq => hne heq.2), Function.update_of_ne hgf]
    exact h.reads g q default' hg

/-- A setting takes a value that can be encoded, and no other changes. -/
theorem Settled.setFeatureValue_setting {f : Feature} (h : Settled values (some f) s)
    (device : Device) {k : Setting} (hf : f.setting = some k)
    (hsupported : f ∈ s.mSupportedFeatures) {v : Int32} (hencodes : (k.encode v).isSome = true) :
    Ends (setFeatureValue device f v) s
      (fun accepted s' => accepted = true ∧ Settled (Function.update values f v) none s' ∧
        SameService s s')
      fun _ _ => False := by
  obtain ⟨text, htext⟩ := Option.isSome_iff_exists.mp hencodes
  rw [Ends, Dac.setFeatureValue_setting device v hf hsupported, htext]
  refine ⟨?_, ⟨?_, ?_, ?_, h.audio, ?_, ?_⟩, rfl, rfl, rfl, rfl⟩
  · rw [h.setSucceeds, h.propertySetSucceeds]
    rfl
  · exact h.reads_afterPropertySet (Feature.source_of_setting hf) v
  · intro g hg _ l hl
    rw [DacState.lastWritten_afterPropertySet, DacState.lastWritten_afterSet]
    by_cases hgf : g = f
    · subst hgf
      rw [hf] at hl
      cases hl
      rw [if_pos ⟨h.setSucceeds, rfl⟩, Function.update_self, htext]
    · rw [if_neg (fun heq => hgf (Feature.path_injective hl hf heq.2.symm)),
        Function.update_of_ne hgf]
      exact h.applied g hg (fun heq => hgf (Option.some_inj.mp heq).symm) l hl
  · intro g l hl
    by_cases hgf : g = f
    · subst hgf
      rw [hf] at hl
      cases hl
      rw [Function.update_self]
      exact hencodes
    · rw [Function.update_of_ne hgf]
      exact h.encodable g l hl
  · change s.answers.sets.tail = []
    rw [h.sets]
    rfl
  · change s.answers.propertySets.tail = []
    rw [h.propertySets]
    rfl

theorem Settled.afterSoundPreset (h : Settled values none s) (v : Int32) :
    Settled (Function.update values .soundPreset v) none
      (s.afterPropertySet propertySoundPreset (toStr v)) where
  reads := h.reads_afterPropertySet (f := .soundPreset) rfl v
  applied f hf _ k hk := by
    have hne : f ≠ .soundPreset := by
      rintro rfl
      cases hk
    rw [DacState.lastWritten_afterPropertySet, Function.update_of_ne hne]
    exact h.applied f hf nofun k hk
  encodable f k hk := by
    have hne : f ≠ .soundPreset := by
      rintro rfl
      cases hk
    rw [Function.update_of_ne hne]
    exact h.encodable f k hk
  audio := h.audio
  sets := h.sets
  propertySets := by
    change s.answers.propertySets.tail = []
    rw [h.propertySets]
    rfl

/-- The table after a call: the entry of the feature is set if the call was accepted. -/
def noted (values : Feature → Int32) (f : Feature) (v : Int32) (accepted : Bool) :
    Feature → Int32 :=
  if accepted = true then Function.update values f v else values

/-- The sound preset is noted if the audio HAL accepts it. -/
theorem Settled.setSoundPreset (h : Settled values none s) (device : Device)
    (haudio : s.usedVersion.isSome = true ∧ s.mAudioDevice = true) (v : Int32) :
    Ends (setSoundPreset device v) s
      (fun accepted s' => Settled (noted values .soundPreset v accepted) none s' ∧
        SameService s s')
      fun _ _ => False := by
  rw [Dac.setSoundPreset]
  cases device.proprietaryAudioModule with
  | false => exact ⟨h.afterSoundPreset v, rfl, rfl, rfl, rfl⟩
  | true =>
      rw [if_pos rfl, ends_bind, ends_setAudioHALParameters, if_pos haudio]
      have hafter := h.step (Step.afterSetParameters s ⟨"SOUND_PRESET", toStr v⟩)
      cases s.answers.setParameters.headD true with
      | true => exact ⟨hafter.afterSoundPreset v, rfl, rfl, rfl, rfl⟩
      | false => exact ⟨hafter, rfl, rfl, rfl, rfl⟩

/-- A call of `setFeatureValue` does to the service what it does to the table. -/
theorem Settled.setFeatureValue (h : Settled values none s) (device : Device) (f : Feature)
    (v : Int32) :
    Ends (setFeatureValue device f v) s
      (fun accepted s' => Settled (noted values f v accepted) none s' ∧ SameService s s')
      fun _ _ => False := by
  by_cases hsupported : f ∈ s.mSupportedFeatures
  · cases hf : f.setting with
    | some k =>
        by_cases hencodes : (k.encode v).isSome = true
        · apply ((h.weaken f).setFeatureValue_setting device hf hsupported hencodes).mono
          · rintro accepted s' ⟨rfl, hrest⟩
            exact hrest
          · exact fun _ _ h => h
        · have hnone : k.encode v = none := Option.not_isSome_iff_eq_none.mp hencodes
          rw [Ends, Dac.setFeatureValue_setting device v hf hsupported, hnone]
          exact ⟨h, SameService.refl s⟩
    | none =>
        by_cases hpreset : f = .soundPreset
        · subst hpreset
          have haudio := h.audio (List.ne_nil_of_mem hsupported)
          rw [Ends, setFeatureValue_soundPreset device v hsupported]
          exact h.setSoundPreset device haudio v
        · rw [Ends, setFeatureValue_of_setting_eq_none device v hf hpreset]
          exact ⟨h, SameService.refl s⟩
  · rw [Ends, setFeatureValue_of_notMem device hsupported]
    exact ⟨h, SameService.refl s⟩

/-! ## Starting -/

/-- The state between two steps of the constructor. -/
def Restoring (values : Feature → Int32) (s : DacState) : Prop :=
  Settled values none s ∧ s.usedVersion.isSome = true ∧ s.mAudioDevice = true

/-- A feature that is listed has its node still to be written. -/
theorem Restoring.listing (h : Restoring values s) (f : Feature) (states : Option FeatureStates) :
    Settled values (some f) (s.listing f states) where
  reads := h.1.reads
  applied g hg hne k hk := by
    rcases List.mem_append.mp hg with hg | hg
    · exact h.1.applied g hg nofun k hk
    · exact absurd (congrArg some (List.mem_singleton.mp hg).symm) hne
  encodable := h.1.encodable
  audio _ := h.2
  sets := h.1.sets
  propertySets := h.1.propertySets

/-- A feature without a node has nothing to be written. -/
theorem Settled.nothing_pending {f : Feature} (h : Settled values (some f) s)
    (hf : f.setting = none) : Settled values none s where
  reads := h.reads
  applied g hg _ k hk := by
    apply h.applied g hg _ k hk
    rintro ⟨rfl⟩
    rw [hf] at hk
    cases hk
  encodable := h.encodable
  audio := h.audio
  sets := h.sets
  propertySets := h.propertySets

/-- Restoring one feature keeps the values of all. -/
theorem Restoring.restoreStage (h : Restoring values s) {device : Device} {f : Feature}
    {states : Option FeatureStates} {write : Int32 → DacM Bool}
    (hstage : Restorable device f states write) :
    Ends (restoreStage f states write) s (fun _ => Restoring values) fun _ _ => False := by
  obtain ⟨⟨p, default⟩, hsource⟩ := Option.isSome_iff_exists.mp hstage.source
  have ht := h.listing f states
  have hlisted : f ∈ (s.listing f states).mSupportedFeatures :=
    List.mem_append_right _ List.mem_cons_self
  rw [ends_restoreStage hstage, ht.getFeatureValue hsource hlisted]
  dsimp only
  cases hf : f.setting with
  | some k =>
      apply (ht.setFeatureValue_setting device hf hlisted (ht.encodable f k hf)).mono
      · rintro _ u ⟨-, hu, hsame⟩
        rw [Function.update_eq_self] at hu
        rw [Restoring, hsame.version, hsame.audio]
        exact ⟨hu, h.2⟩
      · exact fun _ _ h => h
  | none =>
      apply ((ht.nothing_pending hf).setFeatureValue device f (values f)).mono
      · rintro accepted u ⟨hu, hsame⟩
        rw [Restoring, hsame.version, hsame.audio]
        refine ⟨?_, h.2⟩
        cases accepted with
        | false => exact hu
        | true =>
            rw [noted, if_pos rfl, Function.update_eq_self] at hu
            exact hu
      · exact fun _ _ h => h

/-- Restoring the custom filter keeps the values of the features. -/
theorem Restoring.restoreCustomFilter (h : Restoring values s) :
    Ends restoreCustomFilter s (fun _ => Restoring values) fun _ _ => False := by
  have ht := (h.listing .customFilter none).nothing_pending rfl
  rw [Dac.restoreCustomFilter, ends_bind, support, ends_modify]
  apply (Moves.proceeds moves_restoreCustomFilter_tail (s.listing .customFilter none)).mono
  · intro _ u hstep
    rw [Restoring, hstep.same.version, hstep.same.audio]
    exact ⟨ht.step hstep, h.2⟩
  · exact fun _ _ h => h

/-- A service that is started on the properties of a table is settled on that table, and the
start does not fail. -/
theorem Settled.construct (h : Settled values pending s) (device : Device) :
    Ends (construct device) s (fun _ => Settled values none) fun _ _ => False := by
  have hstarted : ∀ version audio, Settled values none (s.started version audio) := by
    intro version audio
    exact ⟨h.reads, fun _ hf => absurd hf List.not_mem_nil, h.encodable, fun hne => absurd rfl hne,
      h.sets, h.propertySets⟩
  apply ends_construct
  · exact fun version => hstarted version false
  · intro version
    have hrestore : Ends (restoreSettings device) (s.started (some version) true)
        (fun _ => Restoring values) fun _ _ => False := by
      apply ends_restoreSettings
      · have hbegin : Restoring values (s.started (some version) true) :=
          ⟨hstarted (some version) true, rfl, rfl⟩
        have ht := (hbegin.listing .quadDac none).nothing_pending rfl
        rw [ends_bind, support, ends_modify, ends_bind, ends_get, setHifiDacState,
          ends_setAudioHALParameters, if_pos ⟨rfl, rfl⟩]
        exact ⟨ht.step (Step.afterSetParameters _ _), hbegin.2⟩
      · exact fun f states write hstage t ht => ht.restoreStage hstage
      · exact fun t ht => ht.restoreCustomFilter
    exact hrestore.mono (fun _ _ ht => ht.1) fun _ _ h => h

/-! ## Runs -/

/-- Calls and restarts, with what the audio HAL answers during each. All writes succeed. -/
inductive DacOp
  | setFeatureValue (feature : Feature) (value : Int32) (setParameters : List Bool)
  | restart (setParameters : List Bool)

namespace DacState

/-- Before a call in which all writes succeed. -/
def answering (s : DacState) (setParameters : List Bool) : DacState :=
  s.withAnswers { setParameters := setParameters }

def next (device : Device) (s : DacState) : DacOp → DacState
  | .setFeatureValue f v setParameters =>
      final (setFeatureValue device f v) (s.answering setParameters)
  | .restart setParameters => final (construct device) (s.answering setParameters)

/-- A call of `setFeatureValue` returns true, and asks for a volume between -24 and 0 if it is
about the volume. -/
def Accepts (device : Device) (s : DacState) : DacOp → Prop
  | .setFeatureValue f v setParameters =>
      Ends (Dac.setFeatureValue device f v) (s.answering setParameters)
          (fun accepted _ => accepted = true) (fun _ _ => False) ∧
        (f = .avcVolume → -24 ≤ v ∧ v ≤ 0)
  | .restart _ => True

instance (device : Device) (s : DacState) (op : DacOp) : Decidable (s.Accepts device op) :=
  match op with
  | .setFeatureValue f v setParameters =>
      inferInstanceAs (Decidable (Ends (Dac.setFeatureValue device f v) (s.answering setParameters)
        (fun accepted _ => accepted = true) (fun _ _ => False) ∧
          (f = .avcVolume → -24 ≤ v ∧ v ≤ 0)))
  | .restart _ => isTrue trivial

/-- A new device: none of the settings has been stored yet. -/
def firstStart (device : Device) (properties : Std.ExtTreeMap String String)
    (setParameters : List Bool) : DacState :=
  final (construct device)
    { properties := properties, answers := { setParameters := setParameters } }

end DacState

/-- What an operation does to the table of values. -/
def note (values : Feature → Int32) : DacOp → Feature → Int32
  | .setFeatureValue f v _ => Function.update values f v
  | .restart _ => values

/-- The last value set for each feature, or its default. -/
def lastSet (ops : List DacOp) : Feature → Int32 := ops.foldl note Feature.defaultValue

theorem Settled.answering (h : Settled values pending s) (setParameters : List Bool) :
    Settled values pending (s.answering setParameters) :=
  ⟨h.reads, h.applied, h.encodable, h.audio, rfl, rfl⟩

/-- A call or a restart leaves the service settled on what was accepted. -/
theorem Settled.next (h : Settled values none s) {device : Device} {op : DacOp}
    (haccepts : s.Accepts device op) : Settled (note values op) none (s.next device op) := by
  cases op with
  | restart setParameters =>
      apply Ends.holds
      apply ((h.answering setParameters).construct device).mono
      · exact fun _ _ ht => ht
      · exact fun _ _ hthrown => hthrown.elim
  | setFeatureValue f v setParameters =>
      have hcall := (h.answering setParameters).setFeatureValue device f v
      apply Ends.holds
      apply (hcall.and haccepts.1).mono
      · rintro accepted t ⟨⟨ht, -⟩, rfl⟩
        exact ht
      · exact fun _ _ h => h.1.elim

/-- So does a run. -/
theorem Settled.run {device : Device} {ops : List DacOp} (h : Settled values none s)
    (haccepts : Admits (DacState.next device) (DacState.Accepts device) s ops) :
    Settled (ops.foldl note values) none (run (DacState.next device) s ops) := by
  induction ops generalizing values s with
  | nil => exact h
  | cons op rest ih => exact ih (h.next haccepts.1) haccepts.2

/-- Every default can be written to its node. -/
theorem defaultValue_encodable {f : Feature} {k : Setting} (hf : f.setting = some k) :
    (k.encode f.defaultValue).isSome = true := by
  cases f <;> cases hf <;> rfl

/-- A first start settles on the defaults. -/
theorem settled_firstStart (device : Device) {properties : Std.ExtTreeMap String String}
    (hnew : ∀ f p default, Feature.source f = some (p, default) → properties[p]? = none)
    (setParameters : List Bool) :
    Settled Feature.defaultValue none (DacState.firstStart device properties setParameters) := by
  have hbefore : Settled Feature.defaultValue none
      { properties := properties, answers := { setParameters := setParameters } } := by
    refine ⟨?_, fun _ hf => absurd hf List.not_mem_nil, fun f k => defaultValue_encodable,
      fun hne => absurd rfl hne, rfl, rfl⟩
    intro f p default hf
    have hdefault : f.defaultValue = default := by
      rw [Feature.defaultValue, hf]
      rfl
    rw [DacState.propertyGet, hnew f p default hf, stoi_toStr, hdefault]
  apply Ends.holds
  apply (hbefore.construct device).mono
  · exact fun _ _ ht => ht
  · exact fun _ _ hthrown => hthrown.elim

/-- Setting a feature, with whatever outcome, changes no other feature. -/
theorem setFeatureValue_others (device : Device) (s : DacState) (f : Feature) (v : Int32)
    {g : Feature} (hg : g ≠ f) :
    (final (setFeatureValue device f v) s).getFeatureValue g = s.getFeatureValue g ∧
      ∀ k, g.setting = some k →
        (final (setFeatureValue device f v) s).lastWritten k.path = s.lastWritten k.path := by
  have hstep := Moves.final (moves_setFeatureValue device f v) s
  constructor
  · apply DacState.getFeatureValue_congr hstep.same.features
    intro p default hp
    apply hstep.frame.propertyGet
    rintro ⟨default', hp'⟩
    exact hg (Feature.source_injective hp hp')
  · intro k hk
    apply hstep.frame.written
    rintro ⟨l, hl, hpath⟩
    exact hg (Feature.path_injective hk hl hpath.symm)

/-- After any accepted calls and restarts each setting reads as the value that was last set,
and its node holds the encoding of that value. A call for one feature changes the value and
the node of no other. -/
theorem settings_persist (device : Device) {properties : Std.ExtTreeMap String String}
    (hnew : ∀ f p default, Feature.source f = some (p, default) → properties[p]? = none)
    (setParameters : List Bool) {ops : List DacOp}
    (haccepts : Admits (DacState.next device) (DacState.Accepts device)
      (DacState.firstStart device properties setParameters) ops) :
    let s := run (DacState.next device) (DacState.firstStart device properties setParameters) ops
    (∀ f k, Feature.setting f = some k → f ∈ s.mSupportedFeatures →
      s.getFeatureValue f = some (lastSet ops f) ∧
        ∃ text, k.encode (lastSet ops f) = some text ∧ s.lastWritten k.path = some text) ∧
    ∀ f v answers g, g ≠ f →
      (s.next device (.setFeatureValue f v answers)).getFeatureValue g = s.getFeatureValue g ∧
        ∀ k, Feature.setting g = some k →
          (s.next device (.setFeatureValue f v answers)).lastWritten k.path =
            s.lastWritten k.path := by
  have hsettled := (settled_firstStart device hnew setParameters).run haccepts
  constructor
  · intro f k hf hsupported
    have hencodable := hsettled.encodable f k hf
    obtain ⟨text, htext⟩ := Option.isSome_iff_exists.mp hencodable
    refine ⟨hsettled.getFeatureValue (Feature.source_of_setting hf) hsupported, text, htext, ?_⟩
    rw [hsettled.applied f hsupported nofun k hf]
    exact htext
  · intro f v answers g hg
    exact setFeatureValue_others device (DacState.answering _ answers) f v hg

/-- A volume and a filter that outlive a restart. -/
theorem settings_persist_restart :
    let ops : List DacOp := [.setFeatureValue .avcVolume (-20) [],
      .setFeatureValue .digitalFilter 2 [], .restart [], .setFeatureValue .hifiMode 1 []]
    let s := run (DacState.next {}) (DacState.firstStart {} ∅ []) ops
    s.getFeatureValue .avcVolume = some (lastSet ops .avcVolume) ∧
      ∃ text, some (toStr ((-1) * lastSet ops .avcVolume)) = some text ∧
        s.lastWritten avcPath = some text :=
  (settings_persist {} (fun _ _ _ _ => Std.ExtTreeMap.getElem?_empty) []
    (by decide +kernel)).1 .avcVolume _ rfl (by decide +kernel)

end LgeHardware.Dac
