import LgeHardware.Dac.Settings

/-! # Refused settings

`setFeatureValue` says false when it could not write the node or the property. A feature
whose node could not be written has its property written all the same, so that the value
that was refused is read back and is applied at the next start.
-/

namespace LgeHardware.Dac

open LgeHardware.Foundation

/-- A call that refuses the value leaves what every feature reads as. -/
def RefusalHarmless (device : Device) (s : DacState) (f : Feature) (v : Int32) : Prop :=
  Ends (setFeatureValue device f v) s
    (fun accepted s' => accepted = false → ∀ g, s'.getFeatureValue g = s.getFeatureValue g)
    fun _ _ => True

/-- The node of the feature is not written, its property is, and that changes its value. -/
def Strands (s : DacState) (f : Feature) (v : Int32) : Prop :=
  ∃ k, f.setting = some k ∧ (k.encode v).isSome = true ∧
    s.answers.sets.headD true = false ∧ s.answers.propertySets.headD true = true ∧
    s.getFeatureValue f ≠ some v

variable (device : Device) (s : DacState) {f : Feature} {k : Setting}

/-- A sound preset is stored only after the audio HAL has taken it. -/
theorem setSoundPreset_refusal (v : Int32) :
    Ends (setSoundPreset device v) s
      (fun accepted s' => accepted = false → ∀ g, s'.getFeatureValue g = s.getFeatureValue g)
      fun _ _ => True := by
  rw [setSoundPreset]
  cases device.proprietaryAudioModule with
  | false => exact fun h => absurd h.symm Bool.false_ne_true
  | true =>
      rw [if_pos rfl, ends_bind, ends_setAudioHALParameters]
      split
      next =>
        cases s.answers.setParameters.headD true with
        | true => exact fun h => absurd h.symm Bool.false_ne_true
        | false =>
            intro _ g
            apply DacState.getFeatureValue_congr
            · rfl
            · exact fun property default _ => s.propertyGet_afterSetParameters _ _ _
      next => trivial

/-- A feature without a node of its own never has a refused value stored. -/
theorem refusalHarmless_of_setting_eq_none (hf : f.setting = none) (v : Int32) :
    RefusalHarmless device s f v := by
  rw [RefusalHarmless, Ends]
  by_cases hpreset : f = .soundPreset
  · subst hpreset
    by_cases hsupported : Feature.soundPreset ∈ s.mSupportedFeatures
    · rw [setFeatureValue_soundPreset device v hsupported]
      exact setSoundPreset_refusal device s v
    · rw [setFeatureValue_of_notMem device hsupported]
      exact fun _ _ => rfl
  · rw [setFeatureValue_of_setting_eq_none device v hf hpreset]
    exact fun _ _ => rfl

/-- A setting is refused without harm unless its node is not written, its property is, and its value
changes with that. -/
theorem refusalHarmless_setting_iff (hf : f.setting = some k)
    (hsupported : f ∈ s.mSupportedFeatures) (v : Int32) :
    RefusalHarmless device s f v ↔ ¬Strands s f v := by
  have hsource := Feature.source_of_setting hf
  have hstrands : Strands s f v ↔ (k.encode v).isSome = true ∧
      s.answers.sets.headD true = false ∧ s.answers.propertySets.headD true = true ∧
      s.getFeatureValue f ≠ some v := by
    constructor
    · rintro ⟨l, hl, hrest⟩
      rw [hf] at hl
      cases hl
      exact hrest
    · exact fun hrest => ⟨k, hf, hrest⟩
  rw [RefusalHarmless, Ends, setFeatureValue_setting device v hf hsupported, hstrands]
  cases hencode : k.encode v with
  | none => exact iff_of_true (fun _ _ => rfl) fun h => absurd h.1 Bool.false_ne_true
  | some text =>
      have hread : ∀ g, ((s.afterSet k.path text).afterPropertySet k.property
          (toStr v)).getFeatureValue g =
            if s.answers.propertySets.headD true = true ∧ f = g then some v
            else s.getFeatureValue g :=
        DacState.getFeatureValue_afterPropertySet (s.afterSet k.path text) hsource hsupported v
      dsimp only
      simp only [hread]
      cases s.answers.propertySets.headD true with
      | false => simp
      | true =>
          cases s.answers.sets.headD true with
          | true => simp
          | false =>
              constructor
              · intro hkeep hchanged
                have hf' := hkeep rfl f
                rw [if_pos ⟨rfl, rfl⟩] at hf'
                exact hchanged.2.2.2 hf'.symm
              · intro hsame _ g
                split
                next hg =>
                  obtain ⟨-, rfl⟩ := hg
                  by_contra hne
                  exact hsame ⟨rfl, rfl, rfl, fun h => hne h.symm⟩
                next => rfl

/-- A refused call changes what a feature reads as exactly if the node could not be written
while the property was, with a new value. -/
theorem refusalHarmless_iff (hsupported : f ∈ s.mSupportedFeatures) (v : Int32) :
    RefusalHarmless device s f v ↔ ¬Strands s f v := by
  cases hf : f.setting with
  | some k => exact refusalHarmless_setting_iff device s hf hsupported v
  | none =>
      apply iff_of_true (refusalHarmless_of_setting_eq_none device s hf v)
      rintro ⟨k, hk, -⟩
      rw [hf] at hk
      cases hk

/-- The service after its start on a device with every feature, with a node that cannot be
written next. -/
def nodeFails : DacState :=
  { final (construct {}) {} with answers := { sets := [false] } }

theorem refusalHarmless_iff_nodeFails :
    RefusalHarmless {} nodeFails .balanceLeft 0 ↔ ¬Strands nodeFails .balanceLeft 0 :=
  refusalHarmless_iff {} nodeFails (by decide +kernel) 0

/-- The left balance is refused and is -5 from then on. -/
theorem not_refusalHarmless_nodeFails :
    Feature.balanceLeft ∈ nodeFails.mSupportedFeatures ∧
      ¬RefusalHarmless {} nodeFails .balanceLeft (-5) := by
  have hsupported : Feature.balanceLeft ∈ nodeFails.mSupportedFeatures := by decide +kernel
  have hvalue : nodeFails.getFeatureValue .balanceLeft ≠ some (-5) := by decide +kernel
  have hstrands : Strands nodeFails .balanceLeft (-5) := ⟨_, rfl, rfl, rfl, rfl, hvalue⟩
  exact ⟨hsupported, (not_congr (refusalHarmless_setting_iff {} nodeFails rfl hsupported _)).mpr
    (not_not_intro hstrands)⟩

end LgeHardware.Dac
