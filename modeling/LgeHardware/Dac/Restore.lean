import LgeHardware.Dac.Frame

/-! # The constructor

The constructor lists a feature and applies its stored value, one feature after the other.
What each of these steps keeps holds of the service that it makes.
-/

namespace LgeHardware.Dac

open LgeHardware.Foundation

/-! ## The steps -/

/-- A feature is listed, read and written, with a writer that may go past `setFeatureValue`. -/
def restoreStage (f : Feature) (states : Option FeatureStates) (write : Int32 → DacM Bool) :
    DacM PUnit := do
  support f states
  let value ← reading (·.getFeatureValue f)
  let _ ← write value

/-- What can be said for a feature, after its name. -/
def Feature.states : Feature → Option FeatureStates
  | .digitalFilter => some { states := digitalFilters }
  | .soundPreset => some { states := soundPresets }
  | .balanceLeft => some balanceStates
  | .balanceRight => some balanceStates
  | .avcVolume => some DacState.getAvcVolumeStates
  | .hifiMode => some DacState.getHifiModeStates
  | _ => none

/-- What the steps of the constructor have in common. Two features keep their values out of
the table of states. -/
structure Restorable (device : Device) (f : Feature) (states : Option FeatureStates)
    (write : Int32 → DacM Bool) : Prop where
  source : f.source.isSome = true
  write : ∀ s v, f ∈ s.mSupportedFeatures → write v s = setFeatureValue device f v s
  preset : f = .soundPreset → device.proprietaryAudioModule = true
  states : states = f.states ∨ states = none ∧ (f = .avcVolume ∨ f = .hifiMode)

variable {device : Device}

/-- A feature with a property is restored by setting it again. -/
theorem restorable_feature {f : Feature} {states : FeatureStates} (hsource : f.source.isSome = true)
    (hpreset : f = .soundPreset → device.proprietaryAudioModule = true)
    (hstates : some states = f.states) :
    Restorable device f (some states) (setFeatureValue device f) :=
  ⟨hsource, fun _ _ _ => rfl, hpreset, .inl hstates⟩

theorem restorable_avcVolume : Restorable device .avcVolume none writeAvcVolumeState where
  source := rfl
  write s v hs := by
    rw [setFeatureValue_setting device v rfl hs]
    rfl
  preset := nofun
  states := .inr ⟨rfl, .inl rfl⟩

theorem restorable_hifiMode : Restorable device .hifiMode none writeHifiModeState where
  source := rfl
  write s v hs := by
    rw [setFeatureValue_setting device v rfl hs]
    rfl
  preset := nofun
  states := .inr ⟨rfl, .inr rfl⟩

/-! ## Rules -/

section

variable {s : DacState} {stop : Unit → DacState → Prop} {invariant : DacState → Prop}

theorem ends_whenPresent {present : Bool} {part : DacM PUnit} (hs : invariant s)
    (hpart : present = true → Ends part s (fun _ => invariant) stop) :
    Ends (whenPresent present part) s (fun _ => invariant) stop := by
  rw [whenPresent, ends_ite]
  exact ⟨hpart, fun _ => hs⟩

/-- A step of the constructor is a call of `setFeatureValue` with the stored value. -/
theorem ends_restoreStage {f : Feature} {states : Option FeatureStates}
    {write : Int32 → DacM Bool} (hstage : Restorable device f states write) :
    Ends (restoreStage f states write) s (fun _ => invariant) stop ↔
      match (s.listing f states).getFeatureValue f with
      | some value =>
          Ends (setFeatureValue device f value) (s.listing f states) (fun _ => invariant) stop
      | none => stop () (s.listing f states) := by
  have hlisted : f ∈ (s.listing f states).mSupportedFeatures :=
    List.mem_append_right _ List.mem_cons_self
  rw [restoreStage, ends_bind, support, ends_modify, ends_bind, ends_reading]
  cases (s.listing f states).getFeatureValue f with
  | none => rfl
  | some value =>
      dsimp only
      rw [ends_bind, Ends, Ends, hstage.write _ value hlisted]
      rfl

/-- An invariant of every stage is one of restoring the settings. -/
theorem ends_restoreSettings
    (hquad : Ends (do support .quadDac none
                      setHifiDacState ((← get).getHifiDacState device)) s (fun _ => invariant) stop)
    (hstage : ∀ f states write, Restorable device f states write → ∀ s, invariant s →
      Ends (restoreStage f states write) s (fun _ => invariant) stop)
    (hcustom : ∀ s, invariant s → Ends restoreCustomFilter s (fun _ => invariant) stop) :
    Ends (restoreSettings device) s (fun _ => invariant) stop := by
  have hfeature : ∀ f states, f.source.isSome = true →
      (f = .soundPreset → device.proprietaryAudioModule = true) → some states = f.states →
      ∀ s, invariant s → Ends (restoreFeature device f states) s (fun _ => invariant) stop :=
    fun f states hsource hpreset hstates =>
      hstage f _ _ (restorable_feature hsource hpreset hstates)
  have hrest : ∀ s, invariant s → Ends (do
      whenPresent (device.stat essFilterPath)
        (restoreFeature device .digitalFilter { states := digitalFilters })
      whenPresent device.proprietaryAudioModule
        (restoreFeature device .soundPreset { states := soundPresets })
      whenPresent (device.stat volumeLeftPath) (restoreFeature device .balanceLeft balanceStates)
      whenPresent (device.stat volumeRightPath) (restoreFeature device .balanceRight balanceStates)
      whenPresent (device.stat avcPath) restoreAvcVolume
      whenPresent (device.stat hifiPath) restoreHifiMode
      whenPresent (device.stat customFilterPath) restoreCustomFilter) s
        (fun _ => invariant) stop := by
    intro s hs
    apply Ends.bind (ends_whenPresent hs fun _ => hfeature .digitalFilter _ rfl nofun rfl s hs)
    intro _ s hs
    apply Ends.bind (ends_whenPresent hs fun h => hfeature .soundPreset _ rfl (fun _ => h) rfl s hs)
    intro _ s hs
    apply Ends.bind (ends_whenPresent hs fun _ => hfeature .balanceLeft _ rfl nofun rfl s hs)
    intro _ s hs
    apply Ends.bind (ends_whenPresent hs fun _ => hfeature .balanceRight _ rfl nofun rfl s hs)
    intro _ s hs
    apply Ends.bind (ends_whenPresent hs fun _ => hstage _ _ _ restorable_avcVolume s hs)
    intro _ s hs
    apply Ends.bind (ends_whenPresent hs fun _ => hstage _ _ _ restorable_hifiMode s hs)
    intro _ s hs
    exact ends_whenPresent hs fun _ => hcustom s hs
  have hquad' := (ends_bind _ _).mp hquad
  rw [restoreSettings, ends_bind]
  apply hquad'.mono _ fun _ _ h => h
  intro _ s' h
  rw [ends_bind] at h ⊢
  apply h.mono _ fun _ _ h => h
  intro s'' t h
  exact Ends.bind h fun _ u hu => hrest u hu

/-- The new object before it lists its first feature. -/
def DacState.started (s : DacState) (version : Option AudioVersion) (audio : Bool) : DacState :=
  { s with
    mSupportedFeatures := []
    mSupportedStates := []
    usedVersion := version
    mAudioDevice := audio }

/-- The constructor ends as restoring the settings does, or without a service to talk to. -/
theorem ends_construct
    (hfail : ∀ version, invariant (s.started version false))
    (hrestore : ∀ version, Ends (restoreSettings device) (s.started (some version) true)
      (fun _ => invariant) stop) :
    Ends (construct device) s (fun _ => invariant) stop := by
  rw [construct, ends_bind, newObject, ends_modify, ends_bind, openAudioDevice, ends_ite]
  constructor
  · intro _
    exact hfail none
  · intro _
    cases device.version with
    | none => exact hfail none
    | some version =>
        dsimp only
        rw [ends_bind, ends_modify, ends_ite]
        constructor
        · intro _
          exact hfail (some version)
        · intro _
          exact hrestore version

end

end LgeHardware.Dac
