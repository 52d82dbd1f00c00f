import Mathlib.Logic.Function.Basic
import LgeHardware.Dac.FilterShape
import LgeHardware.Foundation.Latest

/-! # The settings behind the panel

The settings application switches the DAC on by reading every setting and setting it again. To
the user a setting is still a register, which has the value that was chosen for it last: switching
the DAC on or off changes none, however the writes to the driver and to the properties end.
-/

namespace LgeHardware.Dac

open LgeHardware.Foundation

/-! ## The application -/

namespace QuadDAC

def disable : DacM PUnit := do
  let _ ← setHifiDacState false

def setDACMode (device : Device) (mode : Int32) : DacM PUnit := do
  let _ ← setFeatureValue device .hifiMode mode

def setLeftBalance (device : Device) (balance : Int32) : DacM PUnit := do
  let _ ← setFeatureValue device .balanceLeft balance

def setRightBalance (device : Device) (balance : Int32) : DacM PUnit := do
  let _ ← setFeatureValue device .balanceRight balance

def setAVCVolume (device : Device) (avcVolume : Int32) : DacM PUnit := do
  let _ ← setFeatureValue device .avcVolume avcVolume

def setSoundPreset (device : Device) (dacFeatures : List Feature) (preset : Int32) : DacM PUnit :=
  whenPresent (dacFeatures.contains .soundPreset) do
    let _ ← setFeatureValue device .soundPreset preset

end QuadDAC

/-- What the panel and the tile do on behalf of the user. The panel has fourteen coefficients. -/
inductive PanelOp
  | enable
  | disable
  | setDACMode (mode : Int32)
  | setLeftBalance (balance : Int32)
  | setRightBalance (balance : Int32)
  | setAVCVolume (avcVolume : Int32)
  | setDigitalFilter (filter : Int32)
  | setSoundPreset (preset : Int32)
  | setCustomFilterShape (shape : Int32)
  | setCustomFilterSymmetry (symmetry : Int32)
  | setCustomFilterCoeff (coeffIndex : Fin 14) (coeff : Int32)
  | resetCustomFilterCoeffs

def PanelOp.program (device : Device) (dacFeatures : List Feature) : PanelOp → DacM PUnit
  | .enable => QuadDAC.enable device dacFeatures
  | .disable => QuadDAC.disable
  | .setDACMode mode => QuadDAC.setDACMode device mode
  | .setLeftBalance balance => QuadDAC.setLeftBalance device balance
  | .setRightBalance balance => QuadDAC.setRightBalance device balance
  | .setAVCVolume avcVolume => QuadDAC.setAVCVolume device avcVolume
  | .setDigitalFilter filter => QuadDAC.setDigitalFilter device dacFeatures filter
  | .setSoundPreset preset => QuadDAC.setSoundPreset device dacFeatures preset
  | .setCustomFilterShape shape => do let _ ← Dac.setCustomFilterShape shape
  | .setCustomFilterSymmetry symmetry => do let _ ← Dac.setCustomFilterSymmetry symmetry
  | .setCustomFilterCoeff coeffIndex coeff => do
      let _ ← Dac.setCustomFilterCoeff (Int32.ofNat coeffIndex) coeff
  | .resetCustomFilterCoeffs => do let _ ← Dac.resetCustomFilterCoeffs

/-- The setting that an operation is about, with the value chosen for it. -/
def PanelOp.chosen : PanelOp → Option (Feature × Int32)
  | .setDACMode mode => some (.hifiMode, mode)
  | .setLeftBalance balance => some (.balanceLeft, balance)
  | .setRightBalance balance => some (.balanceRight, balance)
  | .setAVCVolume avcVolume => some (.avcVolume, avcVolume)
  | .setDigitalFilter filter => some (.digitalFilter, filter)
  | .setSoundPreset preset => some (.soundPreset, preset)
  | _ => none

/-- An operation, and how the writes and the calls of the audio HAL that it leads to end. -/
structure PanelCall where
  op : PanelOp
  answers : Answers := {}

def PanelCall.next (device : Device) (dacFeatures : List Feature) (s : DacState)
    (call : PanelCall) : DacState :=
  final (call.op.program device dacFeatures) (s.withAnswers call.answers)

/-- The service takes the value and stores it. The node need not follow. -/
def stores (device : Device) (features : List Feature) (answers : Answers) (f : Feature)
    (v : Int32) : Bool :=
  features.contains f && answers.propertySets.headD true &&
    match f.setting with
    | some k => (k.encode v).isSome
    | none => f == .soundPreset &&
        (!device.proprietaryAudioModule || answers.setParameters.headD true)

/-- What a call makes of a setting, if it is about that setting and gets through. -/
def PanelCall.stored (device : Device) (features : List Feature) (f : Feature)
    (call : PanelCall) : Option Int32 :=
  match call.op.chosen with
  | some (g, v) => if g = f ∧ stores device features call.answers g v = true then some v else none
  | none => none

/-! ## What one call to the service changes -/

/-- The features of the service, which has an audio device, and what they read as. -/
structure Holding (features : List Feature) (values : Feature → Int32) (s : DacState) : Prop where
  supported : s.mSupportedFeatures = features
  audio : s.usedVersion.isSome = true ∧ s.mAudioDevice = true
  reads : ∀ f ∈ features, s.getFeatureValue f = some (values f)

variable {features : List Feature} {values : Feature → Int32} {device : Device} {s s' : DacState}

/-- What stays away from the properties of the features keeps their values. -/
theorem Holding.step {paths properties : String → Prop} (h : Holding features values s)
    (hproperties : ∀ f p default, Feature.source f = some (p, default) → ¬properties p)
    (hstep : Step paths properties s s') : Holding features values s' where
  supported := hstep.same.features.trans h.supported
  audio := by
    rw [hstep.same.version, hstep.same.audio]
    exact h.audio
  reads f hf := by
    rw [DacState.getFeatureValue_congr hstep.same.features]
    · exact h.reads f hf
    · exact fun p default hsource =>
        hstep.frame.propertyGet (hproperties f p default hsource) (toStr default)

/-- Storing a value changes its feature only. -/
theorem Holding.afterPropertySet (h : Holding features values s) {f : Feature} {p : String}
    {default : Int32} (hf : f.source = some (p, default)) (hsupported : f ∈ features) (v : Int32) :
    Holding features
      (if s.answers.propertySets.headD true = true then Function.update values f v else values)
      (s.afterPropertySet p (toStr v)) where
  supported := h.supported
  audio := h.audio
  reads g hg := by
    rw [← h.supported] at hsupported
    rw [DacState.getFeatureValue_afterPropertySet s hf hsupported v g]
    by_cases hok : s.answers.propertySets.headD true = true
    · rw [if_pos hok]
      by_cases hsame : f = g
      · subst hsame
        rw [if_pos ⟨hok, rfl⟩, Function.update_self]
      · rw [if_neg fun hboth => hsame hboth.2, Function.update_of_ne (Ne.symm hsame)]
        exact h.reads g hg
    · rw [if_neg hok, if_neg fun hboth => hok hboth.1]
      exact h.reads g hg

/-- A value that the node can be given is stored if the property is set. -/
theorem stores_of_setting {f : Feature} {k : Setting} (hf : f.setting = some k)
    (hsupported : f ∈ features) {answers : Answers} {v : Int32} {text : String}
    (htext : k.encode v = some text) :
    stores device features answers f v = answers.propertySets.headD true := by
  rw [stores, hf, List.contains_iff_mem.mpr hsupported, Bool.true_and]
  dsimp only
  rw [htext, Option.isSome_some, Bool.and_true]

/-- The service stores a value, or leaves all settings as they are. -/
theorem Holding.setFeatureValue (h : Holding features values s) (f : Feature) (v : Int32) :
    Ends (setFeatureValue device f v) s
      (fun _ s' => Holding features (if stores device features s.answers f v = true then
        Function.update values f v else values) s')
      fun _ _ => False := by
  -- The cases are those of `setFeatureValue`: a setting with a node, the sound preset, a feature
  -- that cannot be set, and one that is not supported.
  by_cases hsupported : f ∈ features
  · have hmem : f ∈ s.mSupportedFeatures := h.supported.symm ▸ hsupported
    cases hsetting : f.setting with
    | some k =>
        rw [Ends, setFeatureValue_setting device v hsetting hmem]
        cases htext : k.encode v with
        | none =>
            have hrefused : stores device features s.answers f v = false := by
              rw [stores, hsetting]
              dsimp only
              rw [htext, Option.isSome_none, Bool.and_false]
            rw [hrefused]
            exact h
        | some text =>
            rw [stores_of_setting hsetting hsupported htext]
            have hstep : Step (fun _ => True) (fun _ => False) s (s.afterSet k.path text) :=
              Step.afterSet s text trivial
            have hset := h.step (fun _ _ _ _ => id) hstep
            exact hset.afterPropertySet (Feature.source_of_setting hsetting) hsupported v
    | none =>
        by_cases hpreset : f = .soundPreset
        · subst hpreset
          have hstores : stores device features s.answers .soundPreset v =
              (s.answers.propertySets.headD true &&
                (!device.proprietaryAudioModule || s.answers.setParameters.headD true)) := by
            rw [stores, List.contains_iff_mem.mpr hsupported]
            rfl
          have hsource : Feature.source .soundPreset = some (propertySoundPreset, 0) := rfl
          rw [hstores, Ends, setFeatureValue_soundPreset device v hmem]
          cases hproprietary : device.proprietaryAudioModule with
          | true =>
              -- The audio HAL of the proprietary module can refuse the value.
              rw [setSoundPreset_eq device v hproprietary h.audio]
              have hstep : Step (fun _ => True) (fun _ => False) s
                  (s.afterSetParameters ⟨"SOUND_PRESET", toStr v⟩) := Step.afterSetParameters s _
              have hcalled := h.step (fun _ _ _ _ => id) hstep
              cases haccepted : s.answers.setParameters.headD true with
              | true =>
                  rw [Bool.not_true, Bool.false_or, Bool.and_true]
                  exact hcalled.afterPropertySet hsource hsupported v
              | false =>
                  rw [Bool.not_true, Bool.false_or, Bool.and_false]
                  exact hcalled
          | false =>
              have hplain : setSoundPreset device v s =
                  .ok true (s.afterPropertySet propertySoundPreset (toStr v)) := by
                rw [setSoundPreset, hproprietary]
                rfl
              rw [hplain, Bool.not_false, Bool.true_or, Bool.and_true]
              exact h.afterPropertySet hsource hsupported v
        · have hrefused : stores device features s.answers f v = false := by
            rw [stores, hsetting, beq_false_of_ne hpreset]
            exact Bool.and_false _
          rw [Ends, setFeatureValue_of_setting_eq_none device v hsetting hpreset, hrefused]
          exact h
  · have hrefused : stores device features s.answers f v = false := by
      rw [stores, Bool.eq_false_iff.mpr fun hc => hsupported (List.contains_iff_mem.mp hc)]
      rfl
    have hnot : f ∉ s.mSupportedFeatures := h.supported.symm ▸ hsupported
    rw [Ends, setFeatureValue_of_notMem device hnot, hrefused]
    exact h

/-! ## Programs that keep the settings -/

/-- The service survives the program, and all settings are as before. -/
def Keeps (features : List Feature) (values : Feature → Int32) {α : Type} (x : DacM α) : Prop :=
  ∀ s, Holding features values s → Ends x s (fun _ => Holding features values) fun _ _ => False

theorem Keeps.bind {α β : Type} {x : DacM α} {f : α → DacM β} (hx : Keeps features values x)
    (hf : ∀ a, Keeps features values (f a)) : Keeps features values (x >>= f) :=
  fun s hs => Ends.bind (hx s hs) fun a s' hs' => hf a s' hs'

theorem Keeps.pure {α : Type} (a : α) : Keeps features values (Pure.pure a : DacM α) :=
  fun _ hs => (ends_pure a).mpr hs

theorem Keeps.get : Keeps features values (MonadState.get : DacM DacState) := fun _ hs => hs

theorem Keeps.whenPresent {present : Bool} {part : DacM PUnit}
    (hpart : Keeps features values part) :
    Keeps features values (whenPresent present part) := by
  rw [Dac.whenPresent]
  split
  next => exact hpart
  next => exact Keeps.pure _

/-- The custom filter has properties of its own. -/
theorem Keeps.of_moves {α : Type} {x : DacM α}
    (hx : Moves (Step CustomPath CustomProperty) False x) : Keeps features values x := by
  intro s hs
  refine (hx.proceeds s).mono (fun _ s' hstep => ?_) fun _ _ h => h
  exact hs.step (fun f p default hsource => not_customProperty_of_source hsource) hstep

/-- Switching the DAC keeps the settings. -/
theorem Keeps.setHifiDacState (enable : Bool) :
    Keeps features values (setHifiDacState enable) := by
  intro s hs
  rw [Dac.setHifiDacState, ends_setAudioHALParameters, if_pos hs.audio]
  have hstep : Step (fun _ => False) (fun _ => False) s
      (s.afterSetParameters ⟨"hifi_dac", if enable then "on" else "off"⟩) :=
    Step.afterSetParameters s _
  exact hs.step (fun _ _ _ _ => id) hstep

/-- The value of a setting, which is set again, is the one it has, where it is supported. -/
theorem Keeps.setFeatureValue (device : Device) {f : Feature} {v : Int32}
    (hv : f ∈ features → v = values f) : Keeps features values (setFeatureValue device f v) := by
  intro s hs
  refine (hs.setFeatureValue f v).mono (fun _ s' h => ?_) fun _ _ h => h
  split at h
  next hstores =>
    rw [stores, Bool.and_eq_true, Bool.and_eq_true, List.contains_iff_mem] at hstores
    rw [hv hstores.1.1, Function.update_eq_self] at h
    exact h
  next => exact h

/-- A setting reads as its value, where it is supported. -/
theorem ends_reading_feature {f : Feature} {α : Type} {rest : Int32 → DacM α}
    (hrest : ∀ v, (f ∈ features → v = values f) → Keeps features values (rest v)) :
    Keeps features values (reading (·.getFeatureValue f) >>= rest) := by
  intro s hs
  rw [ends_bind, ends_reading]
  by_cases hf : f ∈ features
  · rw [hs.reads f hf]
    exact hrest (values f) (fun _ => rfl) s hs
  · have hunsupported : s.getFeatureValue f = some (-1) := by
      rw [DacState.getFeatureValue_eq, if_pos (hs.supported ▸ hf)]
    rw [hunsupported]
    exact hrest (-1) (fun hmem => absurd hmem hf) s hs

namespace QuadDAC

theorem keeps_reapplyShape (present : Bool) : Keeps features values (whenPresent present do
    let s ← get
    let _ ← setCustomFilterShape s.getCustomFilterShape) := by
  apply Keeps.whenPresent
  apply Keeps.bind Keeps.get
  intro s
  exact Keeps.bind (Keeps.of_moves (moves_setCustomFilterShape _)) fun _ => Keeps.pure _

theorem keeps_getCustomFilterCoeffs {indices : List Int32} (h : ∀ i ∈ indices, i ∈ coeffIndices) :
    Keeps features values (getCustomFilterCoeffs indices) := by
  induction indices with
  | nil => exact Keeps.pure _
  | cons i rest ih =>
      have hcoeff : Keeps features values (reading (·.getCustomFilterCoeff i)) := by
        apply Keeps.of_moves
        apply moves_reading
        intro s hnone
        rw [DacState.getCustomFilterCoeff, Option.map_eq_none_iff] at hnone
        exact coeffProperty_isSome (h i List.mem_cons_self) hnone
      apply Keeps.bind hcoeff
      intro coeff
      apply Keeps.bind (ih fun j hj => h j (List.mem_cons_of_mem _ hj))
      exact fun coeffs => Keeps.pure _

theorem keeps_setCustomFilterCoeffs {entries : List (Int32 × Int32)}
    (h : ∀ entry ∈ entries, entry.1 ∈ coeffIndices) :
    Keeps features values (setCustomFilterCoeffs entries) := by
  induction entries with
  | nil => exact Keeps.pure _
  | cons entry rest ih =>
      have hindex := coeffProperty_isSome (h entry List.mem_cons_self)
      apply Keeps.bind (Keeps.of_moves (moves_setCustomFilterCoeff hindex entry.2))
      exact fun _ => ih fun other hother => h other (List.mem_cons_of_mem _ hother)

/-- Applying the custom filter again keeps the settings. -/
theorem keeps_reapplyCustomFilter : Keeps features values reapplyCustomFilter := by
  apply Keeps.bind Keeps.get
  intro s
  apply Keeps.bind (keeps_getCustomFilterCoeffs fun i hi => hi)
  intro coeffs
  apply Keeps.bind (Keeps.of_moves (moves_setCustomFilterShape _))
  intro _
  apply Keeps.bind (Keeps.of_moves (moves_setCustomFilterSymmetry _))
  intro _
  exact keeps_setCustomFilterCoeffs fun entry hentry => (List.of_mem_zip hentry).1

/-- Switching the DAC on reads all settings, and sets them again one after the other. -/
theorem keeps_enable (device : Device) (dacFeatures : List Feature) :
    Keeps features values (enable device dacFeatures) := by
  apply Keeps.bind (Keeps.setHifiDacState true)
  intro _
  apply ends_reading_feature
  intro mode hmode
  apply ends_reading_feature
  intro leftBalance hleft
  apply ends_reading_feature
  intro rightBalance hright
  apply ends_reading_feature
  intro avcVol havc
  apply ends_reading_feature
  intro digitalFilter hfilter
  apply Keeps.bind (Keeps.setFeatureValue device hmode)
  intro _
  apply Keeps.bind (Keeps.setFeatureValue device hleft)
  intro _
  apply Keeps.bind (Keeps.setFeatureValue device hright)
  intro _
  apply Keeps.bind (Keeps.setFeatureValue device havc)
  intro _
  apply Keeps.bind
  · exact Keeps.bind (Keeps.setFeatureValue device hfilter) fun _ => keeps_reapplyShape _
  intro _
  apply Keeps.bind
  · apply Keeps.whenPresent
    apply ends_reading_feature
    intro preset hpreset
    exact Keeps.bind (Keeps.setFeatureValue device hpreset) fun _ => Keeps.pure _
  · exact fun _ => Keeps.whenPresent keeps_reapplyCustomFilter

end QuadDAC

/-! ## Runs -/

theorem Holding.withAnswers (h : Holding features values s) (answers : Answers) :
    Holding features values (s.withAnswers answers) := ⟨h.supported, h.audio, h.reads⟩

/-- What is stored of the settings, in terms of the one setting that a call is about. -/
theorem getD_stored {call : PanelCall} {g : Feature} {v : Int32}
    (hchosen : call.op.chosen = some (g, v)) :
    (fun f => (call.stored device features f).getD (values f)) =
      if stores device features call.answers g v = true then Function.update values g v
      else values := by
  funext f
  rw [PanelCall.stored, hchosen]
  dsimp only
  by_cases hstores : stores device features call.answers g v = true
  · rw [if_pos hstores]
    by_cases hg : g = f
    · subst hg
      rw [if_pos ⟨rfl, hstores⟩, Option.getD_some, Function.update_self]
    · rw [if_neg fun h => hg h.1, Option.getD_none, Function.update_of_ne (Ne.symm hg)]
  · rw [if_neg hstores, if_neg fun h => hstores h.2, Option.getD_none]

/-- A value is chosen for a setting, and what follows is about the custom filter. -/
theorem Holding.choose (h : Holding features values s) {call : PanelCall} {g : Feature} {v : Int32}
    (hchosen : call.op.chosen = some (g, v)) {rest : Bool → DacM PUnit}
    (hrest : ∀ ok values, Keeps features values (rest ok)) :
    Ends (Dac.setFeatureValue device g v >>= rest) (s.withAnswers call.answers)
      (fun _ => Holding features fun f => (call.stored device features f).getD (values f))
      fun _ _ => False := by
  rw [getD_stored hchosen]
  exact Ends.bind ((h.withAnswers call.answers).setFeatureValue g v) fun ok s' hs' =>
    hrest ok _ s' hs'

/-- A call that chooses nothing keeps what the service holds. -/
theorem Holding.keep (h : Holding features values s) {call : PanelCall}
    (hchosen : call.op.chosen = none)
    (hkeeps : Keeps features values (call.op.program device features)) :
    Ends (call.op.program device features) (s.withAnswers call.answers)
      (fun _ => Holding features fun f => (call.stored device features f).getD (values f))
      fun _ _ => False := by
  have hsame : (fun f => (call.stored device features f).getD (values f)) = values := by
    funext f
    rw [PanelCall.stored, hchosen, Option.getD_none]
  rw [hsame]
  exact hkeeps _ (h.withAnswers call.answers)

/-- A call leaves all settings as they are, but for the one it is about. -/
theorem Holding.program (h : Holding features values s) (call : PanelCall) :
    Ends (call.op.program device features) (s.withAnswers call.answers)
      (fun _ => Holding features fun f => (call.stored device features f).getD (values f))
      fun _ _ => False := by
  obtain ⟨op, answers⟩ := call
  cases op with
  | enable => exact h.keep rfl (QuadDAC.keeps_enable device features)
  | disable => exact h.keep rfl (Keeps.bind (Keeps.setHifiDacState false) fun _ => Keeps.pure _)
  | setDACMode | setLeftBalance | setRightBalance | setAVCVolume =>
      exact h.choose rfl fun _ _ => Keeps.pure _
  | setDigitalFilter filter => exact h.choose rfl fun _ _ => QuadDAC.keeps_reapplyShape _
  | setSoundPreset preset =>
      by_cases hpresent : features.contains .soundPreset = true
      · have hprogram : (PanelOp.setSoundPreset preset).program device features =
            (do let _ ← Dac.setFeatureValue device .soundPreset preset) := if_pos hpresent
        rw [hprogram]
        exact h.choose rfl fun _ _ => Keeps.pure _
      · have hprogram : (PanelOp.setSoundPreset preset).program device features = pure ⟨⟩ :=
          if_neg hpresent
        have hrefused : stores device features answers .soundPreset preset = false := by
          rw [stores, Bool.eq_false_iff.mpr hpresent]
          rfl
        rw [hprogram, ends_pure, getD_stored rfl, hrefused]
        exact h.withAnswers answers
  | setCustomFilterShape shape =>
      exact h.keep rfl (Keeps.bind (Keeps.of_moves (moves_setCustomFilterShape shape))
        fun _ => Keeps.pure _)
  | setCustomFilterSymmetry symmetry =>
      exact h.keep rfl (Keeps.bind (Keeps.of_moves (moves_setCustomFilterSymmetry symmetry))
        fun _ => Keeps.pure _)
  | setCustomFilterCoeff coeffIndex coeff =>
      have hindex : coeffProperty (Int32.ofNat coeffIndex) ≠ none :=
        coeffProperty_isSome (List.mem_map.mpr
          ⟨coeffIndex, List.mem_range.mpr coeffIndex.isLt, rfl⟩)
      exact h.keep rfl (Keeps.bind (Keeps.of_moves (moves_setCustomFilterCoeff hindex coeff))
        fun _ => Keeps.pure _)
  | resetCustomFilterCoeffs =>
      exact h.keep rfl (Keeps.bind (Keeps.of_moves moves_resetCustomFilterCoeffs)
        fun _ => Keeps.pure _)

/-- The settings after a call. -/
theorem Holding.next (h : Holding features values s) (device : Device) (call : PanelCall) :
    Holding features (fun f => (call.stored device features f).getD (values f))
      (call.next device features s) :=
  ((h.program call).mono (fun _ _ h => h) fun _ _ h => h.elim).holds

/-- The service survives the call. -/
def PanelCall.Survives (device : Device) (dacFeatures : List Feature) (s : DacState)
    (call : PanelCall) : Prop :=
  stops (call.op.program device dacFeatures) (s.withAnswers call.answers) = false

/-- No call stops the service. -/
theorem Holding.survives (h : Holding features values s) (call : PanelCall) :
    call.Survives device features s := by
  rw [PanelCall.Survives, ← Bool.not_eq_true]
  intro hstops
  obtain ⟨-, hfalse⟩ := Ends.of_stops (h.program call) hstops
  exact hfalse

/-- After any calls a setting has the value that was stored last. The induction is on the calls. -/
theorem Holding.run (h : Holding features values s) (calls : List PanelCall) :
    Holding features (fun f => latest (PanelCall.stored device features f) (values f) calls)
        (run (PanelCall.next device features) s calls) ∧
      Admits (PanelCall.next device features) (PanelCall.Survives device features) s calls := by
  induction calls generalizing s values with
  | nil => exact ⟨h, trivial⟩
  | cons call rest ih =>
      have hnext := h.next device call
      exact ⟨(ih hnext).1, h.survives call, (ih hnext).2⟩

/-- Every feature of the first service has a value. -/
theorem firstService_reads : ∀ f ∈ firstService.mSupportedFeatures,
    firstService.getFeatureValue f = some ((firstService.getFeatureValue f).getD 0) := by
  decide +kernel

/-- The user moves the balance, which is not stored the second time, and switches the DAC off and
on again. -/
def balanced : List PanelCall :=
  [⟨.enable, {}⟩, ⟨.setLeftBalance 5, {}⟩,
    ⟨.setLeftBalance 6, { propertySets := [false] }⟩, ⟨.disable, {}⟩, ⟨.enable, {}⟩]

end LgeHardware.Dac
