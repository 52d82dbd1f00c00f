import LgeHardware.Dac.Settings

/-! # What the operations of the service leave alone

Setting a feature touches the node and the property of that feature; the operations of the
custom filter touch its node and its sixteen properties. None of them changes which
features there are.
-/

namespace LgeHardware.Dac

open LgeHardware.Foundation

/-- Only nodes and properties of an area are written, and answers that all succeed go on to
do so. -/
structure Frame (paths properties : String → Prop) (s s' : DacState) : Prop where
  log : ∃ writes, s'.writes = s.writes ++ writes ∧ ∀ write ∈ writes, paths write.1
  stored : ∀ p, ¬properties p → s'.properties[p]? = s.properties[p]?
  sets : s.answers.sets = [] → s'.answers.sets = []
  propertySets : s.answers.propertySets = [] → s'.answers.propertySets = []

/-- The object is the same but for what it has done to the outside. -/
structure SameService (s s' : DacState) : Prop where
  features : s'.mSupportedFeatures = s.mSupportedFeatures
  states : s'.mSupportedStates = s.mSupportedStates
  version : s'.usedVersion = s.usedVersion
  audio : s'.mAudioDevice = s.mAudioDevice

/-! ## The area of each operation -/

def FeaturePath (f : Feature) (node : String) : Prop :=
  ∃ k, f.setting = some k ∧ k.path = node

def FeatureProperty (f : Feature) (p : String) : Prop := ∃ default, f.source = some (p, default)

def CustomPath (node : String) : Prop := node = customFilterPath

def customFilterProperties : List String :=
  propertyCustomFilterShape :: propertyCustomFilterSymmetry :: propertyCustomFilterCoeffs

def CustomProperty (p : String) : Prop := p ∈ customFilterProperties

theorem not_customPath_of_featurePath {f : Feature} {node : String} (h : FeaturePath f node) :
    ¬CustomPath node := by
  obtain ⟨k, hk, rfl⟩ := h
  have hpaths : ∀ f : Feature, f.setting.map Setting.path ≠ some customFilterPath := by
    intro f
    cases f <;> decide +kernel
  intro hnode
  apply hpaths f
  rw [hk, Option.map_some, hnode]

theorem not_customProperty_of_source {f : Feature} {p : String} {default : Int32}
    (h : f.source = some (p, default)) : ¬CustomProperty p := by
  have hnames : ∀ f : Feature, ∀ q ∈ f.source.map Prod.fst, q ∉ customFilterProperties := by
    intro f
    cases f <;> decide +kernel
  apply hnames f
  rw [h]
  rfl

/-! ## Frames compose -/

section

variable {paths properties : String → Prop} {mayStop : Prop}

theorem Frame.refl (s : DacState) : Frame paths properties s s where
  log := ⟨[], (List.append_nil _).symm, fun _ h => absurd h List.not_mem_nil⟩
  stored _ _ := rfl
  sets := id
  propertySets := id

theorem Frame.trans {s t u : DacState} (h : Frame paths properties s t)
    (h' : Frame paths properties t u) : Frame paths properties s u where
  log := by
    obtain ⟨first, hfirst, hpaths⟩ := h.log
    obtain ⟨second, hsecond, hpaths'⟩ := h'.log
    refine ⟨first ++ second, ?_, ?_⟩
    · rw [hsecond, hfirst, List.append_assoc]
    · intro write hwrite
      rcases List.mem_append.mp hwrite with hwrite | hwrite
      · exact hpaths write hwrite
      · exact hpaths' write hwrite
  stored p hp := (h'.stored p hp).trans (h.stored p hp)
  sets hs := h'.sets (h.sets hs)
  propertySets hs := h'.propertySets (h.propertySets hs)

theorem Frame.mono {paths' properties' : String → Prop} (hpaths : ∀ node, paths node → paths' node)
    (hproperties : ∀ p, properties p → properties' p) {s s' : DacState}
    (h : Frame paths properties s s') : Frame paths' properties' s s' where
  log := by
    obtain ⟨writes, hwrites, hin⟩ := h.log
    exact ⟨writes, hwrites, fun write hwrite => hpaths _ (hin write hwrite)⟩
  stored p hp := h.stored p fun hin => hp (hproperties p hin)
  sets := h.sets
  propertySets := h.propertySets

/-- Nodes outside of the area hold what they held. -/
theorem Frame.written {s s' : DacState} (h : Frame paths properties s s') {node : String}
    (hnode : ¬paths node) : s'.lastWritten node = s.lastWritten node := by
  obtain ⟨writes, hwrites, hin⟩ := h.log
  have hnone : writes.reverse.find? (·.1 = node) = none := by
    rw [List.find?_eq_none]
    intro write hwrite heq
    rw [decide_eq_true_eq] at heq
    exact hnode (heq ▸ hin write (List.mem_reverse.mp hwrite))
  rw [DacState.lastWritten, DacState.lastWritten, hwrites, List.reverse_append, List.find?_append,
    hnone]
  rfl

theorem Frame.afterSet (s : DacState) {path : String} (text : String) (hpath : paths path) :
    Frame paths properties s (s.afterSet path text) where
  log := by
    rw [DacState.afterSet]
    cases s.answers.sets.headD true with
    | true => exact ⟨[(path, text)], rfl, fun write hwrite => List.mem_singleton.mp hwrite ▸ hpath⟩
    | false => exact ⟨[], (List.append_nil _).symm, fun _ h => absurd h List.not_mem_nil⟩
  stored p _ := rfl
  sets hs := by
    rw [DacState.afterSet, hs]
    rfl
  propertySets := id

theorem Frame.afterPropertySet (s : DacState) {property : String} (value : String)
    (hproperty : properties property) :
    Frame paths properties s (s.afterPropertySet property value) where
  log := (Frame.refl s : Frame paths properties s s).log
  stored p hp := by
    rw [DacState.afterPropertySet]
    split
    next =>
      rw [Std.ExtTreeMap.getElem?_insert_of_eq, if_neg]
      rintro rfl
      exact hp hproperty
    next => rfl
  sets := id
  propertySets hs := by
    rw [DacState.afterPropertySet, hs]
    rfl

theorem Frame.afterSetParameters (s : DacState) (kv : KeyValue) :
    Frame paths properties s (s.afterSetParameters kv) where
  log := (Frame.refl s : Frame paths properties s s).log
  stored _ _ := rfl
  sets := id
  propertySets := id

/-- A property outside the frame keeps its value. -/
theorem Frame.propertyGet {s s' : DacState} (h : Frame paths properties s s') {p : String}
    (hp : ¬properties p) (default : String) :
    s'.propertyGet p default = s.propertyGet p default := by
  rw [DacState.propertyGet, DacState.propertyGet, h.stored p hp]

theorem SameService.refl (s : DacState) : SameService s s := ⟨rfl, rfl, rfl, rfl⟩

theorem SameService.trans {s t u : DacState} (h : SameService s t) (h' : SameService t u) :
    SameService s u where
  features := h'.features.trans h.features
  states := h'.states.trans h.states
  version := h'.version.trans h.version
  audio := h'.audio.trans h.audio

/-- A step within the area that leaves the object alone. -/
structure Step (paths properties : String → Prop) (s s' : DacState) : Prop where
  frame : Frame paths properties s s'
  same : SameService s s'

theorem Step.refl (s : DacState) : Step paths properties s s := ⟨Frame.refl s, SameService.refl s⟩

theorem Step.trans {s t u : DacState} (h : Step paths properties s t)
    (h' : Step paths properties t u) : Step paths properties s u :=
  ⟨h.frame.trans h'.frame, h.same.trans h'.same⟩

theorem Step.mono {paths' properties' : String → Prop} (hpaths : ∀ node, paths node → paths' node)
    (hproperties : ∀ p, properties p → properties' p) {s s' : DacState}
    (h : Step paths properties s s') : Step paths' properties' s s' :=
  ⟨h.frame.mono hpaths hproperties, h.same⟩

/-- Writing a node of the frame is a step. -/
theorem Step.afterSet (s : DacState) {path : String} (text : String) (hpath : paths path) :
    Step paths properties s (s.afterSet path text) :=
  ⟨Frame.afterSet s text hpath, rfl, rfl, rfl, rfl⟩

/-- Setting a property of the frame is a step. -/
theorem Step.afterPropertySet (s : DacState) {property : String} (value : String)
    (hproperty : properties property) :
    Step paths properties s (s.afterPropertySet property value) :=
  ⟨Frame.afterPropertySet s value hproperty, rfl, rfl, rfl, rfl⟩

/-- A write that fails touches nothing. -/
theorem Step.afterPropertySet_of_fails {s : DacState}
    (hfails : s.answers.propertySets.headD true = false) (property value : String) :
    Step paths properties s (s.afterPropertySet property value) where
  frame := {
    log := (Frame.refl s : Frame paths properties s s).log
    stored := fun p _ => by
      rw [DacState.afterPropertySet, hfails]
      rfl
    sets := id
    propertySets := fun hs => by
      rw [hs] at hfails
      cases hfails }
  same := ⟨rfl, rfl, rfl, rfl⟩

theorem Step.afterSetParameters (s : DacState) (kv : KeyValue) :
    Step paths properties s (s.afterSetParameters kv) :=
  ⟨Frame.afterSetParameters s kv, rfl, rfl, rfl, rfl⟩

/-! ## Each operation keeps to its area -/

theorem moves_set {path : String} (text : String) (hpath : paths path) :
    Moves (Step paths properties) mayStop (set path text) :=
  fun s => Step.afterSet s text hpath

theorem moves_propertySet {property : String} (value : String) (hproperty : properties property) :
    Moves (Step paths properties) mayStop (propertySet property value) :=
  fun s => Step.afterPropertySet s value hproperty

theorem moves_get : Moves (Step paths properties) mayStop (get : DacM DacState) := Step.refl

theorem moves_reading {α : Type} {getter : DacState → Option α}
    (hgetter : ∀ s, getter s = none → mayStop) :
    Moves (Step paths properties) mayStop (reading getter) := by
  intro s
  rw [ends_reading]
  cases hvalue : getter s with
  | some value => exact Step.refl s
  | none => exact ⟨hgetter s hvalue, Step.refl s⟩

theorem moves_setAudioHALParameters (kv : KeyValue) :
    Moves (Step paths properties) True (setAudioHALParameters kv) := by
  intro s
  rw [ends_setAudioHALParameters]
  split
  · exact Step.afterSetParameters s kv
  · exact ⟨trivial, Step.refl s⟩

theorem moves_bind {α β : Type} {x : DacM α} {f : α → DacM β}
    (hx : Moves (Step paths properties) mayStop x)
    (hf : ∀ a, Moves (Step paths properties) mayStop (f a)) :
    Moves (Step paths properties) mayStop (x >>= f) := by
  apply Moves.bind _ hx hf
  exact fun _ _ _ => Step.trans

theorem moves_pure {α : Type} (a : α) : Moves (Step paths properties) mayStop (pure a : DacM α) :=
  Moves.pure Step.refl a

end

theorem moves_setSoundPreset (device : Device) (v : Int32) :
    Moves (Step (FeaturePath .soundPreset) (FeatureProperty .soundPreset)) True
      (setSoundPreset device v) := by
  have hstore : ∀ rc : Bool,
      Moves (Step (FeaturePath .soundPreset) (FeatureProperty .soundPreset)) True
        (if rc = true then do
          let _ ← propertySet propertySoundPreset (toStr v)
          pure true
        else pure false : DacM Bool) := by
    intro rc
    apply Moves.ite
    · exact moves_bind (moves_propertySet _ ⟨0, rfl⟩) fun _ => moves_pure true
    · exact moves_pure false
  rw [setSoundPreset]
  apply Moves.ite
  · exact moves_bind (moves_setAudioHALParameters _) hstore
  · exact moves_bind (moves_pure true) hstore

/-- Setting a feature moves its own node and property only. -/
theorem moves_setFeatureValue (device : Device) (f : Feature) (v : Int32) :
    Moves (Step (FeaturePath f) (FeatureProperty f)) True (setFeatureValue device f v) := by
  intro s
  by_cases hsupported : f ∈ s.mSupportedFeatures
  · cases hsetting : f.setting with
    | some k =>
        rw [Ends, setFeatureValue_setting device v hsetting hsupported]
        cases k.encode v with
        | none => exact Step.refl s
        | some text =>
            have hsource := Feature.source_of_setting hsetting
            exact (Step.afterSet s text ⟨k, hsetting, rfl⟩).trans
              (Step.afterPropertySet _ _ ⟨k.default, hsource⟩)
    | none =>
        by_cases hpreset : f = .soundPreset
        · subst hpreset
          rw [Ends, setFeatureValue_soundPreset device v hsupported]
          exact moves_setSoundPreset device v s
        · rw [Ends, setFeatureValue_of_setting_eq_none device v hsetting hpreset]
          exact Step.refl s
  · rw [Ends, setFeatureValue_of_notMem device hsupported]
    exact Step.refl s

/-- Switching the DAC moves no node and no property. -/
theorem moves_setHifiDacState (enable : Bool) :
    Moves (Step (fun _ => False) fun _ => False) True (setHifiDacState enable) :=
  moves_setAudioHALParameters _

section

variable {mayStop : Prop}

/-- Storing a part of the custom filter moves its property and the node of the filter. -/
theorem moves_storeCustomFilter {properties : String → Prop} {property : String}
    (hproperty : properties property) (value : Int32) :
    Moves (Step CustomPath properties) mayStop (storeCustomFilter property value) := by
  apply moves_bind (moves_propertySet _ hproperty)
  intro stored
  apply Moves.ite
  · apply moves_bind moves_get
    intro s
    exact moves_bind (moves_set _ rfl) fun _ => moves_pure true
  · exact moves_pure false

theorem customProperty_of_coeffProperty {i : Int32} {p : String} (h : coeffProperty i = some p) :
    CustomProperty p := by
  rw [coeffProperty] at h
  split at h
  next => cases h
  next => exact List.mem_cons_of_mem _ (List.mem_cons_of_mem _ (List.mem_of_getElem? h))

theorem moves_setCustomFilterShape (shape : Int32) :
    Moves (Step CustomPath CustomProperty) mayStop (setCustomFilterShape shape) := by
  apply moves_bind moves_get
  intro s
  apply Moves.ite
  · exact moves_pure false
  · exact moves_storeCustomFilter List.mem_cons_self _

theorem moves_setCustomFilterSymmetry (symmetry : Int32) :
    Moves (Step CustomPath CustomProperty) mayStop (setCustomFilterSymmetry symmetry) := by
  apply moves_bind moves_get
  intro s
  apply Moves.ite
  · exact moves_pure false
  · exact moves_storeCustomFilter (List.mem_cons_of_mem _ List.mem_cons_self) _

theorem moves_setCustomFilterCoeff {i : Int32} (hindex : coeffProperty i = none → mayStop)
    (value : Int32) :
    Moves (Step CustomPath CustomProperty) mayStop (setCustomFilterCoeff i value) := by
  apply moves_bind moves_get
  intro s
  apply Moves.ite
  · exact moves_pure false
  · cases hproperty : coeffProperty i with
    | none => exact Moves.throw Step.refl (hindex hproperty) ()
    | some p => exact moves_storeCustomFilter (customProperty_of_coeffProperty hproperty) value

theorem moves_resetCoeffs {properties : List String}
    (hproperties : ∀ p ∈ properties, CustomProperty p) :
    Moves (Step CustomPath CustomProperty) mayStop (resetCoeffs properties) := by
  induction properties with
  | nil => exact moves_pure true
  | cons p rest ih =>
      apply moves_bind (moves_propertySet _ (hproperties p List.mem_cons_self))
      intro stored
      apply Moves.ite
      · exact ih fun q hq => hproperties q (List.mem_cons_of_mem _ hq)
      · exact moves_pure false

/-- A reset moves nothing but the custom filter. -/
theorem moves_resetCustomFilterCoeffs :
    Moves (Step CustomPath CustomProperty) mayStop resetCustomFilterCoeffs := by
  apply moves_bind moves_get
  intro s
  apply Moves.ite
  · exact moves_pure false
  · apply moves_bind
    · exact moves_resetCoeffs fun p hp => List.mem_cons_of_mem _ (List.mem_cons_of_mem _ hp)
    · intro ok
      apply Moves.ite
      · apply moves_bind moves_get
        exact fun t => moves_bind (moves_set _ rfl) fun _ => moves_pure true
      · exact moves_pure false

theorem moves_restoreCoeffs {indices : List Int32}
    (hindices : ∀ i ∈ indices, coeffProperty i = none → mayStop) :
    Moves (Step CustomPath CustomProperty) mayStop (restoreCoeffs indices) := by
  induction indices with
  | nil => exact moves_pure _
  | cons i rest ih =>
      have hi := hindices i List.mem_cons_self
      apply moves_bind
      · apply moves_reading
        intro s hnone
        rw [DacState.getCustomFilterCoeff, Option.map_eq_none_iff] at hnone
        exact hi hnone
      · intro value
        apply moves_bind (moves_setCustomFilterCoeff hi value)
        exact fun _ => ih fun j hj => hindices j (List.mem_cons_of_mem _ hj)

theorem coeffProperty_isSome {i : Int32} (hi : i ∈ coeffIndices) : coeffProperty i ≠ none := by
  have hall : coeffIndices.all fun i => (coeffProperty i).isSome := by decide +kernel
  exact Option.isSome_iff_ne_none.mp (List.all_eq_true.mp hall i hi)

/-- The restoring of the custom filter, once the feature is listed. -/
theorem moves_restoreCustomFilter_tail :
    Moves (Step CustomPath CustomProperty) mayStop (do
      let _ ← setCustomFilterShape (← get).getCustomFilterShape
      let _ ← setCustomFilterSymmetry (← get).getCustomFilterSymmetry
      restoreCoeffs coeffIndices) := by
  apply moves_bind moves_get
  intro s
  apply moves_bind (moves_setCustomFilterShape _)
  intro _
  apply moves_bind moves_get
  intro s
  apply moves_bind (moves_setCustomFilterSymmetry _)
  exact fun _ => moves_restoreCoeffs fun i hi hnone => absurd hnone (coeffProperty_isSome hi)

end

end LgeHardware.Dac
