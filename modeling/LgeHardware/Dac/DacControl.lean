import LgeHardware.Foundation.Decimal
import LgeHardware.Foundation.OrdMap
import LgeHardware.Foundation.Staged

/-! # The DAC control service

`DacControl` keeps each setting of the DAC twice: in a persistent property, and in a node
of the kernel driver. Its constructor finds out which features the device has and applies
the stored settings again.
-/

namespace LgeHardware.Dac

open LgeHardware.Foundation

/-! ## Features and their values -/

inductive Feature
  | quadDac
  | soundPreset
  | digitalFilter
  | balanceLeft
  | balanceRight
  | hifiMode
  | avcVolume
  | customFilter
  deriving DecidableEq, Repr

structure KeyValue where
  name : String
  value : String
  deriving DecidableEq, Repr

/-- The fields are floats in the interface; the service only puts integers there. -/
structure Range where
  max : Int32 := 0
  min : Int32 := 0
  step : Int32 := 0
  deriving DecidableEq, Repr

/-- If there are no states, the range counts. -/
structure FeatureStates where
  states : List KeyValue := []
  range : Range := {}
  deriving DecidableEq, Repr

def maxBalanceValue : Int32 := 0
def minBalanceValue : Int32 := -12

def soundPresets : List KeyValue :=
  [⟨"Normal", "0"⟩, ⟨"Enhanced", "1"⟩, ⟨"Detailed", "2"⟩, ⟨"Live", "3"⟩, ⟨"Bass", "4"⟩]

def digitalFilters : List KeyValue := [⟨"Short", "0"⟩, ⟨"Sharp", "1"⟩, ⟨"Slow", "2"⟩]

def hifiModes : List KeyValue :=
  [⟨"Normal", "0"⟩, ⟨"High Impedance", "1"⟩, ⟨"AUX High Impedance", "2"⟩]

/-! ## Nodes and properties -/

def commonEs9218Path : String := "/sys/kernel/es9218_dac/"

def avcPath : String := commonEs9218Path ++ "avc_volume"
def volumeLeftPath : String := commonEs9218Path ++ "left_volume"
def volumeRightPath : String := commonEs9218Path ++ "right_volume"
def hifiPath : String := commonEs9218Path ++ "headset_type"
def essFilterPath : String := commonEs9218Path ++ "ess_filter"
def customFilterPath : String := commonEs9218Path ++ "ess_custom_filter"

def propertyDigitalFilter : String := "persist.vendor.audio.ess.digitalFilter"
def propertySoundPreset : String := "persist.vendor.audio.ess.soundPreset"
def propertyLeftBalance : String := "persist.vendor.audio.ess.left_balance"
def propertyRightBalance : String := "persist.vendor.audio.ess.right_balance"
def propertyHifiDacMode : String := "persist.vendor.audio.ess.mode"
def propertyHifiDacAvcVolume : String := "persist.vendor.audio.ess.avc_volume"
def propertyCustomFilterShape : String := "persist.vendor.audio.ess.customFilterShape"
def propertyCustomFilterSymmetry : String := "persist.vendor.audio.ess.customFilterSymmetry"

def propertyCustomFilterCoeffs : List String :=
  ["persist.vendor.audio.ess.customFilterCoeff0",
    "persist.vendor.audio.ess.customFilterCoeff1",
    "persist.vendor.audio.ess.customFilterCoeff2",
    "persist.vendor.audio.ess.customFilterCoeff3",
    "persist.vendor.audio.ess.customFilterCoeff4",
    "persist.vendor.audio.ess.customFilterCoeff5",
    "persist.vendor.audio.ess.customFilterCoeff6",
    "persist.vendor.audio.ess.customFilterCoeff7",
    "persist.vendor.audio.ess.customFilterCoeff8",
    "persist.vendor.audio.ess.customFilterCoeff9",
    "persist.vendor.audio.ess.customFilterCoeff10",
    "persist.vendor.audio.ess.customFilterCoeff11",
    "persist.vendor.audio.ess.customFilterCoeff12",
    "persist.vendor.audio.ess.customFilterCoeff13"]

/-- `PROPERTY_CUSTOM_FILTER_COEFFS.at`, `none` where it throws. A negative index is a huge
one there. -/
def coeffProperty (coeffIndex : Int32) : Option String :=
  if coeffIndex < 0 then none else propertyCustomFilterCoeffs[coeffIndex.toInt.toNat]?

def avcVolumeDefault : Int32 := -14
def hifiModeDefault : Int32 := 0

/-! ## The state -/

inductive AudioVersion
  | v5
  | v6
  deriving DecidableEq, Repr

/-- The build of the service and what it finds on the device. `openDevice` says whether the
factory of a version gives the primary audio device. -/
structure Device where
  proprietaryAudioModule : Bool := false
  es9218 : Bool := true
  getService : AudioVersion → Bool := fun _ => true
  openDevice : AudioVersion → Bool := fun _ => true
  stat : String → Bool := fun _ => true

/-- How the next writes to nodes, writes of properties and calls of the audio HAL end. What
is not listed succeeds. -/
structure Answers where
  sets : List Bool := []
  propertySets : List Bool := []
  setParameters : List Bool := []
  deriving DecidableEq, Repr

/-- The service, the properties, and what it has written to nodes and sent to the audio
HAL, oldest first. -/
structure DacState where
  mSupportedFeatures : List Feature := []
  mSupportedStates : List (Feature × FeatureStates) := []
  usedVersion : Option AudioVersion := none
  mAudioDevice : Bool := false
  properties : Std.ExtTreeMap String String := ∅
  writes : List (String × String) := []
  parameters : List KeyValue := []
  answers : Answers := {}

/-- A call that throws where the service would end. -/
abbrev DacM := EStateM Unit DacState

namespace DacState

/-- `property_get`. -/
def propertyGet (s : DacState) (property default : String) : String :=
  match s.properties[property]? with
  | none => default
  | some value => if value = "" then default else value

/-- `property_get_int32`. -/
def propertyGetInt32 (s : DacState) (property : String) (default : Int32) : Int32 :=
  (readInt32 (s.propertyGet property "")).getD default

/-- The text that a node holds. -/
def lastWritten (s : DacState) (path : String) : Option String :=
  (s.writes.reverse.find? (·.1 = path)).map Prod.snd

/-- After a write to a node, which leaves the node where it fails. -/
def afterSet (s : DacState) (path value : String) : DacState :=
  { s with
    writes := if s.answers.sets.headD true then s.writes ++ [(path, value)] else s.writes
    answers := { s.answers with sets := s.answers.sets.tail } }

/-- After a write of a property, which leaves the property where it fails. -/
def afterPropertySet (s : DacState) (property value : String) : DacState :=
  { s with
    properties :=
      if s.answers.propertySets.headD true then s.properties.insert property value
      else s.properties
    answers := { s.answers with propertySets := s.answers.propertySets.tail } }

/-- After a call of the audio HAL. -/
def afterSetParameters (s : DacState) (kv : KeyValue) : DacState :=
  { s with
    parameters := s.parameters ++ [kv]
    answers := { s.answers with setParameters := s.answers.setParameters.tail } }

/-- Before a call, with what its writes and its calls of the audio HAL will end with. -/
def withAnswers (s : DacState) (answers : Answers) : DacState := { s with answers := answers }

end DacState

/-! ## Primitives -/

/-- Write a value to a node and close the file. False if that failed. -/
def set (path value : String) : DacM Bool := fun s =>
  .ok (s.answers.sets.headD true) (s.afterSet path value)

/-- `property_set(..) == 0`. -/
def propertySet (property value : String) : DacM Bool := fun s =>
  .ok (s.answers.propertySets.headD true) (s.afterPropertySet property value)

/-- A getter, which ends the service where it throws. -/
def reading {α : Type} (getter : DacState → Option α) : DacM α := fun s =>
  match getter s with
  | some value => .ok value s
  | none => .error () s

/-- A use of `mAudioDevice_V6_0` or `mAudioDevice_V5_0`, as `usedVersion` says. -/
def setAudioHALParameters (kv : KeyValue) : DacM Bool := fun s =>
  if s.usedVersion.isSome ∧ s.mAudioDevice = true then
    .ok (s.answers.setParameters.headD true) (s.afterSetParameters kv)
  else .error () s

/-! ## Settings -/

namespace DacState

def getHifiDacState (s : DacState) (device : Device) : Bool :=
  if device.proprietaryAudioModule then
    s.propertyGet "persist.vendor.lge.audio.hifi_dac" "OFF" = "ON"
  else s.propertyGet "persist.vendor.audio.hifi.enabled" "false" = "true"

/-- `none` where `std::stoi` throws. -/
def getFeatureValue (s : DacState) (feature : Feature) : Option Int32 :=
  if feature ∉ s.mSupportedFeatures then some (-1)
  else
    match feature with
    | .digitalFilter => stoi (s.propertyGet propertyDigitalFilter (toStr 0))
    | .soundPreset => stoi (s.propertyGet propertySoundPreset (toStr 0))
    | .balanceLeft => stoi (s.propertyGet propertyLeftBalance (toStr 0))
    | .balanceRight => stoi (s.propertyGet propertyRightBalance (toStr 0))
    | .avcVolume => stoi (s.propertyGet propertyHifiDacAvcVolume (toStr avcVolumeDefault))
    | .hifiMode => stoi (s.propertyGet propertyHifiDacMode (toStr hifiModeDefault))
    | _ => some 0

def getAvcVolumeStates : FeatureStates := { range := { min := -24, max := 0, step := 1 } }

def getHifiModeStates : FeatureStates := { states := hifiModes }

/-- `none` where the callback is not called. -/
def getSupportedFeatureValues (s : DacState) (feature : Feature) : Option FeatureStates :=
  match feature with
  | .avcVolume => some getAvcVolumeStates
  | .hifiMode => some getHifiModeStates
  | _ => (s.mSupportedStates.find? (·.1 = feature)).map Prod.snd

end DacState

def setHifiDacState (enable : Bool) : DacM Bool :=
  setAudioHALParameters ⟨"hifi_dac", if enable then "on" else "off"⟩

/-- A value in its node and in its property, as the four writers below put it there. -/
def writeState (path text property : String) (value : Int32) : DacM Bool := do
  let ok ← set path text
  let stored ← propertySet property (toStr value)
  return stored && ok

/-- The kernel wants a positive value. -/
def writeAvcVolumeState (value : Int32) : DacM Bool :=
  writeState avcPath (toStr ((-1) * value)) propertyHifiDacAvcVolume value

def writeHifiModeState (value : Int32) : DacM Bool :=
  writeState hifiPath (toStr value) propertyHifiDacMode value

/-- The number that the driver has for a filter. -/
def filterCode (value : Int32) : Option Int32 :=
  if value = 0 then some 9
  else if value = 1 then some 4
  else if value = 2 then some 5
  else if value = 3 then some 3
  else none

def setDigitalFilterState (value : Int32) : DacM Bool :=
  match filterCode value with
  | some filter => writeState essFilterPath (toStr filter) propertyDigitalFilter value
  | none => pure false

def setVolumeBalance (direction : Feature) (value : Int32) : DacM Bool :=
  match direction with
  | .balanceLeft => writeState volumeLeftPath (toStr value) propertyLeftBalance value
  | .balanceRight => writeState volumeRightPath (toStr value) propertyRightBalance value
  | _ => pure false

/-- The case of `SoundPreset` in `setFeatureValue`. Whether the property was written does
not count. -/
def setSoundPreset (device : Device) (value : Int32) : DacM Bool := do
  let rc ←
    if device.proprietaryAudioModule then setAudioHALParameters ⟨"SOUND_PRESET", toStr value⟩
    else pure true
  if rc then
    let _ ← propertySet propertySoundPreset (toStr value)
    return true
  else return false

def setFeatureValue (device : Device) (feature : Feature) (value : Int32) : DacM Bool := do
  if feature ∉ (← get).mSupportedFeatures then return false
  match feature with
  | .digitalFilter => setDigitalFilterState value
  | .soundPreset => setSoundPreset device value
  | .balanceLeft => setVolumeBalance .balanceLeft value
  | .balanceRight => setVolumeBalance .balanceRight value
  | .avcVolume => writeAvcVolumeState value
  | .hifiMode => writeHifiModeState value
  | _ => return false

/-! ## The custom filter -/

namespace DacState

def getCustomFilterShape (s : DacState) : Int32 := s.propertyGetInt32 propertyCustomFilterShape 0

def getCustomFilterSymmetry (s : DacState) : Int32 :=
  s.propertyGetInt32 propertyCustomFilterSymmetry 0

/-- `none` where the index is out of range. -/
def getCustomFilterCoeff (s : DacState) (coeffIndex : Int32) : Option Int32 :=
  (coeffProperty coeffIndex).map fun property => s.propertyGetInt32 property 0

/-- Shape, symmetry and the coefficients in their order, with commas between them. -/
def parseUpdatedCustomFilterData (s : DacState) : String :=
  toStr s.getCustomFilterShape ++ "," ++ (toStr s.getCustomFilterSymmetry ++ "," ++
    ",".intercalate
      (propertyCustomFilterCoeffs.map fun property => toStr (s.propertyGetInt32 property 0)))

end DacState

/-- A value in its property, and the whole filter in the node if that went well. -/
def storeCustomFilter (property : String) (value : Int32) : DacM Bool := do
  let stored ← propertySet property (toStr value)
  if stored then
    let _ ← set customFilterPath (← get).parseUpdatedCustomFilterData
    return true
  else return false

/-- Filter 5 is enumerated 6 by the driver, so that everything after it gets one more. -/
def setCustomFilterShape (shape : Int32) : DacM Bool := do
  if Feature.customFilter ∉ (← get).mSupportedFeatures then return false
  storeCustomFilter propertyCustomFilterShape (if shape ≤ 4 then shape else shape + 1)

def setCustomFilterSymmetry (symmetry : Int32) : DacM Bool := do
  if Feature.customFilter ∉ (← get).mSupportedFeatures then return false
  storeCustomFilter propertyCustomFilterSymmetry symmetry

def setCustomFilterCoeff (coeffIndex value : Int32) : DacM Bool := do
  if Feature.customFilter ∉ (← get).mSupportedFeatures then return false
  match coeffProperty coeffIndex with
  | none => throw ()
  | some property => storeCustomFilter property value

/-- The loop of `resetCustomFilterCoeffs`, which ends at the first property that cannot be
written. -/
def resetCoeffs : List String → DacM Bool
  | [] => return true
  | property :: rest => do
      let stored ← propertySet property "0"
      if stored then resetCoeffs rest else return false

def resetCustomFilterCoeffs : DacM Bool := do
  if Feature.customFilter ∉ (← get).mSupportedFeatures then return false
  if ← resetCoeffs propertyCustomFilterCoeffs then
    let _ ← set customFilterPath (← get).parseUpdatedCustomFilterData
    return true
  else return false

/-! ## The constructor -/

/-- After `mSupportedFeatures.push_back`, and `mSupportedStates.emplace` where there are any. -/
def DacState.listing (s : DacState) (feature : Feature) (states : Option FeatureStates) :
    DacState :=
  { s with
    mSupportedFeatures := s.mSupportedFeatures ++ [feature]
    mSupportedStates := s.mSupportedStates ++ (states.map fun st => (feature, st)).toList }

def support (feature : Feature) (states : Option FeatureStates) : DacM PUnit :=
  modify fun s => s.listing feature states

/-- A feature whose stored value the constructor applies through `setFeatureValue`. -/
def restoreFeature (device : Device) (feature : Feature) (states : FeatureStates) :
    DacM PUnit := do
  support feature (some states)
  let value ← reading (·.getFeatureValue feature)
  let _ ← setFeatureValue device feature value

def balanceStates : FeatureStates :=
  { range := { max := maxBalanceValue, min := minBalanceValue, step := 1 } }

def restoreAvcVolume : DacM PUnit := do
  support .avcVolume none
  let value ← reading (·.getFeatureValue .avcVolume)
  let _ ← writeAvcVolumeState value

def restoreHifiMode : DacM PUnit := do
  support .hifiMode none
  let value ← reading (·.getFeatureValue .hifiMode)
  let _ ← writeHifiModeState value

/-- The loop over the coefficients. -/
def restoreCoeffs : List Int32 → DacM PUnit
  | [] => return ⟨⟩
  | i :: rest => do
      let value ← reading (·.getCustomFilterCoeff i)
      let _ ← setCustomFilterCoeff i value
      restoreCoeffs rest

def coeffIndices : List Int32 := (List.range 14).map Int32.ofNat

def restoreCustomFilter : DacM PUnit := do
  support .customFilter none
  let _ ← setCustomFilterShape (← get).getCustomFilterShape
  let _ ← setCustomFilterSymmetry (← get).getCustomFilterSymmetry
  restoreCoeffs coeffIndices

/-- The new object has no features and no audio device yet. -/
def newObject : DacM PUnit :=
  modify fun s => { s with
    mSupportedFeatures := []
    mSupportedStates := []
    usedVersion := none
    mAudioDevice := false }

/-- The version of the audio HAL that the constructor finds. -/
def Device.version (device : Device) : Option AudioVersion :=
  if device.getService .v6 then some .v6
  else if device.getService .v5 then some .v5
  else none

/-- The constructor up to the open audio device, with whether it gets there. -/
def openAudioDevice (device : Device) : DacM Bool := do
  if device.es9218 = false then return false
  match device.version with
  | none => return false
  | some version =>
      modify fun s => { s with usedVersion := some version }
      if device.openDevice version = false then return false
      modify fun s => { s with mAudioDevice := true }
      return true

/-- A part of the constructor that some devices and builds do without. -/
def whenPresent (present : Bool) (part : DacM PUnit) : DacM PUnit :=
  if present = true then part else pure ⟨⟩

/-- The constructor from there on. -/
def restoreSettings (device : Device) : DacM PUnit := do
  support .quadDac none
  let _ ← setHifiDacState ((← get).getHifiDacState device)
  whenPresent (device.stat essFilterPath)
    (restoreFeature device .digitalFilter { states := digitalFilters })
  whenPresent device.proprietaryAudioModule
    (restoreFeature device .soundPreset { states := soundPresets })
  whenPresent (device.stat volumeLeftPath) (restoreFeature device .balanceLeft balanceStates)
  whenPresent (device.stat volumeRightPath) (restoreFeature device .balanceRight balanceStates)
  whenPresent (device.stat avcPath) restoreAvcVolume
  whenPresent (device.stat hifiPath) restoreHifiMode
  whenPresent (device.stat customFilterPath) restoreCustomFilter

/-- `DacControl::DacControl`, on the properties that earlier runs of the service have
stored. -/
def construct (device : Device) : DacM PUnit := do
  newObject
  if ← openAudioDevice device then restoreSettings device

/-! ## Rules -/

section

variable {s : DacState} {stop : Unit → DacState → Prop}

@[simp] theorem ends_set (path value : String) {post : Bool → DacState → Prop} :
    Ends (set path value) s post stop ↔
      post (s.answers.sets.headD true) (s.afterSet path value) := Iff.rfl

@[simp] theorem ends_propertySet (property value : String) {post : Bool → DacState → Prop} :
    Ends (propertySet property value) s post stop ↔
      post (s.answers.propertySets.headD true) (s.afterPropertySet property value) := Iff.rfl

/-- A getter that throws ends the computation. -/
theorem ends_reading {α : Type} (getter : DacState → Option α) {post : α → DacState → Prop} :
    Ends (reading getter) s post stop ↔
      match getter s with
      | some value => post value s
      | none => stop () s := by
  rw [Ends, reading]
  cases getter s with
  | none => rfl
  | some value => rfl

/-- The call crashes without an audio device. -/
theorem ends_setAudioHALParameters (kv : KeyValue) {post : Bool → DacState → Prop} :
    Ends (setAudioHALParameters kv) s post stop ↔
      if s.usedVersion.isSome ∧ s.mAudioDevice = true then
        post (s.answers.setParameters.headD true) (s.afterSetParameters kv)
      else stop () s := by
  rw [Ends, setAudioHALParameters]
  by_cases h : s.usedVersion.isSome ∧ s.mAudioDevice = true
  · rw [if_pos h, if_pos h]
  · rw [if_neg h, if_neg h]

end

/-! What one write changes. -/

namespace DacState

variable (s : DacState)

/-- A node has what was written to it last, if that write succeeded. -/
theorem lastWritten_afterSet (path text node : String) :
    (s.afterSet path text).lastWritten node =
      if s.answers.sets.headD true = true ∧ path = node then some text
      else s.lastWritten node := by
  rw [afterSet, lastWritten, lastWritten]
  cases s.answers.sets.headD true with
  | false => simp
  | true =>
      by_cases hpath : path = node
      · simp [hpath]
      · simp [hpath]

@[simp] theorem lastWritten_afterPropertySet (property value node : String) :
    (s.afterPropertySet property value).lastWritten node = s.lastWritten node := rfl

@[simp] theorem lastWritten_afterSetParameters (kv : KeyValue) (node : String) :
    (s.afterSetParameters kv).lastWritten node = s.lastWritten node := rfl

/-- A property has what it was set to last, if that succeeded. -/
theorem propertyGet_afterPropertySet {property value : String} (hvalue : value ≠ "")
    (other default : String) :
    (s.afterPropertySet property value).propertyGet other default =
      if s.answers.propertySets.headD true = true ∧ property = other then value
      else s.propertyGet other default := by
  rw [afterPropertySet, propertyGet, propertyGet]
  cases s.answers.propertySets.headD true with
  | false => simp
  | true =>
      by_cases hproperty : property = other
      · simp [hproperty, hvalue]
      · simp [Std.ExtTreeMap.getElem?_insert_of_eq, hproperty]

@[simp] theorem propertyGet_afterSet (path text other default : String) :
    (s.afterSet path text).propertyGet other default = s.propertyGet other default := rfl

@[simp] theorem propertyGet_afterSetParameters (kv : KeyValue) (other default : String) :
    (s.afterSetParameters kv).propertyGet other default = s.propertyGet other default := rfl

end DacState

end LgeHardware.Dac
