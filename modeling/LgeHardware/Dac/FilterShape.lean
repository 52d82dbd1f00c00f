import LgeHardware.Dac.CustomFilter

/-! # The shape of the custom filter, applied again

The shape is stored as the number that the driver has for it, which is one more from the
fifth on, and is read back as it is stored. The settings application and the constructor
read the shape and set it again.
-/

namespace LgeHardware.Dac

open LgeHardware.Foundation

/-! ## The settings application -/

namespace QuadDAC

/-- `QuadDAC.setDigitalFilter`, with the features the application has found. -/
def setDigitalFilter (device : Device) (dacFeatures : List Feature) (filter : Int32) :
    DacM PUnit := do
  let _ ← setFeatureValue device .digitalFilter filter
  whenPresent (dacFeatures.contains .customFilter && filter == 3) do
    let s ← get
    let _ ← setCustomFilterShape s.getCustomFilterShape

def getCustomFilterCoeffs : List Int32 → DacM (List Int32)
  | [] => return []
  | i :: rest => do
      let coeff ← reading (·.getCustomFilterCoeff i)
      let coeffs ← getCustomFilterCoeffs rest
      return coeff :: coeffs

def setCustomFilterCoeffs : List (Int32 × Int32) → DacM PUnit
  | [] => return ⟨⟩
  | (i, coeff) :: rest => do
      let _ ← setCustomFilterCoeff i coeff
      setCustomFilterCoeffs rest

/-- The custom filter is read as a whole before it is set again. -/
def reapplyCustomFilter : DacM PUnit := do
  let s ← get
  let coeffs ← getCustomFilterCoeffs coeffIndices
  let _ ← setCustomFilterShape s.getCustomFilterShape
  let _ ← setCustomFilterSymmetry s.getCustomFilterSymmetry
  setCustomFilterCoeffs (coeffIndices.zip coeffs)

def reapplySoundPreset (device : Device) : DacM PUnit := do
  let preset ← reading (·.getFeatureValue .soundPreset)
  let _ ← setFeatureValue device .soundPreset preset

/-- `QuadDAC.enable`. It ends early where the service fails, without an error of its own. -/
def enable (device : Device) (dacFeatures : List Feature) : DacM PUnit := do
  let _ ← setHifiDacState true
  let mode ← reading (·.getFeatureValue .hifiMode)
  let leftBalance ← reading (·.getFeatureValue .balanceLeft)
  let rightBalance ← reading (·.getFeatureValue .balanceRight)
  let avcVol ← reading (·.getFeatureValue .avcVolume)
  let digitalFilter ← reading (·.getFeatureValue .digitalFilter)
  let _ ← setFeatureValue device .hifiMode mode
  let _ ← setFeatureValue device .balanceLeft leftBalance
  let _ ← setFeatureValue device .balanceRight rightBalance
  let _ ← setFeatureValue device .avcVolume avcVol
  setDigitalFilter device dacFeatures digitalFilter
  whenPresent (dacFeatures.contains .soundPreset) (reapplySoundPreset device)
  whenPresent (dacFeatures.contains .customFilter) reapplyCustomFilter

end QuadDAC

/-! ## Runs -/

/-- The ways in which a shape is applied again. -/
inductive ReapplyOp
  | reapply
  | restart
  | enable (dacFeatures : List Feature)
  | setDigitalFilter (dacFeatures : List Feature) (filter : Int32)

def ReapplyOp.program (device : Device) : ReapplyOp → DacM PUnit
  | reapply => do
      let s ← get
      let _ ← setCustomFilterShape s.getCustomFilterShape
  | restart => construct device
  | enable dacFeatures => QuadDAC.enable device dacFeatures
  | setDigitalFilter dacFeatures filter => QuadDAC.setDigitalFilter device dacFeatures filter

/-- One of them, with what the writes to nodes and the calls of the audio HAL end with. All
properties can be written. -/
structure Reapplication where
  op : ReapplyOp
  sets : List Bool := []
  setParameters : List Bool := []

def Reapplication.next (device : Device) (s : DacState) (r : Reapplication) : DacState :=
  final (r.op.program device)
    (s.withAnswers { sets := r.sets, setParameters := r.setParameters })

/-- The shape is what is stored and what the node has got, in every text so far. -/
def HasShape (shape : Int32) (s : DacState) : Prop :=
  s.getCustomFilterShape = shape ∧
    ∀ write ∈ s.writes, write.1 = customFilterPath → firstField write.2 = toStr shape

/-- The service right after the shape was set. Only what is written from then on counts. -/
def afterSetShape (s : DacState) (shape : Int32) (sets : List Bool) : DacState :=
  final (setCustomFilterShape shape) { s with writes := [], answers := { sets := sets } }

/-- The shape is there right after it was set, and stays. -/
def ShapeSurvives (device : Device) (s : DacState) (shape : Int32) (sets : List Bool) : Prop :=
  ∀ rs, Throughout (Reapplication.next device) (HasShape shape) (afterSetShape s shape sets) rs

/-! ## Shapes up to 4 -/

/-- The shape holds, and properties can be written. -/
def KeepsShape (shape : Int32) (s : DacState) : Prop :=
  s.answers.propertySets = [] ∧ HasShape shape s

variable {s s' : DacState} {shape : Int32}

/-- The first number that is written to the node is the shape. -/
theorem firstField_parse (s : DacState) :
    firstField s.parseUpdatedCustomFilterData = toStr s.getCustomFilterShape := by
  rw [DacState.parseUpdatedCustomFilterData_eq]
  exact firstField_commaSeparated _ _

/-- Only its own property changes the shape. -/
theorem getCustomFilterShape_afterPropertySet {p : String} (value : Int32)
    (hsets : s.answers.propertySets = []) :
    (s.afterPropertySet p (toStr value)).getCustomFilterShape =
      if p = propertyCustomFilterShape then value else s.getCustomFilterShape := by
  have hok : s.answers.propertySets.headD true = true := by
    rw [hsets]
    rfl
  rw [DacState.getCustomFilterShape, DacState.propertyGetInt32,
    DacState.propertyGet_afterPropertySet _ (toStr_ne_empty value)]
  by_cases hp : p = propertyCustomFilterShape
  · rw [if_pos ⟨hok, hp⟩, if_pos hp, readInt32_toStr]
    rfl
  · rw [if_neg (fun h => hp h.2), if_neg hp]
    rfl

/-- Storing another number, or the shape itself. -/
theorem keepsShape_store (hsets : s.answers.propertySets = []) {p : String} {value : Int32}
    (hshape : (if p = propertyCustomFilterShape then value else s.getCustomFilterShape) = shape)
    (hwrites : ∀ write ∈ s.writes, write.1 = customFilterPath → firstField write.2 = toStr shape) :
    Ends (storeCustomFilter p value) s (fun _ => KeepsShape shape) fun _ => KeepsShape shape := by
  have hok : s.answers.propertySets.headD true = true := by
    rw [hsets]
    rfl
  rw [← getCustomFilterShape_afterPropertySet value hsets] at hshape
  rw [Ends, storeCustomFilter_eq, if_pos hok]
  refine ⟨?_, hshape, ?_⟩
  · change s.answers.propertySets.tail = []
    rw [hsets]
    rfl
  · intro write hwrite hpath
    change write ∈ (if _ then s.writes ++ [_] else s.writes) at hwrite
    split at hwrite
    next =>
      rcases List.mem_append.mp hwrite with hold | hnew
      · exact hwrites write hold hpath
      · rw [List.mem_singleton.mp hnew, firstField_parse, hshape]
    next => exact hwrites write hwrite hpath

/-- A shape up to 4 is an invariant of the calls of the filter. -/
theorem filterInvariant_keepsShape (hsmall : shape ≤ 4) : FilterInvariant (KeepsShape shape) where
  started _ _ _ h := h
  listing _ _ _ h := h
  outside paths properties s t hpaths hproperties hstep h := by
    refine ⟨hstep.frame.propertySets h.1, ?_, ?_⟩
    · rw [← h.2.1]
      exact propertyGetInt32_congr
        (hstep.frame.stored _ (hproperties _ List.mem_cons_self)) 0
    · obtain ⟨writes, hwrites, hin⟩ := hstep.frame.log
      intro write hwrite hpath
      rw [hwrites] at hwrite
      rcases List.mem_append.mp hwrite with hold | hnew
      · exact h.2.2 write hold hpath
      · exact absurd (hpath ▸ hin write hnew) hpaths
  shape s h := by
    apply keepsShape_store h.1 _ h.2.2
    rw [if_pos rfl, h.2.1, encodeShape, if_pos hsmall]
  store p value _ hp s h := by
    apply keepsShape_store h.1 _ h.2.2
    rw [if_neg hp, h.2.1]

/-! ## The ways of applying it again -/

namespace FilterInvariant

variable {invariant : DacState → Prop} (h : FilterInvariant invariant)

theorem whenPresent {present : Bool} {part : DacM PUnit} (hpart : Preserves invariant part) :
    Preserves invariant (whenPresent present part) :=
  Preserves.ite hpart (Preserves.pure _)

include h

/-- The shape that is read is set again, whatever comes between. -/
theorem reapply {α : Type} {rest : DacM α} (hrest : Preserves invariant rest) :
    Preserves invariant (do
      let s ← get
      let _ ← setCustomFilterShape s.getCustomFilterShape
      rest) := by
  intro s hs
  have hshape := h.reapplyShape s hs
  rw [ends_bind, ends_get] at hshape ⊢
  exact Ends.bind hshape fun _ t ht => hrest t ht

theorem setDigitalFilter (device : Device) (dacFeatures : List Feature) (filter : Int32) :
    Preserves invariant (QuadDAC.setDigitalFilter device dacFeatures filter) := by
  apply Preserves.bind (h.setFeatureValue device .digitalFilter filter)
  exact fun _ => whenPresent (h.reapply (Preserves.pure _))

theorem setCustomFilterCoeffs (coeffs : List (Int32 × Int32)) :
    Preserves invariant (QuadDAC.setCustomFilterCoeffs coeffs) := by
  induction coeffs with
  | nil => exact Preserves.pure _
  | cons entry rest ih => exact Preserves.bind (h.setCustomFilterCoeff entry.1 entry.2) fun _ => ih

omit h in
/-- Reading the coefficients changes nothing. -/
theorem ends_getCustomFilterCoeffs (indices : List Int32) (s : DacState) :
    Ends (QuadDAC.getCustomFilterCoeffs indices) s (fun _ t => t = s) fun _ t => t = s := by
  induction indices with
  | nil => rfl
  | cons i rest ih =>
      rw [QuadDAC.getCustomFilterCoeffs, ends_bind, ends_reading]
      split
      next =>
        rw [ends_bind]
        exact ih.mono (fun _ _ ht => ht) fun _ _ ht => ht
      next => rfl

/-- Applying the filter again keeps the invariant. -/
theorem reapplyCustomFilter : Preserves invariant QuadDAC.reapplyCustomFilter := by
  intro s hs
  rw [QuadDAC.reapplyCustomFilter, ends_bind, ends_get, ends_bind]
  apply (ends_getCustomFilterCoeffs coeffIndices s).mono
  · rintro coeffs _ rfl
    have hshape := h.reapplyShape _ hs
    rw [ends_bind, ends_get] at hshape
    apply Ends.bind hshape
    intro _ t ht
    apply Ends.bind (h.setCustomFilterSymmetry _ t ht)
    exact fun _ u hu => h.setCustomFilterCoeffs _ u hu
  · rintro _ _ rfl
    exact hs

/-- Switching the DAC on keeps the invariant. -/
theorem enable (device : Device) (dacFeatures : List Feature) :
    Preserves invariant (QuadDAC.enable device dacFeatures) := by
  apply Preserves.bind (h.setHifiDacState true)
  intro _
  apply Preserves.bind (reading _)
  intro mode
  apply Preserves.bind (reading _)
  intro leftBalance
  apply Preserves.bind (reading _)
  intro rightBalance
  apply Preserves.bind (reading _)
  intro avcVol
  apply Preserves.bind (reading _)
  intro digitalFilter
  apply Preserves.bind (h.setFeatureValue device _ mode)
  intro _
  apply Preserves.bind (h.setFeatureValue device _ leftBalance)
  intro _
  apply Preserves.bind (h.setFeatureValue device _ rightBalance)
  intro _
  apply Preserves.bind (h.setFeatureValue device _ avcVol)
  intro _
  apply Preserves.bind (h.setDigitalFilter device dacFeatures digitalFilter)
  intro _
  apply Preserves.bind
  · apply whenPresent
    apply Preserves.bind (reading _)
    intro preset
    exact Preserves.bind (h.setFeatureValue device _ preset) fun _ => Preserves.pure _
  · exact fun _ => whenPresent h.reapplyCustomFilter

theorem program (device : Device) (op : ReapplyOp) : Preserves invariant (op.program device) := by
  cases op with
  | reapply => exact h.reapply (Preserves.pure _)
  | restart => exact h.construct device
  | enable dacFeatures => exact h.enable device dacFeatures
  | setDigitalFilter dacFeatures filter => exact h.setDigitalFilter device dacFeatures filter

end FilterInvariant

/-! ## Which shapes survive -/

/-- A small shape survives one more re-application. -/
theorem HasShape.next (h : HasShape shape s) (hsmall : shape ≤ 4) (device : Device)
    (r : Reapplication) : HasShape shape (r.next device s) := by
  have hstart : KeepsShape shape
      (s.withAnswers { sets := r.sets, setParameters := r.setParameters }) := ⟨rfl, h⟩
  exact (((filterInvariant_keepsShape hsmall).program device r.op).final hstart).2

/-- Right after it was set, the shape is the number it is stored as. -/
theorem hasShape_afterSetShape (hsupported : Feature.customFilter ∈ s.mSupportedFeatures)
    (sets : List Bool) (shape : Int32) :
    HasShape (encodeShape shape) (afterSetShape s shape sets) := by
  have hends : Ends (setCustomFilterShape shape)
      { s with writes := [], answers := { sets := sets } }
      (fun _ => KeepsShape (encodeShape shape)) fun _ => KeepsShape (encodeShape shape) := by
    have hlisted : Feature.customFilter ∈
        ({ s with writes := [], answers := { sets := sets } } : DacState).mSupportedFeatures :=
      hsupported
    apply (ends_guarded hlisted _).mpr
    exact keepsShape_store rfl (if_pos rfl) fun _ h => absurd h List.not_mem_nil
  exact hends.holds.2

/-- The kernel has another number for the shapes from 5 on. -/
theorem encodeShape_eq_iff (shape : Int32) : encodeShape shape = shape ↔ shape ≤ 4 := by
  constructor
  · intro heq
    by_contra hlarge
    rw [encodeShape, if_neg hlarge, Int32.add_eq_left] at heq
    exact absurd heq (by decide)
  · exact fun hsmall => if_pos hsmall

/-- A shape is there after it was set, and stays however often it is applied again, exactly
if it is stored as it is. -/
theorem shapeSurvives_iff (device : Device) (s : DacState)
    (hsupported : Feature.customFilter ∈ s.mSupportedFeatures) (shape : Int32)
    (sets : List Bool) : ShapeSurvives device s shape sets ↔ shape ≤ 4 := by
  have hset := hasShape_afterSetShape hsupported sets shape
  constructor
  · intro hsurvives
    have hread : (afterSetShape s shape sets).getCustomFilterShape = shape := (hsurvives []).1
    rw [hset.1] at hread
    exact (encodeShape_eq_iff shape).mp hread
  · intro hsmall rs
    rw [(encodeShape_eq_iff shape).mpr hsmall] at hset
    apply (Admits.always _ rs).throughout (HasShape shape) _ (fun _ h => h) hset
    exact fun t r ht _ => ht.next hsmall device r

/-- The service after its first start on a device with every feature. -/
def firstService : DacState := final (construct {}) {}

theorem shapeSurvives_iff_fourth : ShapeSurvives {} firstService 4 [] ↔ (4 : Int32) ≤ 4 :=
  shapeSurvives_iff {} firstService (by decide +kernel) 4 []

/-- Shape 5 is 6 right after it was set. -/
theorem not_shapeSurvives_fifth :
    Feature.customFilter ∈ firstService.mSupportedFeatures ∧
      (afterSetShape firstService 5 []).getCustomFilterShape ≠ 5 ∧
      ¬ShapeSurvives {} firstService 5 [] := by
  have hread : (afterSetShape firstService 5 []).getCustomFilterShape ≠ 5 := by decide +kernel
  exact ⟨by decide +kernel, hread, fun hsurvives => hread (hsurvives []).1⟩

end LgeHardware.Dac
