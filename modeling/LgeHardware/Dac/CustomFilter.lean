import LgeHardware.Dac.Restore
import LgeHardware.Foundation.Run

/-! # The custom filter and its node

The sixteen numbers of the custom filter are stored one by one, and the node gets all of
them as one text each time one of them has been stored. Resetting the coefficients stores
fourteen of them before the text is written.
-/

namespace LgeHardware.Dac

open LgeHardware.Foundation

/-! ## The text -/

namespace DacState

/-- Shape, symmetry and coefficients as they are stored. -/
def customFilter (s : DacState) : List Int32 :=
  customFilterProperties.map fun p => s.propertyGetInt32 p 0

theorem parseUpdatedCustomFilterData_eq (s : DacState) :
    s.parseUpdatedCustomFilterData = commaSeparated s.customFilter := by
  have hrest : (propertyCustomFilterCoeffs.map fun p => toStr (s.propertyGetInt32 p 0)) ≠ [] :=
    List.cons_ne_nil _ _
  have hmap : s.customFilter.map toStr = toStr s.getCustomFilterShape ::
      toStr s.getCustomFilterSymmetry ::
        propertyCustomFilterCoeffs.map fun p => toStr (s.propertyGetInt32 p 0) := by
    rw [customFilter, List.map_map]
    rfl
  rw [commaSeparated, hmap, String.intercalate_cons_cons, String.intercalate_cons_of_ne_nil hrest]
  rfl

/-- The node holds the text of the filter that is stored. -/
def InSync (s : DacState) : Prop :=
  s.lastWritten customFilterPath = some s.parseUpdatedCustomFilterData

instance (s : DacState) : Decidable s.InSync :=
  inferInstanceAs (Decidable (_ = _))

end DacState

variable {s s' : DacState}

theorem customFilter_ne_nil (s : DacState) : s.customFilter ≠ [] := List.cons_ne_nil _ _

/-- The custom filter depends on its properties only. -/
theorem customFilter_congr
    (h : ∀ p, CustomProperty p → s'.propertyGetInt32 p 0 = s.propertyGetInt32 p 0) :
    s'.customFilter = s.customFilter :=
  List.map_congr_left fun p hp => h p hp

theorem propertyGetInt32_congr {p : String} (h : s'.properties[p]? = s.properties[p]?)
    (default : Int32) : s'.propertyGetInt32 p default = s.propertyGetInt32 p default := by
  rw [DacState.propertyGetInt32, DacState.propertyGetInt32, DacState.propertyGet,
    DacState.propertyGet, h]

/-- A state with the same node and the same stored filter is in sync as well. -/
theorem DacState.inSync_congr (hwritten : s'.lastWritten customFilterPath =
      s.lastWritten customFilterPath) (hfilter : s'.customFilter = s.customFilter) :
    s'.InSync ↔ s.InSync := by
  rw [InSync, InSync, hwritten, parseUpdatedCustomFilterData_eq, parseUpdatedCustomFilterData_eq,
    hfilter]

/-- What keeps to an area without the custom filter leaves it alone. -/
theorem Step.customFilter {paths properties : String → Prop} (h : Step paths properties s s')
    (hproperties : ∀ p, CustomProperty p → ¬properties p) : s'.customFilter = s.customFilter :=
  customFilter_congr fun p hp => propertyGetInt32_congr (h.frame.stored p (hproperties p hp)) 0

/-! ## Storing one number -/

/-- The state after a number has been stored and the text has been written. -/
theorem storeCustomFilter_eq (property : String) (value : Int32) (s : DacState) :
    storeCustomFilter property value s =
      if s.answers.propertySets.headD true = true then
        .ok true ((s.afterPropertySet property (toStr value)).afterSet customFilterPath
          (s.afterPropertySet property (toStr value)).parseUpdatedCustomFilterData)
      else .ok false (s.afterPropertySet property (toStr value)) := by
  rw [storeCustomFilter]
  change EStateM.bind _ _ s = _
  rw [EStateM.bind, propertySet]
  cases s.answers.propertySets.headD true with
  | true => rfl
  | false => rfl

/-- Storing a number brings the node in line; where the property cannot be written, nothing
changes. -/
theorem inSync_storeCustomFilter (hsets : s.answers.sets = []) (property : String)
    (value : Int32) :
    Ends (storeCustomFilter property value) s
      (fun ok t => ok = s.answers.propertySets.headD true ∧
        (ok = true → t.InSync) ∧ (ok = false → t.customFilter = s.customFilter ∧
          t.lastWritten customFilterPath = s.lastWritten customFilterPath))
      fun _ _ => False := by
  rw [Ends, storeCustomFilter_eq]
  cases hstored : s.answers.propertySets.headD true with
  | true =>
      have hwritten :
          (s.afterPropertySet property (toStr value)).answers.sets.headD true = true := by
        change s.answers.sets.headD true = true
        rw [hsets]
        rfl
      refine ⟨rfl, fun _ => ?_, nofun⟩
      rw [DacState.InSync, DacState.lastWritten_afterSet, if_pos ⟨hwritten, rfl⟩]
      rfl
  | false =>
      have hstep : Step (fun _ => False) (fun _ => False) s
          (s.afterPropertySet property (toStr value)) :=
        Step.afterPropertySet_of_fails hstored property (toStr value)
      exact ⟨rfl, nofun, fun _ => ⟨hstep.customFilter fun _ _ => id, rfl⟩⟩

/-! ## The calls, where the feature is supported -/

section

variable (hsupported : Feature.customFilter ∈ s.mSupportedFeatures)
  {post : Bool → DacState → Prop} {stop : Unit → DacState → Prop}

include hsupported

/-- The guard of a call does not matter where the device has the custom filter. -/
theorem ends_guarded (x : DacM Bool) :
    Ends (do
      let current ← get
      if Feature.customFilter ∉ current.mSupportedFeatures then pure false else x) s post stop ↔
        Ends x s post stop := by
  rw [ends_bind, ends_get, if_neg (fun hnot => hnot hsupported)]

/-- The shape is stored under the number of the kernel. -/
theorem ends_setCustomFilterShape (shape : Int32) :
    Ends (setCustomFilterShape shape) s post stop ↔
      Ends (storeCustomFilter propertyCustomFilterShape (if shape ≤ 4 then shape else shape + 1))
        s post stop :=
  ends_guarded hsupported _

theorem ends_setCustomFilterSymmetry (symmetry : Int32) :
    Ends (setCustomFilterSymmetry symmetry) s post stop ↔
      Ends (storeCustomFilter propertyCustomFilterSymmetry symmetry) s post stop :=
  ends_guarded hsupported _

theorem ends_setCustomFilterCoeff {i : Int32} {p : String} (hi : coeffProperty i = some p)
    (value : Int32) :
    Ends (setCustomFilterCoeff i value) s post stop ↔
      Ends (storeCustomFilter p value) s post stop := by
  rw [setCustomFilterCoeff, hi]
  exact ends_guarded hsupported _

end

/-! ## Resetting -/

/-- The position of the first write that fails among the next ones, if there is one. -/
def firstFailure : Nat → List Bool → Option Nat
  | 0, _ => none
  | n + 1, answers =>
      if answers.headD true = true then (firstFailure n answers.tail).map (· + 1) else some 0

/-- The properties that the loop of the reset has made zero when it ends. -/
def zeroed (properties : List String) (answers : List Bool) : List String :=
  match firstFailure properties.length answers with
  | none => properties
  | some i => properties.take i

/-- Coefficients are zeroed up to the first property that is not set. -/
theorem zeroed_cons (p : String) (rest : List String) (answers : List Bool) :
    zeroed (p :: rest) answers =
      if answers.headD true = true then p :: zeroed rest answers.tail else [] := by
  rw [zeroed, List.length_cons, firstFailure]
  cases answers.headD true with
  | false => rfl
  | true =>
      rw [if_pos rfl, if_pos rfl, zeroed]
      cases firstFailure rest.length answers.tail with
      | none => rfl
      | some i => rfl

/-- A property that was zeroed reads as 0. -/
theorem propertyGetInt32_zero (s : DacState) {p : String}
    (hstored : s.answers.propertySets.headD true = true) :
    (s.afterPropertySet p "0").propertyGetInt32 p 0 = 0 := by
  rw [DacState.propertyGetInt32, DacState.propertyGet_afterPropertySet _ (by decide),
    if_pos ⟨hstored, rfl⟩]
  rfl

/-- The loop makes the properties before the first failure zero and touches nothing else. -/
theorem ends_resetCoeffs (properties : List String) (s : DacState) :
    Ends (resetCoeffs properties) s
      (fun ok t =>
        (ok = true ↔ firstFailure properties.length s.answers.propertySets = none) ∧
          Step (fun _ => False) (· ∈ zeroed properties s.answers.propertySets) s t ∧
          ∀ p ∈ zeroed properties s.answers.propertySets, t.propertyGetInt32 p 0 = 0)
      fun _ _ => False := by
  induction properties generalizing s with
  | nil => exact ⟨iff_of_true rfl rfl, Step.refl s, fun _ hp => absurd hp List.not_mem_nil⟩
  | cons p rest ih =>
      rw [resetCoeffs, ends_bind, ends_propertySet, zeroed_cons, List.length_cons, firstFailure]
      cases hstored : s.answers.propertySets.headD true with
      | false =>
          exact ⟨iff_of_false Bool.false_ne_true nofun,
            Step.afterPropertySet_of_fails hstored p "0",
            fun _ hp => absurd hp List.not_mem_nil⟩
      | true =>
          rw [if_pos rfl, if_pos rfl, if_pos rfl]
          apply (ih (s.afterPropertySet p "0")).mono
          · rintro ok t ⟨hok, hstep, hzero⟩
            refine ⟨hok.trans Option.map_eq_none_iff.symm, ?_, ?_⟩
            · have hfirst : Step (fun _ => False)
                  (· ∈ p :: zeroed rest s.answers.propertySets.tail) s (s.afterPropertySet p "0") :=
                Step.afterPropertySet s "0" List.mem_cons_self
              exact hfirst.trans (hstep.mono (fun _ => id) fun _ => List.mem_cons_of_mem p)
            · intro q hq
              by_cases hrest : q ∈ zeroed rest s.answers.propertySets.tail
              · exact hzero q hrest
              · have hqp : q = p := (List.mem_cons.mp hq).resolve_right hrest
                rw [propertyGetInt32_congr (hstep.frame.stored q hrest), hqp]
                exact propertyGetInt32_zero s hstored
          · exact fun _ _ h => h

/-- Where a reset fails, the node is still in line exactly if the coefficients that it has
made zero were zero before. -/
theorem inSync_resetCustomFilterCoeffs (hsets : s.answers.sets = [])
    (hsupported : Feature.customFilter ∈ s.mSupportedFeatures) :
    Ends resetCustomFilterCoeffs s
      (fun _ t => (firstFailure propertyCustomFilterCoeffs.length s.answers.propertySets = none →
          t.InSync) ∧
        ∀ i, firstFailure propertyCustomFilterCoeffs.length s.answers.propertySets = some i →
          (t.lastWritten customFilterPath = s.lastWritten customFilterPath) ∧
            (t.customFilter = s.customFilter ↔
              ∀ p ∈ propertyCustomFilterCoeffs.take i, s.propertyGetInt32 p 0 = 0))
      fun _ _ => False := by
  rw [resetCustomFilterCoeffs]
  apply (ends_guarded hsupported _).mpr
  apply Ends.bind (ends_resetCoeffs propertyCustomFilterCoeffs s)
  rintro ok t ⟨hok, hstep, hzero⟩
  cases ok with
  | true =>
      have hnone := hok.mp rfl
      have hwritten : t.answers.sets.headD true = true := by
        rw [hstep.frame.sets hsets]
        rfl
      rw [if_pos rfl, ends_bind, ends_get, ends_bind, ends_set]
      refine ⟨fun _ => ?_, fun i hi => ?_⟩
      · rw [DacState.InSync, DacState.lastWritten_afterSet, if_pos ⟨hwritten, rfl⟩]
        rfl
      · rw [hnone] at hi
        cases hi
  | false =>
      rw [if_neg Bool.false_ne_true, ends_pure]
      refine ⟨fun hnone => absurd (hok.mpr hnone) Bool.false_ne_true, fun i hi => ?_⟩
      have hzeroed : zeroed propertyCustomFilterCoeffs s.answers.propertySets =
          propertyCustomFilterCoeffs.take i := by
        rw [zeroed, hi]
      rw [hzeroed] at hstep hzero
      refine ⟨hstep.frame.written id, ?_, ?_⟩
      · intro hsame p hp
        have hmem : p ∈ customFilterProperties :=
          List.mem_cons_of_mem _ (List.mem_cons_of_mem _ (List.mem_of_mem_take hp))
        rw [← List.map_inj_left.mp hsame p hmem]
        exact hzero p hp
      · intro hbefore
        apply customFilter_congr
        intro p _
        by_cases hp : p ∈ propertyCustomFilterCoeffs.take i
        · rw [hzero p hp, hbefore p hp]
        · exact propertyGetInt32_congr (hstep.frame.stored p hp) 0

/-! ## Runs -/

/-- The operations on the custom filter, with what the writes of the properties end with. The
node can always be written. -/
inductive FilterOp
  | setCustomFilterShape (shape : Int32) (propertySets : List Bool)
  | setCustomFilterSymmetry (symmetry : Int32) (propertySets : List Bool)
  | setCustomFilterCoeff (coeffIndex value : Int32) (propertySets : List Bool)
  | resetCustomFilterCoeffs (propertySets : List Bool)

namespace FilterOp

def propertySets : FilterOp → List Bool
  | setCustomFilterShape _ answers => answers
  | setCustomFilterSymmetry _ answers => answers
  | setCustomFilterCoeff _ _ answers => answers
  | resetCustomFilterCoeffs answers => answers

def call : FilterOp → DacM Bool
  | setCustomFilterShape shape _ => Dac.setCustomFilterShape shape
  | setCustomFilterSymmetry symmetry _ => Dac.setCustomFilterSymmetry symmetry
  | setCustomFilterCoeff coeffIndex value _ => Dac.setCustomFilterCoeff coeffIndex value
  | resetCustomFilterCoeffs _ => Dac.resetCustomFilterCoeffs

def next (s : DacState) (op : FilterOp) : DacState :=
  final op.call (s.withAnswers { propertySets := op.propertySets })

/-- A coefficient is set under an index from 0 to 13. -/
def InRange (_ : DacState) : FilterOp → Prop
  | setCustomFilterCoeff coeffIndex _ _ => 0 ≤ coeffIndex ∧ coeffIndex ≤ 13
  | _ => True

/-- A call that fails finds a text in the node, and does not fail in a reset that has already
changed a coefficient. -/
def Safe (s : DacState) : FilterOp → Prop
  | resetCustomFilterCoeffs answers =>
      ∀ i, firstFailure propertyCustomFilterCoeffs.length answers = some i →
        s.lastWritten customFilterPath ≠ none ∧
          ∀ p ∈ propertyCustomFilterCoeffs.take i, s.propertyGetInt32 p 0 = 0
  | op => op.propertySets.headD true = false → s.lastWritten customFilterPath ≠ none

end FilterOp

/-- The feature is there, and the node is in line as soon as it has got any text. -/
def Following (s : DacState) : Prop :=
  Feature.customFilter ∈ s.mSupportedFeatures ∧
    (s.lastWritten customFilterPath ≠ none → s.InSync)

/-- A node that follows the properties is in sync once it was written. -/
theorem Following.inSync_iff (h : Following s) :
    s.InSync ↔ s.lastWritten customFilterPath ≠ none := by
  constructor
  · intro hsync hnone
    rw [DacState.InSync, hnone] at hsync
    cases hsync
  · exact h.2

/-- One number is stored, or the call fails and leaves everything. -/
theorem Following.inSync_final_iff (h : Following s) {x : DacM Bool} {property : String}
    {value : Int32} (answers : List Bool)
    (hx : ∀ post stop, Ends x (s.withAnswers { propertySets := answers }) post stop ↔
      Ends (storeCustomFilter property value) (s.withAnswers { propertySets := answers })
        post stop) :
    (final x (s.withAnswers { propertySets := answers })).InSync ↔
      (answers.headD true = false → s.lastWritten customFilterPath ≠ none) := by
  have hends : Ends x (s.withAnswers { propertySets := answers })
      (fun _ t => t.InSync ↔
        (answers.headD true = false → s.lastWritten customFilterPath ≠ none))
      (fun _ t => t.InSync ↔
        (answers.headD true = false → s.lastWritten customFilterPath ≠ none)) := by
    rw [hx]
    apply (inSync_storeCustomFilter rfl property value).mono
    · rintro ok t ⟨hok, hsucceeds, hfails⟩
      change ok = answers.headD true at hok
      rw [← hok]
      cases ok with
      | true => exact iff_of_true (hsucceeds rfl) nofun
      | false =>
          obtain ⟨hfilter, hwritten⟩ := hfails rfl
          rw [DacState.inSync_congr hwritten hfilter]
          exact h.inSync_iff.trans (imp_iff_right rfl).symm
    · exact fun _ _ h => h.elim
  exact hends.holds

theorem coeffProperty_of_range {i : Int32} (hlow : 0 ≤ i) (hhigh : i ≤ 13) :
    ∃ p, coeffProperty i = some p := by
  rw [Int32.le_iff_toInt_le] at hlow hhigh
  change 0 ≤ i.toInt at hlow
  change i.toInt ≤ 13 at hhigh
  have hnot : ¬i < 0 := by
    rw [Int32.lt_iff_toInt_lt]
    change ¬i.toInt < 0
    omega
  have hindex : i.toInt.toNat < propertyCustomFilterCoeffs.length := by
    change i.toInt.toNat < 14
    omega
  exact ⟨_, by rw [coeffProperty, if_neg hnot, List.getElem?_eq_getElem hindex]⟩

/-- A reset keeps the node in sync exactly if it is safe. -/
theorem Following.reset_iff (h : Following s) (answers : List Bool) :
    (FilterOp.next s (.resetCustomFilterCoeffs answers)).InSync ↔
      FilterOp.Safe s (.resetCustomFilterCoeffs answers) := by
  have hends : Ends resetCustomFilterCoeffs (s.withAnswers { propertySets := answers })
      (fun _ t => t.InSync ↔ FilterOp.Safe s (.resetCustomFilterCoeffs answers))
      (fun _ t => t.InSync ↔ FilterOp.Safe s (.resetCustomFilterCoeffs answers)) := by
    have hsupported : Feature.customFilter ∈
        (s.withAnswers { propertySets := answers }).mSupportedFeatures := h.1
    apply (inSync_resetCustomFilterCoeffs rfl hsupported).mono
    · rintro _ t ⟨hsucceeds, hfails⟩
      cases hfailure : firstFailure propertyCustomFilterCoeffs.length answers with
      | none =>
          apply iff_of_true (hsucceeds hfailure)
          intro i hi
          rw [hfailure] at hi
          cases hi
      | some i =>
          obtain ⟨hwritten, hfilter⟩ := hfails i hfailure
          have hsafe : FilterOp.Safe s (.resetCustomFilterCoeffs answers) ↔
              s.lastWritten customFilterPath ≠ none ∧
                ∀ p ∈ propertyCustomFilterCoeffs.take i, s.propertyGetInt32 p 0 = 0 := by
            constructor
            · exact fun hall => hall i hfailure
            · intro hone j hj
              rw [hfailure] at hj
              cases hj
              exact hone
          rw [hsafe, ← h.inSync_iff]
          constructor
          · intro hsync
            have hold : s.InSync := by
              rw [h.inSync_iff]
              intro hnone
              rw [DacState.InSync, hwritten] at hsync
              cases hnone.symm.trans hsync
            have htexts := hwritten.symm.trans hsync
            change s.lastWritten customFilterPath = _ at htexts
            rw [hold, Option.some_inj, DacState.parseUpdatedCustomFilterData_eq,
              DacState.parseUpdatedCustomFilterData_eq] at htexts
            have hsame := commaSeparated_injective (customFilter_ne_nil s) (customFilter_ne_nil t)
              htexts
            exact ⟨hold, hfilter.mp hsame.symm⟩
          · rintro ⟨hold, hzero⟩
            exact (DacState.inSync_congr hwritten (hfilter.mpr hzero)).mpr hold
    · exact fun _ _ h => h.elim
  exact hends.holds

/-- One operation leaves the node in line exactly if it is safe. -/
theorem Following.next_iff (h : Following s) {op : FilterOp} (hrange : op.InRange s) :
    (FilterOp.next s op).InSync ↔ op.Safe s := by
  have hsupported : ∀ answers, Feature.customFilter ∈
      (s.withAnswers { propertySets := answers }).mSupportedFeatures := fun _ => h.1
  cases op with
  | setCustomFilterShape shape answers =>
      exact h.inSync_final_iff answers fun _ _ =>
        ends_setCustomFilterShape (hsupported answers) shape
  | setCustomFilterSymmetry symmetry answers =>
      exact h.inSync_final_iff answers fun _ _ =>
        ends_setCustomFilterSymmetry (hsupported answers) symmetry
  | setCustomFilterCoeff i value answers =>
      obtain ⟨p, hp⟩ := coeffProperty_of_range hrange.1 hrange.2
      exact h.inSync_final_iff answers fun _ _ =>
        ends_setCustomFilterCoeff (hsupported answers) hp value
  | resetCustomFilterCoeffs answers => exact h.reset_iff answers

/-! ## Invariants of the filter -/

/-- The number that a shape is stored as. -/
def encodeShape (shape : Int32) : Int32 := if shape ≤ 4 then shape else shape + 1

/-- What an invariant needs that the service keeps by applying its filter again. -/
structure FilterInvariant (invariant : DacState → Prop) : Prop where
  started : ∀ s version audio, invariant s → invariant (s.started version audio)
  listing : ∀ s f states, invariant s → invariant (s.listing f states)
  outside : ∀ (paths properties : String → Prop) s t, ¬paths customFilterPath →
    (∀ p, CustomProperty p → ¬properties p) → Step paths properties s t → invariant s → invariant t
  shape : ∀ s, invariant s →
    Ends (storeCustomFilter propertyCustomFilterShape (encodeShape s.getCustomFilterShape)) s
      (fun _ => invariant) fun _ => invariant
  store : ∀ p value, CustomProperty p → p ≠ propertyCustomFilterShape →
    Preserves invariant (storeCustomFilter p value)

theorem ne_shape_of_coeffProperty {i : Int32} {p : String} (h : coeffProperty i = some p) :
    p ≠ propertyCustomFilterShape := by
  rw [coeffProperty] at h
  split at h
  next => cases h
  next =>
    have hmem := List.mem_of_getElem? h
    rintro rfl
    exact absurd hmem (by decide +kernel)

namespace FilterInvariant

variable {invariant : DacState → Prop} (h : FilterInvariant invariant)

include h

/-- What moves neither the node nor a property of the filter keeps the invariant. -/
theorem moves {paths properties : String → Prop} {mayStop : Prop} {α : Type} {x : DacM α}
    (hpaths : ¬paths customFilterPath) (hproperties : ∀ p, CustomProperty p → ¬properties p)
    (hx : Moves (Step paths properties) mayStop x) : Preserves invariant x := by
  intro s hs
  apply (hx s).mono
  · exact fun _ t hstep => h.outside paths properties s t hpaths hproperties hstep hs
  · exact fun _ t hstep => h.outside paths properties s t hpaths hproperties hstep.2 hs

theorem setFeatureValue (device : Device) (f : Feature) (v : Int32) :
    Preserves invariant (setFeatureValue device f v) := by
  apply h.moves _ _ (moves_setFeatureValue device f v)
  · exact fun hpath => not_customPath_of_featurePath hpath rfl
  · rintro p hp ⟨default, hsource⟩
    exact not_customProperty_of_source hsource hp

theorem setHifiDacState (enable : Bool) : Preserves invariant (setHifiDacState enable) :=
  h.moves id (fun _ _ => id) (moves_setHifiDacState enable)

omit h in
theorem reading {α : Type} (getter : DacState → Option α) :
    Preserves invariant (reading getter) := by
  intro s hs
  rw [ends_reading]
  split
  · exact hs
  · exact hs

omit h in
theorem guarded {x : DacM Bool} (hx : Preserves invariant x) :
    Preserves invariant (do
      let current ← get
      if Feature.customFilter ∉ current.mSupportedFeatures then pure false else x) := by
  intro s hs
  rw [ends_bind, ends_get]
  exact Preserves.ite (Preserves.pure false) hx s hs

/-- `setCustomFilterShape(getCustomFilterShape())`. -/
theorem reapplyShape :
    Preserves invariant (do
      let s ← get
      setCustomFilterShape s.getCustomFilterShape) := by
  intro s hs
  rw [ends_bind, ends_get, setCustomFilterShape, ends_bind, ends_get, ends_ite]
  exact ⟨fun _ => hs, fun _ => h.shape s hs⟩

theorem setCustomFilterSymmetry (symmetry : Int32) :
    Preserves invariant (setCustomFilterSymmetry symmetry) :=
  guarded (h.store _ symmetry (List.mem_cons_of_mem _ List.mem_cons_self) (by decide +kernel))

theorem setCustomFilterCoeff (i value : Int32) :
    Preserves invariant (setCustomFilterCoeff i value) := by
  apply guarded
  cases hp : coeffProperty i with
  | none => exact fun s hs => hs
  | some p =>
      exact h.store p value (customProperty_of_coeffProperty hp) (ne_shape_of_coeffProperty hp)

theorem restoreCoeffs (indices : List Int32) : Preserves invariant (restoreCoeffs indices) := by
  induction indices with
  | nil => exact Preserves.pure _
  | cons i rest ih =>
      apply Preserves.bind (reading _)
      intro value
      exact Preserves.bind (h.setCustomFilterCoeff i value) fun _ => ih

/-- Restoring the filter keeps the invariant. -/
theorem restoreCustomFilter : Preserves invariant restoreCustomFilter := by
  intro s hs
  rw [Dac.restoreCustomFilter, ends_bind, support, ends_modify]
  have hshape := h.reapplyShape _ (h.listing s .customFilter none hs)
  rw [ends_bind, ends_get] at hshape ⊢
  apply Ends.bind hshape
  intro _ t ht
  rw [ends_bind, ends_get]
  apply Ends.bind (h.setCustomFilterSymmetry _ t ht)
  exact fun _ u hu => h.restoreCoeffs coeffIndices u hu

/-- The constructor keeps the invariant. -/
theorem construct (device : Device) : Preserves invariant (construct device) := by
  intro s hs
  apply ends_construct
  · exact fun version => h.started s version false hs
  · intro version
    apply ends_restoreSettings
    · have hbegin := h.listing _ .quadDac none (h.started s (some version) true hs)
      rw [ends_bind, support, ends_modify, ends_bind, ends_get]
      exact h.setHifiDacState _ _ hbegin
    · intro f states write hstage t ht
      have hlisted := h.listing t f states ht
      rw [ends_restoreStage hstage]
      split
      next => exact h.setFeatureValue device f _ _ hlisted
      next => exact hlisted
    · exact h.restoreCustomFilter

end FilterInvariant

/-! ## The start -/

/-- The node can be written, and is in line as soon as it has got any text. -/
def Kept (s : DacState) : Prop :=
  s.answers.sets = [] ∧ (s.lastWritten customFilterPath ≠ none → s.InSync)

/-- Storing a part of the filter leaves the node in line, if it has any text. -/
theorem kept_storeCustomFilter (property : String) (value : Int32) :
    Preserves Kept (storeCustomFilter property value) := by
  intro s hs
  have hmoves : Ends (storeCustomFilter property value) s
      (fun _ t => Step CustomPath (Eq property) s t)
      fun _ t => False ∧ Step CustomPath (Eq property) s t :=
    moves_storeCustomFilter rfl value s
  apply ((inSync_storeCustomFilter hs.1 property value).and hmoves).mono
  · rintro ok t ⟨⟨-, hsucceeds, hfails⟩, hmoved⟩
    refine ⟨hmoved.frame.sets hs.1, ?_⟩
    cases ok with
    | true => exact fun _ => hsucceeds rfl
    | false =>
        obtain ⟨hfilter, hwritten⟩ := hfails rfl
        rw [hwritten, DacState.inSync_congr hwritten hfilter]
        exact hs.2
  · exact fun _ _ h => h.1.elim

theorem filterInvariant_kept : FilterInvariant Kept where
  started _ _ _ h := h
  listing _ _ _ h := h
  outside paths properties s t hpaths hproperties hstep h := by
    have hwritten := hstep.frame.written hpaths
    refine ⟨hstep.frame.sets h.1, ?_⟩
    rw [hwritten, DacState.inSync_congr hwritten (hstep.customFilter hproperties)]
    exact h.2
  shape s h := kept_storeCustomFilter _ _ s h
  store p value _ _ := kept_storeCustomFilter p value

/-- The service after its first start, on any stored properties, with what its writes of
properties and its calls of the audio HAL end with. -/
def filterStart (device : Device) (properties : Std.ExtTreeMap String String)
    (propertySets setParameters : List Bool) : DacState :=
  final (construct device)
    { properties := properties
      answers := { propertySets := propertySets, setParameters := setParameters } }

/-- A service whose constructor returned follows the properties. -/
theorem following_filterStart {device : Device} {properties : Std.ExtTreeMap String String}
    {propertySets setParameters : List Bool}
    (hreturns : stops (construct device)
      { properties := properties
        answers := { propertySets := propertySets, setParameters := setParameters } } = false)
    (hsupported : Feature.customFilter ∈
      (filterStart device properties propertySets setParameters).mSupportedFeatures) :
    Following (filterStart device properties propertySets setParameters) := by
  refine ⟨hsupported, ?_⟩
  have hkept := filterInvariant_kept.construct device
    { properties := properties
      answers := { propertySets := propertySets, setParameters := setParameters } }
    ⟨rfl, fun hne => absurd rfl hne⟩
  exact (hkept.of_returns hreturns).2

/-- The calls of the filter move nothing but its node and its properties. -/
theorem FilterOp.moves_call (op : FilterOp) :
    Moves (Step CustomPath CustomProperty) True op.call := by
  cases op with
  | setCustomFilterShape shape answers => exact moves_setCustomFilterShape shape
  | setCustomFilterSymmetry symmetry answers => exact moves_setCustomFilterSymmetry symmetry
  | setCustomFilterCoeff i value answers =>
      exact moves_setCustomFilterCoeff (fun _ => trivial) value
  | resetCustomFilterCoeffs answers => exact moves_resetCustomFilterCoeffs

/-- A call after which the node is in sync leaves it following. -/
theorem Following.next (h : Following s) {op : FilterOp} (hsync : (FilterOp.next s op).InSync) :
    Following (FilterOp.next s op) := by
  have hstep := Moves.final op.moves_call (s.withAnswers { propertySets := op.propertySets })
  have hfeatures : (FilterOp.next s op).mSupportedFeatures = s.mSupportedFeatures :=
    hstep.same.features
  rw [Following, hfeatures]
  exact ⟨h.1, fun _ => hsync⟩

/-- In every run the node is in sync after each call exactly if each call is safe. -/
theorem Following.inSync_run_iff (h : Following s) {ops : List FilterOp}
    (hrange : Admits FilterOp.next FilterOp.InRange s ops) :
    Admits FilterOp.next (fun t op => (FilterOp.next t op).InSync) s ops ↔
      Admits FilterOp.next FilterOp.Safe s ops := by
  apply Admits.after_iff Following _ _ h hrange
  · exact fun t op ht _ hsync => ht.next hsync
  · exact fun t op ht hin => ht.next_iff hin

/-- After the start of the service the node is in line after every call on the custom filter,
whether it returned true or not, exactly as long as the calls that fail are safe. -/
theorem custom_filter_in_sync_iff (device : Device) (properties : Std.ExtTreeMap String String)
    (propertySets setParameters : List Bool)
    (hreturns : stops (construct device)
      { properties := properties
        answers := { propertySets := propertySets, setParameters := setParameters } } = false)
    (hsupported : Feature.customFilter ∈
      (filterStart device properties propertySets setParameters).mSupportedFeatures)
    {ops : List FilterOp}
    (hrange : Admits FilterOp.next FilterOp.InRange
      (filterStart device properties propertySets setParameters) ops) :
    Admits FilterOp.next (fun s op => (FilterOp.next s op).InSync)
        (filterStart device properties propertySets setParameters) ops ↔
      Admits FilterOp.next FilterOp.Safe
        (filterStart device properties propertySets setParameters) ops :=
  (following_filterStart hreturns hsupported).inSync_run_iff hrange

/-- A coefficient that can be stored, one that cannot, and a reset. -/
def filterCalls : List FilterOp :=
  [.setCustomFilterCoeff 13 7 [], .setCustomFilterShape 2 [false], .resetCustomFilterCoeffs []]

theorem filterCalls_inRange :
    Admits FilterOp.next FilterOp.InRange (filterStart {} ∅ [] []) filterCalls :=
  ⟨⟨by decide, by decide⟩, trivial, trivial, trivial⟩

theorem custom_filter_in_sync_iff_filterCalls :
    Admits FilterOp.next (fun s op => (FilterOp.next s op).InSync) (filterStart {} ∅ [] [])
        filterCalls ↔
      Admits FilterOp.next FilterOp.Safe (filterStart {} ∅ [] []) filterCalls :=
  custom_filter_in_sync_iff {} ∅ [] [] (by decide +kernel) (by decide +kernel) filterCalls_inRange

/-- The second write of a reset fails, after the first coefficient has become zero. -/
theorem not_inSync_after_reset :
    ¬Admits FilterOp.next (fun s op => (FilterOp.next s op).InSync) (filterStart {} ∅ [] [])
      [.setCustomFilterCoeff 0 5 [], .resetCustomFilterCoeffs [true, false]] := by
  decide +kernel

end LgeHardware.Dac
