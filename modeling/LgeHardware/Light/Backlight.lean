import LgeHardware.Light.Lights

/-! # The brightness of the panels

The luminance of a colour is in 0 to 255. Up to 34 a panel gets twice the luminance, and from
35 on the luminance in parts of 255 of its maximum. The two parts fit together for the panels
with a maximum of 496 or more.
-/

namespace LgeHardware.Light

/-! ## The curve -/

/-- The brightness for a luminance on a panel of a given maximum. -/
def curve (max luminance : Int) : Int :=
  if luminance < 35 then luminance * 2 else luminance * max / 255

/-- What is required of two luminances: neither of the lower part exceeds the maximum, and the
first, if it is of the lower part, is not brighter than the second of the upper one. -/
structure Joins (max luminance greater : Int) : Prop where
  bounded : luminance < 35 → luminance * 2 ≤ max
  boundedGreater : greater < 35 → greater * 2 ≤ max
  joined : luminance < 35 → 35 ≤ greater → luminance * 510 ≤ greater * max

variable {max luminance greater : Int}

@[simp] theorem curve_zero : curve max 0 = 0 := rfl

/-- Only the lower part can exceed the maximum. -/
theorem curve_le_max_iff (hmax : 0 ≤ max) (hle : luminance ≤ 255) :
    curve max luminance ≤ max ↔ (luminance < 35 → luminance * 2 ≤ max) := by
  rw [curve]
  split
  next hlow => exact ⟨fun h _ => h, fun h => h hlow⟩
  next hhigh =>
    have hmul : luminance * max ≤ max * 255 := by
      rw [Int.mul_comm max]
      exact Int.mul_le_mul_of_nonneg_right hle hmax
    exact iff_of_true (Int.ediv_le_of_le_mul (by decide) hmul) fun hlow => absurd hlow hhigh

/-- Only from the lower part to the upper one can the curve fall. -/
theorem curve_le_curve_iff (hmax : 0 ≤ max) (hle : luminance ≤ greater) :
    curve max luminance ≤ curve max greater ↔
      (luminance < 35 → 35 ≤ greater → luminance * 510 ≤ greater * max) := by
  rw [curve, curve]
  split
  next hlow =>
    split
    next hlow' => exact iff_of_true (by omega) fun _ hhigh => absurd hhigh (by omega)
    next hhigh =>
      rw [Int.le_ediv_iff_mul_le (by decide), Int.mul_assoc]
      simp [hlow, Int.not_lt.mp hhigh]
  next hhigh =>
    rw [if_neg (by omega)]
    exact iff_of_true (Int.ediv_le_ediv (by decide) (Int.mul_le_mul_of_nonneg_right hle hmax))
      fun hlow => absurd hlow hhigh

/-- From a maximum of 496 on the parts of the curve join. -/
theorem Joins.of_large (hlarge : 496 ≤ max) : Joins max luminance greater := by
  refine ⟨by omega, by omega, fun hlow hhigh => ?_⟩
  calc luminance * 510 ≤ 34 * 510 := by omega
    _ ≤ 35 * max := by omega
    _ ≤ greater * max := Int.mul_le_mul_of_nonneg_right hhigh (by omega)

theorem Joins.large (h : Joins max 34 35) : 496 ≤ max := by
  have hjoined := h.joined (by decide) (by decide)
  omega

/-! ## The luminance -/

theorem channel_bounds (color shift : Int32) :
    0 ≤ (channel color shift).toInt ∧ (channel color shift).toInt ≤ 255 := by
  have hle : (channel color shift).toBitVec.toNat ≤ 255 := by
    rw [channel, Int32.toBitVec_and, BitVec.toNat_and]
    exact Nat.and_le_right
  rw [← Int32.toInt_toBitVec, BitVec.toInt_eq_toNat_of_lt (by omega)]
  omega

theorem toInt_shiftRight_eight (x : Int32) : (x >>> (8 : Int32)).toInt = x.toInt / 256 := by
  have hshift : ((8 : Int32).toBitVec.smod 32).toNat = 8 := by decide
  rw [← Int32.toInt_toBitVec, Int32.toBitVec_shiftRight, BitVec.toInt_sshiftRight', hshift,
    Int32.toInt_toBitVec, Int.shiftRight_eq_div_pow]
  rfl

/-- The luminance of a colour fits into a byte. -/
theorem rgbToBrightness_bounds (state : HwLightState) :
    0 ≤ (rgbToBrightness state).toInt ∧ (rgbToBrightness state).toInt ≤ 255 := by
  rw [rgbToBrightness, toInt_shiftRight_eight]
  obtain ⟨hred, hred'⟩ := channel_bounds (state.color &&& 0x00ffffff) 16
  obtain ⟨hgreen, hgreen'⟩ := channel_bounds (state.color &&& 0x00ffffff) 8
  obtain ⟨hblue, hblue'⟩ := channel_bounds (state.color &&& 0x00ffffff) 0
  have h77 : (77 : Int32).toInt = 77 := rfl
  have h150 : (150 : Int32).toInt = 150 := rfl
  have h29 : (29 : Int32).toInt = 29 := rfl
  -- the weights add up to 256, so the sum is far from the limits of 32 bits
  simp only [Int32.toInt_add, Int32.toInt_mul, Int.bmod_add_bmod, Int.add_bmod_bmod, h77, h150,
    h29]
  rw [Int.bmod_eq_of_le (by simp; omega) (by simp; omega)]
  omega

/-! ## The panels -/

/-- The panels with a backlight. -/
inductive Panel
  | main
  | extended
  deriving DecidableEq, Repr

/-- The directory of a panel. -/
def Panel.path : Panel → String
  | .main => bl
  | .extended => blEx

namespace Lights

/-- The maximum that is known for a panel. -/
def maxOf (lights : Lights) : Panel → Int32
  | .main => lights.mMaxBrightness
  | .extended => lights.mMaxBrightnessEx

/-- The brightness that is written for a panel. -/
def written (lights : Lights) (panel : Panel) (state : HwLightState) : Option Int :=
  match (lights.handleBacklight state).2.lookup (panel.path ++ brightness) with
  | some (.int value) => some value.toInt
  | _ => none

/-- The maximum of every panel is in the range that products with a luminance fit into. -/
def InRange (lights : Lights) : Prop :=
  ∀ panel, 0 ≤ (lights.maxOf panel).toInt ∧ (lights.maxOf panel).toInt ≤ 2 ^ 31 / 255

variable {lights : Lights}

/-- The product of a luminance and a maximum is not beyond 32 bits. -/
theorem toInt_scaled {sent max : Int32} (hnonneg : 0 ≤ sent.toInt) (hle : sent.toInt ≤ 255)
    (hmax : 0 ≤ max.toInt) (hmax' : max.toInt ≤ 2 ^ 31 / 255) :
    (sent * max / 255).toInt = sent.toInt * max.toInt / 255 := by
  have hproduct : 0 ≤ sent.toInt * max.toInt := Int.mul_nonneg hnonneg hmax
  have hproduct' : sent.toInt * max.toInt ≤ 255 * max.toInt :=
    Int.mul_le_mul_of_nonneg_right hle hmax
  have h255 : (255 : Int32).toInt = 255 := rfl
  rw [Int32.toInt_div_of_ne_right _ _ (by decide), Int32.toInt_mul, h255,
    Int.bmod_eq_of_le (by simp; omega) (by simp; omega), Int.tdiv_eq_ediv_of_nonneg hproduct]

theorem toInt_twice {sent : Int32} (hnonneg : 0 ≤ sent.toInt) (hle : sent.toInt ≤ 255) :
    (sent * 2).toInt = sent.toInt * 2 := by
  have htwo : (2 : Int32).toInt = 2 := rfl
  rw [Int32.toInt_mul, htwo, Int.bmod_eq_of_le (by simp; omega) (by simp; omega)]

/-- Either panel gets its own part of what the backlight is set to. -/
theorem lookup_handleBacklight (panel : Panel) (state : HwLightState) :
    (lights.handleBacklight state).2.lookup (panel.path ++ brightness) =
      some (.int (if rgbToBrightness state < 35 then rgbToBrightness state * 2
        else rgbToBrightness state * lights.maxOf panel / 255)) := by
  have hpaths : (blEx ++ brightness == bl ++ brightness) = false := by decide
  simp only [handleBacklight, apply_ite Prod.fst, apply_ite Prod.snd]
  cases panel with
  | main => rw [Panel.path, List.lookup_cons_self, maxOf]
  | extended =>
      rw [Panel.path, List.lookup_cons, hpaths]
      exact List.lookup_cons_self

/-- The brightness of either panel is on the curve of its maximum. -/
theorem written_eq (hrange : lights.InRange) (panel : Panel) (state : HwLightState) :
    lights.written panel state =
      some (curve (lights.maxOf panel).toInt (rgbToBrightness state).toInt) := by
  obtain ⟨hnonneg, hle⟩ := rgbToBrightness_bounds state
  obtain ⟨hmax, hmax'⟩ := hrange panel
  have hlow : rgbToBrightness state < 35 ↔ (rgbToBrightness state).toInt < 35 :=
    Int32.lt_iff_toInt_lt
  unfold written
  simp only [lookup_handleBacklight, apply_ite Int32.toInt, hlow, toInt_twice hnonneg hle,
    toInt_scaled hnonneg hle hmax hmax', curve]

/-- What is required of the backlight for two states. -/
structure Sound (lights : Lights) (panel : Panel) (first second : HwLightState) : Prop where
  monotone : rgbToBrightness first ≤ rgbToBrightness second →
    ∀ a ∈ lights.written panel first, ∀ b ∈ lights.written panel second, a ≤ b
  dark : ∀ state ∈ [first, second], rgbToBrightness state = 0 →
    lights.written panel state = some 0
  bounded : ∀ state ∈ [first, second], ∀ a ∈ lights.written panel state,
    a ≤ (lights.maxOf panel).toInt

theorem written_zero (hrange : lights.InRange) (panel : Panel) {state : HwLightState}
    (hdark : rgbToBrightness state = 0) : lights.written panel state = some 0 := by
  rw [written_eq hrange, hdark]
  rfl

/-- What is written for a state is within the panel's maximum if its luminance is of the upper
part, or small enough. -/
theorem written_le_iff (hrange : lights.InRange) (panel : Panel) (state : HwLightState) :
    (∀ a ∈ lights.written panel state, a ≤ (lights.maxOf panel).toInt) ↔
      ((rgbToBrightness state).toInt < 35 →
        (rgbToBrightness state).toInt * 2 ≤ (lights.maxOf panel).toInt) := by
  simp only [written_eq hrange, Option.mem_some_iff, forall_eq']
  exact curve_le_max_iff (hrange panel).1 (rgbToBrightness_bounds state).2

/-- On one panel the backlight is sound for two states exactly if the parts of the curve join there.
-/
theorem sound_iff (hrange : lights.InRange) (panel : Panel) (first second : HwLightState) :
    lights.Sound panel first second ↔
      Joins (lights.maxOf panel).toInt (rgbToBrightness first).toInt
        (rgbToBrightness second).toInt := by
  have hmax := (hrange panel).1
  constructor
  · rintro ⟨hmonotone, -, hbounded⟩
    refine ⟨(written_le_iff hrange panel first).mp (hbounded first (by simp)),
      (written_le_iff hrange panel second).mp (hbounded second (by simp)), fun hlow hhigh => ?_⟩
    simp only [written_eq hrange, Option.mem_some_iff, forall_eq'] at hmonotone
    have hordered : rgbToBrightness first ≤ rgbToBrightness second :=
      Int32.le_iff_toInt_le.mpr (by omega)
    exact (curve_le_curve_iff hmax (by omega)).mp (hmonotone hordered) hlow hhigh
  · rintro ⟨hbounded, hgreater, hjoined⟩
    refine ⟨fun hordered => ?_, fun state _ => written_zero hrange panel, fun state hstate => ?_⟩
    · simp only [written_eq hrange, Option.mem_some_iff, forall_eq']
      exact (curve_le_curve_iff hmax (Int32.le_iff_toInt_le.mp hordered)).mpr hjoined
    · simp only [List.mem_cons, List.not_mem_nil, or_false] at hstate
      rcases hstate with rfl | rfl
      · exact (written_le_iff hrange panel state).mpr hbounded
      · exact (written_le_iff hrange panel state).mpr hgreater

/-- The grey of a luminance. -/
def grey (luminance : Int32) : HwLightState :=
  { color := luminance * 0x010101 }

/-- The backlight is sound for two states exactly if the parts of the curve join there on both
panels, and for all states exactly if the maximum of both panels is 496 or more. -/
theorem backlight_sound_iff (hrange : lights.InRange) :
    (∀ first second, (∀ panel, lights.Sound panel first second) ↔
      ∀ panel, Joins (lights.maxOf panel).toInt (rgbToBrightness first).toInt
        (rgbToBrightness second).toInt) ∧
      ((∀ first second panel, lights.Sound panel first second) ↔
        ∀ panel, 496 ≤ (lights.maxOf panel).toInt) := by
  refine ⟨fun first second => forall_congr' fun panel => sound_iff hrange panel first second, ?_⟩
  constructor
  · intro hsound panel
    exact ((sound_iff hrange panel _ _).mp (hsound (grey 34) (grey 35) panel)).large
  · intro hlarge first second panel
    exact (sound_iff hrange panel first second).mpr (Joins.of_large (hlarge panel))

/-- The panels for which no maximum can be read. -/
theorem backlight_sound_iff_defaults :
    ¬ ∀ first second panel, (construct fun _ => none).Sound panel first second := by
  have hrange : (construct fun _ => none).InRange := by
    intro panel
    cases panel <;> decide
  intro hsound
  have hlarge := (backlight_sound_iff hrange).2.mp hsound .main
  exact absurd hlarge (by decide)

/-- With a maximum of 255 the greater luminance of 35 is darker than that of 34. -/
theorem backlight_darker : ¬ ∀ lights : Lights, lights.InRange →
    ∀ first second panel, lights.Sound panel first second := by
  intro hsound
  have hrange : ({} : Lights).InRange := by
    intro panel
    cases panel <;> decide
  have hmonotone := (hsound {} hrange (grey 34) (grey 35) .main).monotone (by decide) 68 (by decide)
    35 (by decide)
  exact absurd hmonotone (by decide)

end Lights

end LgeHardware.Light
