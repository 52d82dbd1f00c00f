import LgeHardware.Dac.PanelSettings

/-! # The balance on the panel

The panel shows the balance of either channel as a gain, between bounds that the service
advertises, with a button for each direction. A button is enabled exactly while the balance can go
its way. The service stores the attenuation. The panel does not look whether a click was stored, so
the two agree as long as every click gets through.
-/

namespace LgeHardware.Dac

open LgeHardware.Foundation

/-! ## One channel -/

/-- The balance of a channel, in half decibels, and whether its two buttons are enabled. -/
structure Channel where
  balance : Int32 := 0
  plusEnabled : Bool := true
  minusEnabled : Bool := true
  deriving DecidableEq, Repr

namespace Channel

/-- The buttons of a channel whose balance was loaded. -/
def loaded (minAllowedValue maxAllowedValue : Int32) (c : Channel) : Channel :=
  if c.balance = maxAllowedValue then { c with plusEnabled := false }
  else if c.balance = minAllowedValue then { c with minusEnabled := false }
  else { c with plusEnabled := true, minusEnabled := true }

/-- A click on one of the buttons. -/
def updated (minAllowedValue maxAllowedValue : Int32) (increase : Bool) (c : Channel) : Channel :=
  if increase then
    if c.balance < maxAllowedValue then
      { balance := c.balance + 1
        minusEnabled := true
        plusEnabled := if c.balance + 1 = maxAllowedValue then false else c.plusEnabled }
    else c
  else
    if minAllowedValue < c.balance then
      { balance := c.balance - 1
        plusEnabled := true
        minusEnabled := if c.balance - 1 = minAllowedValue then false else c.minusEnabled }
    else c

/-- The balance is within the bounds, and each button is enabled while it is not at its own. -/
structure Fits (minAllowedValue maxAllowedValue : Int32) (c : Channel) : Prop where
  low : minAllowedValue.toInt ≤ c.balance.toInt
  high : c.balance.toInt ≤ maxAllowedValue.toInt
  plus : c.plusEnabled = true ↔ c.balance ≠ maxAllowedValue
  minus : c.minusEnabled = true ↔ c.balance ≠ minAllowedValue

variable {low high : Int32} {c : Channel}

/-- A balance within the bounds is loaded with the right buttons. -/
theorem fits_loaded (hbounds : low ≠ high) {balance : Int32} (hlow : low.toInt ≤ balance.toInt)
    (hhigh : balance.toInt ≤ high.toInt) : Fits low high (loaded low high { balance }) := by
  rw [loaded]
  dsimp only
  split
  next hmax =>
    subst hmax
    exact ⟨hlow, hhigh, by simp, by simpa using Ne.symm hbounds⟩
  next hmax =>
    split
    next hmin => exact ⟨hlow, hhigh, by simpa using hmax, by simpa using hmin⟩
    next hmin => exact ⟨hlow, hhigh, by simpa using hmax, by simpa using hmin⟩

/-- A click moves the balance by one step, unless it is at the bound. -/
theorem Fits.updated (h : Fits low high c) (increase : Bool) :
    Fits low high (c.updated low high increase) := by
  have hlow := Int32.le_toInt low
  have hhigh := Int32.toInt_lt high
  obtain ⟨hmin, hmax, hplus, hminus⟩ := h
  rw [Channel.updated]
  cases increase with
  | true =>
      rw [if_pos rfl]
      split
      next hless =>
        rw [Int32.lt_iff_toInt_lt] at hless
        -- Below the upper bound one step more does not wrap.
        have hnext : (c.balance + 1).toInt = c.balance.toInt + 1 := by
          rw [Int32.toInt_add]
          exact Int.bmod_eq_of_le (by simp; omega) (by simp; omega)
        have hne : c.balance ≠ high := by
          rintro rfl
          exact absurd hless (lt_irrefl _)
        have hmoved : c.balance + 1 ≠ low := by
          intro heq
          rw [← Int32.toInt_inj, hnext] at heq
          omega
        have hwithin : low.toInt ≤ (c.balance + 1).toInt ∧ (c.balance + 1).toInt ≤ high.toInt := by
          omega
        refine ⟨hwithin.1, hwithin.2, ?_, by simpa using hmoved⟩
        dsimp only
        split
        next hreached => simp [hreached]
        next hreached => simp [hreached, hplus, hne]
      next => exact ⟨hmin, hmax, hplus, hminus⟩
  | false =>
      rw [if_neg Bool.false_ne_true]
      split
      next hmore =>
        rw [Int32.lt_iff_toInt_lt] at hmore
        -- Above the lower bound one step less does not wrap.
        have hnext : (c.balance - 1).toInt = c.balance.toInt - 1 := by
          rw [Int32.toInt_sub]
          exact Int.bmod_eq_of_le (by simp; omega) (by simp; omega)
        have hne : c.balance ≠ low := by
          rintro rfl
          exact absurd hmore (lt_irrefl _)
        have hmoved : c.balance - 1 ≠ high := by
          intro heq
          rw [← Int32.toInt_inj, hnext] at heq
          omega
        have hwithin : low.toInt ≤ (c.balance - 1).toInt ∧ (c.balance - 1).toInt ≤ high.toInt := by
          omega
        refine ⟨hwithin.1, hwithin.2, by simpa using hmoved, ?_⟩
        dsimp only
        split
        next hreached => simp [hreached]
        next hreached => simp [hreached, hminus, hne]
      next => exact ⟨hmin, hmax, hplus, hminus⟩

end Channel

/-! ## The preference -/

structure BalancePreference where
  left : Channel := {}
  right : Channel := {}
  maxAllowedValue : Int32 := 0
  minAllowedValue : Int32 := -12
  deriving DecidableEq, Repr

namespace BalancePreference

/-- What `loadBalanceConfiguration` reads from the service, up to the first call that fails. -/
def read (s : DacState) (p : BalancePreference) : BalancePreference :=
  match s.getSupportedFeatureValues .balanceLeft with
  | none => p
  | some states =>
      let p := { p with
        minAllowedValue := states.range.min
        maxAllowedValue := states.range.max }
      match s.getFeatureValue .balanceLeft with
      | none => p
      | some leftBalance =>
          let p := { p with left := { p.left with balance := -leftBalance } }
          match s.getFeatureValue .balanceRight with
          | none => p
          | some rightBalance => { p with right := { p.right with balance := -rightBalance } }

def loadBalanceConfiguration (s : DacState) (p : BalancePreference) : BalancePreference :=
  let p := p.read s
  { p with
    left := p.left.loaded p.minAllowedValue p.maxAllowedValue
    right := p.right.loaded p.minAllowedValue p.maxAllowedValue }

end BalancePreference

/-- The service, and the preference on the panel. -/
structure BalancePanel where
  service : DacState
  preference : BalancePreference

/-- A click on a button, with how the writes it leads to end, or something else that is done on
the panel or the tile. -/
inductive BalanceOp
  | updateLeftBalance (increase : Bool) (answers : Answers)
  | updateRightBalance (increase : Bool) (answers : Answers)
  | other (call : PanelCall)

namespace BalancePanel

/-- `onBindViewHolder`, with the buttons of a new view. -/
def bind (service : DacState) : BalancePanel where
  service := service
  preference := BalancePreference.loadBalanceConfiguration service {}

def updateLeftBalance (device : Device) (dacFeatures : List Feature) (increase : Bool)
    (answers : Answers) (s : BalancePanel) : BalancePanel :=
  let p := s.preference
  let left := p.left.updated p.minAllowedValue p.maxAllowedValue increase
  { service :=
      PanelCall.next device dacFeatures s.service ⟨.setLeftBalance (-left.balance), answers⟩
    preference := { p with left } }

def updateRightBalance (device : Device) (dacFeatures : List Feature) (increase : Bool)
    (answers : Answers) (s : BalancePanel) : BalancePanel :=
  let p := s.preference
  let right := p.right.updated p.minAllowedValue p.maxAllowedValue increase
  { service :=
      PanelCall.next device dacFeatures s.service ⟨.setRightBalance (-right.balance), answers⟩
    preference := { p with right } }

def next (device : Device) (dacFeatures : List Feature) (s : BalancePanel) :
    BalanceOp → BalancePanel
  | .updateLeftBalance increase answers => s.updateLeftBalance device dacFeatures increase answers
  | .updateRightBalance increase answers => s.updateRightBalance device dacFeatures increase answers
  | .other call => { s with service := call.next device dacFeatures s.service }

/-- The bounds are those of the service, and both channels fit into them. -/
structure Shows (low high : Int32) (s : BalancePanel) : Prop where
  min : s.preference.minAllowedValue = low
  max : s.preference.maxAllowedValue = high
  left : s.preference.left.Fits low high
  right : s.preference.right.Fits low high

/-- The service has stored the attenuations that are shown as gains. -/
structure Agrees (features : List Feature) (low high : Int32) (s : BalancePanel) : Prop
    extends Shows low high s where
  stored : ∃ values, Holding features values s.service ∧
    values .balanceLeft = -s.preference.left.balance ∧
    values .balanceRight = -s.preference.right.balance

/-- The clicks get through to the properties, and nothing else sets the balance. -/
def GetsThrough (_ : BalancePanel) : BalanceOp → Prop
  | .updateLeftBalance _ answers | .updateRightBalance _ answers =>
      answers.propertySets.headD true = true
  | .other call => ∀ chosen ∈ call.op.chosen,
      chosen.1 ≠ .balanceLeft ∧ chosen.1 ≠ .balanceRight

instance (s : BalancePanel) (op : BalanceOp) : Decidable (s.GetsThrough op) :=
  match op with
  | .updateLeftBalance _ answers | .updateRightBalance _ answers =>
      inferInstanceAs (Decidable (answers.propertySets.headD true = true))
  | .other call => inferInstanceAs (Decidable (∀ chosen ∈ call.op.chosen, _))

variable {device : Device} {features : List Feature} {low high : Int32} {s : BalancePanel}

/-- The preference starts with what the service has stored. -/
theorem agrees_bind {service : DacState} {values : Feature → Int32} {states : FeatureStates}
    (hholding : Holding features values service)
    (hstates : service.getSupportedFeatureValues .balanceLeft = some states)
    (hbounds : states.range.min ≠ states.range.max)
    (hsupported : .balanceLeft ∈ features ∧ .balanceRight ∈ features)
    (hwithin : ∀ f, f = .balanceLeft ∨ f = .balanceRight →
      states.range.min.toInt ≤ (-values f).toInt ∧ (-values f).toInt ≤ states.range.max.toInt) :
    (bind service).Agrees features states.range.min states.range.max := by
  have hread : BalancePreference.read service {} =
      { left := { balance := -values .balanceLeft }
        right := { balance := -values .balanceRight }
        minAllowedValue := states.range.min
        maxAllowedValue := states.range.max } := by
    rw [BalancePreference.read, hstates]
    dsimp only
    rw [hholding.reads _ hsupported.1, hholding.reads _ hsupported.2]
  have hleft := hwithin .balanceLeft (.inl rfl)
  have hright := hwithin .balanceRight (.inr rfl)
  have hbalance : ∀ balance, (Channel.loaded states.range.min states.range.max
      { balance }).balance = balance := by
    intro balance
    rw [Channel.loaded]
    split
    next => rfl
    next => split <;> rfl
  refine ⟨⟨?_, ?_, ?_, ?_⟩, ?_⟩
  · rw [bind, BalancePreference.loadBalanceConfiguration, hread]
  · rw [bind, BalancePreference.loadBalanceConfiguration, hread]
  · rw [bind, BalancePreference.loadBalanceConfiguration, hread]
    exact Channel.fits_loaded hbounds hleft.1 hleft.2
  · rw [bind, BalancePreference.loadBalanceConfiguration, hread]
    exact Channel.fits_loaded hbounds hright.1 hright.2
  · rw [bind, BalancePreference.loadBalanceConfiguration, hread]
    refine ⟨values, hholding, ?_, ?_⟩
    · dsimp only
      rw [hbalance, Int32.neg_neg]
    · dsimp only
      rw [hbalance, Int32.neg_neg]

/-- A balance that gets through is stored, and the other one stays. -/
theorem holding_click {service : DacState} {values : Feature → Int32}
    (hholding : Holding features values service)
    {f : Feature} {k : Setting} (hf : f.setting = some k) {v : Int32} {text : String}
    (htext : k.encode v = some text) (hsupported : f ∈ features) {op : PanelOp}
    (hchosen : op.chosen = some (f, v)) {answers : Answers}
    (hthrough : answers.propertySets.headD true = true) :
    Holding features (Function.update values f v)
      (PanelCall.next device features service ⟨op, answers⟩) := by
  have hnext := hholding.next device ⟨op, answers⟩
  rw [getD_stored hchosen, stores_of_setting hf hsupported htext, if_pos hthrough] at hnext
  exact hnext

/-- What is shown stays in order, whether a click gets through or not. -/
theorem Shows.next (h : s.Shows low high) (op : BalanceOp) :
    (s.next device features op).Shows low high := by
  obtain ⟨hmin, hmax, hleft, hright⟩ := h
  cases op with
  | updateLeftBalance increase answers =>
      have hfits := hleft.updated increase
      rw [← hmin, ← hmax] at hfits ⊢
      exact ⟨rfl, rfl, hfits, hmin ▸ hmax ▸ hright⟩
  | updateRightBalance increase answers =>
      have hfits := hright.updated increase
      rw [← hmin, ← hmax] at hfits ⊢
      exact ⟨rfl, rfl, hmin ▸ hmax ▸ hleft, hfits⟩
  | other call => exact ⟨hmin, hmax, hleft, hright⟩

/-- A click that gets through, or anything that sets no balance, keeps the agreement. -/
theorem Agrees.next (h : s.Agrees features low high)
    (hsupported : .balanceLeft ∈ features ∧ .balanceRight ∈ features) {op : BalanceOp}
    (hop : s.GetsThrough op) : (s.next device features op).Agrees features low high := by
  refine ⟨h.toShows.next op, ?_⟩
  obtain ⟨values, hholding, hstoredLeft, hstoredRight⟩ := h.stored
  cases op with
  | updateLeftBalance increase answers =>
      refine ⟨_, holding_click hholding rfl rfl hsupported.1 rfl hop, Function.update_self .., ?_⟩
      rw [Function.update_of_ne (by decide)]
      exact hstoredRight
  | updateRightBalance increase answers =>
      refine ⟨_, holding_click hholding rfl rfl hsupported.2 rfl hop, ?_, Function.update_self ..⟩
      rw [Function.update_of_ne (by decide)]
      exact hstoredLeft
  | other call =>
      have hkept : ∀ f, f = .balanceLeft ∨ f = .balanceRight →
          (call.stored device features f).getD (values f) = values f := by
        intro f hf
        rw [PanelCall.stored]
        cases hchosen : call.op.chosen with
        | none => rfl
        | some chosen =>
            obtain ⟨hnotLeft, hnotRight⟩ := hop chosen hchosen
            dsimp only
            rw [if_neg, Option.getD_none]
            rintro ⟨rfl, -⟩
            exact hf.elim hnotLeft hnotRight
      refine ⟨_, hholding.next device call, ?_, ?_⟩
      · exact (hkept .balanceLeft (.inl rfl)).trans hstoredLeft
      · exact (hkept .balanceRight (.inr rfl)).trans hstoredRight

/-- Three clicks down on the left and one up, with the DAC switched on in between. -/
def leftDown : List BalanceOp :=
  [.updateLeftBalance false {}, .updateLeftBalance false {}, .other ⟨.enable, {}⟩,
    .updateLeftBalance false {}, .updateLeftBalance true {}]

end BalancePanel

end LgeHardware.Dac
