import LgeHardware.Amplifier.HifiPath

/-! # Requests for the Hi-Fi DAC

A request is recorded in the property and applied at the next routing of the headphones.
It is refused when the path applied last is already the one it asks for, which says nothing
about the property.
-/

namespace LgeHardware.Amplifier

open LgeHardware.Foundation

/-! ## What a call asks for -/

/-- The parameters ask for the DAC to be turned on or off. -/
def StrParms.request (parms : StrParms) : Option Bool :=
  match parms.lookup "hifi_dac" with
  | some value => if value = "on" then some true else if value = "off" then some false else none
  | none => none

/-- The state that a call of `set_parameters` asks for. The allocations succeed, and nobody
else changes the property while the call runs. -/
def Op.request : Op → Option Bool
  | .setParameters .opened parms answers =>
      if answers.strParmsToStr && answers.calloc && answers.reentries.all Reentry.isCall then
        StrParms.request parms
      else none
  | _ => none

/-- After a request, the property is as it asks for. -/
def Recorded (op : Op) (t : AudioState) : Prop := ∀ enable ∈ op.request, t.asked = enable

instance (op : Op) (t : AudioState) : Decidable (Recorded op t) :=
  inferInstanceAs (Decidable (∀ enable ∈ op.request, t.asked = enable))

/-- The write of the property succeeds. -/
def Op.stores : Op → Bool
  | .setParameters _ _ answers => answers.propertySet
  | _ => false

/-- A request comes when the property is already as it asks for, or when the audio device is
known, the path applied last is the other one, and the property can be written. -/
def Grantable (s : AudioState) (op : Op) : Prop :=
  ∀ enable ∈ op.request, s.asked = enable ∨
    (s.lgeAmplifier.adev = true ∧ s.lgeAmplifier.hifiDacEnabled ≠ enable ∧ op.stores = true)

/-! ## A request -/

/-- What the command writes into the property. -/
def propertyText (enable : Bool) : String := if enable then "true" else "false"

/-- The text that is stored is read as what was meant. -/
theorem propertyGetBool_propertyText (enable : Bool) :
    propertyGetBool (propertyText enable) false = enable := by
  cases enable
  · decide
  · decide

/-- The property that a request for `enable` leaves. -/
def AudioState.requested (s : AudioState) (enable stores : Bool) : String :=
  if s.lgeAmplifier.adev = true ∧ s.lgeAmplifier.hifiDacEnabled ≠ enable ∧ stores = true then
    propertyText enable
  else s.hifiEnabled

/-- A request that differs from the flag is stored if the property takes it. -/
theorem AudioState.requested_of_granted (s : AudioState) {enable : Bool}
    (hadev : s.lgeAmplifier.adev = true) (hflag : s.lgeAmplifier.hifiDacEnabled ≠ enable)
    (stores : Bool) :
    s.requested enable stores = if stores = true then propertyText enable else s.hifiEnabled := by
  simp only [AudioState.requested, hadev, hflag, ne_eq, not_false_eq_true, true_and]

/-- A request for what the flag says is refused and leaves the property. -/
theorem AudioState.requested_of_refused (s : AudioState) {enable : Bool}
    (hflag : s.lgeAmplifier.hifiDacEnabled = enable) (stores : Bool) :
    s.requested enable stores = s.hifiEnabled :=
  if_neg fun h => h.2.1 hflag

/-- Storing the property and switching the playback, where nobody else sets the property. -/
theorem ends_store (build : Build) {answers : ParametersAnswers}
    (hcalls : answers.reentries.all Reentry.isCall = true) (text : String) (s : AudioState) :
    Ends (do
      propertySet answers.propertySet text
      switchPlayback build answers.reentries
      return (0 : Int)) s
      (fun _ t => t.hifiEnabled = if answers.propertySet = true then text else s.hifiEnabled)
      (fun _ t => t.hifiEnabled = if answers.propertySet = true then text else s.hifiEnabled) := by
  have hswitch : Moves (HifiFrame False) True (switchPlayback build answers.reentries) :=
    hifiFrame_switchPlayback build fun _ => hcalls
  cases hok : answers.propertySet with
  | true =>
      rw [propertySet, if_pos rfl, if_pos rfl, ends_bind, propertyChanged, ends_modify, ends_bind]
      exact (hswitch _).mono (fun _ _ h => h.property id) fun _ _ h => h.2.property id
  | false =>
      rw [propertySet, if_neg Bool.false_ne_true, if_neg Bool.false_ne_true, ends_bind, ends_pure,
        ends_bind]
      exact (hswitch _).mono (fun _ _ h => h.property id) fun _ _ h => h.2.property id

/-- A request is read as a whole, since its text fits into the buffer. -/
theorem StrParms.getStr_of_request {parms : StrParms} {enable : Bool} (build : Build)
    (h : parms.request = some enable) :
    parms.getStr "hifi_dac" build.abi.sizeofPointer = some (if enable then "on" else "off") := by
  rw [StrParms.request] at h
  rw [StrParms.getStr]
  cases hvalue : parms.lookup "hifi_dac" with
  | none =>
      rw [hvalue] at h
      cases h
  | some value =>
      simp only [hvalue] at h
      split at h
      · cases h
        rename_i hon
        rw [hon]
        cases build.abi
        · decide
        · decide
      · split at h
        · cases h
          rename_i hoff
          rw [hoff]
          cases build.abi
          · decide
          · decide
        · cases h

/-- A request is refused where the flag is already as it asks for. -/
theorem ends_setHifiDac_of_request (build : Build) (enable : Bool) {answers : ParametersAnswers}
    (hcalls : answers.reentries.all Reentry.isCall = true) {s : AudioState}
    (hadev : s.lgeAmplifier.adev = true) :
    Ends (setHifiDac build (if enable then "on" else "off") answers) s
      (fun _ t => t.hifiEnabled = s.requested enable answers.propertySet)
      (fun _ t => t.hifiEnabled = s.requested enable answers.propertySet) := by
  have hstore := ends_store build hcalls (propertyText enable) s
  rw [setHifiDac, ends_bind, ends_get]
  cases enable with
  | true =>
      rw [if_pos rfl, if_pos (by decide)]
      cases hflag : s.lgeAmplifier.hifiDacEnabled with
      | true => exact (s.requested_of_refused hflag _).symm
      | false =>
          rw [if_neg Bool.false_ne_true, s.requested_of_granted hadev (by rw [hflag]; decide)]
          exact hstore
  | false =>
      rw [if_neg Bool.false_ne_true, if_neg (by decide), if_pos (by decide)]
      cases hflag : s.lgeAmplifier.hifiDacEnabled with
      | false => exact (s.requested_of_refused hflag _).symm
      | true =>
          rw [if_neg (by simp), s.requested_of_granted hadev (by rw [hflag]; decide)]
          exact hstore

/-- What a request makes of the property. -/
theorem ends_setParameters_of_request (build : Build) {parms : StrParms}
    {answers : ParametersAnswers} {enable : Bool}
    (hrequest : (Op.setParameters .opened parms answers).request = some enable)
    (s : AudioState) :
    Ends (setParameters build .opened parms answers) s
      (fun _ t => t.hifiEnabled = s.requested enable answers.propertySet)
      (fun _ t => t.hifiEnabled = s.requested enable answers.propertySet) := by
  rw [Op.request] at hrequest
  split at hrequest
  · rename_i hanswers
    simp only [Bool.and_eq_true] at hanswers
    rw [setParameters, if_neg (by decide), ends_bind, ends_get, ends_ite]
    refine ⟨fun hnone => ?_, fun hadev => ?_⟩
    · rw [ends_pure, AudioState.requested, hnone]
      rfl
    · rw [if_neg (by simp [hanswers.1.1]), if_neg (by simp [hanswers.1.2]),
        StrParms.getStr_of_request build hrequest]
      exact ends_setHifiDac_of_request build enable hanswers.2 (Bool.not_eq_false _ ▸ hadev)
  · cases hrequest

/-! ## Runs -/

/-- The property says what was requested exactly if it did before or the request was stored. -/
theorem asked_requested_iff (s : AudioState) (enable stores : Bool) :
    propertyGetBool (s.requested enable stores) false = enable ↔
      s.asked = enable ∨
        (s.lgeAmplifier.adev = true ∧ s.lgeAmplifier.hifiDacEnabled ≠ enable ∧ stores = true) := by
  rw [AudioState.requested]
  split
  · rename_i hgranted
    exact iff_of_true (propertyGetBool_propertyText enable) (.inr hgranted)
  · rename_i hrefused
    exact (or_iff_left hrefused).symm

/-- An operation leaves its request recorded exactly if the request can be granted. -/
theorem recorded_step_iff (build : Build) (s : AudioState) (op : Op) :
    Recorded op (step build s op) ↔ Grantable s op := by
  cases hrequest : op.request with
  | none =>
      rw [Recorded, Grantable, hrequest]
      exact iff_of_true nofun nofun
  | some enable =>
      cases op with
      | setParameters device parms answers =>
          cases device with
          | null => cases hrequest
          | opened =>
              have hends : Ends (setParameters build .opened parms answers) s
                  (fun _ t => t.hifiEnabled = s.requested enable answers.propertySet)
                  (fun _ t => t.hifiEnabled = s.requested enable answers.propertySet) :=
                ends_setParameters_of_request build hrequest s
              have hproperty : (step build s (.setParameters .opened parms answers)).hifiEnabled =
                  s.requested enable answers.propertySet := hends.holds
              simp only [Recorded, Grantable, hrequest, Option.mem_some_iff, forall_eq',
                AudioState.asked, hproperty]
              exact asked_requested_iff s enable answers.propertySet
      | setOutputDevices device devices => cases hrequest
      | setFeedback device adev devices enable' answers => cases hrequest
      | calibrate device adev => cases hrequest
      | propertyChanged value => cases hrequest
      | startUsecase usecase => cases hrequest
      | stopUsecase address => cases hrequest

/-- In every run from any state, every request is in the property after its call exactly if each of
them was there before or could be granted and stored. -/
theorem hifi_requests_recorded_iff (build : Build) (start : AudioState) (ops : List Op) :
    Admits (step build) (fun s op => Recorded op (step build s op)) start ops ↔
      Admits (step build) Grantable start ops := by
  apply (Admits.always start ops).congr fun _ => True
  · exact fun _ _ _ _ => trivial
  · exact fun s op _ _ => recorded_step_iff build s op
  · trivial

/-- The DAC is turned on while nothing is played, and off again before the headphones are
routed. -/
def turnedOffEarly : List Op :=
  [.calibrate .opened true, .setParameters .opened [("hifi_dac", "on")] {},
    .setParameters .opened [("hifi_dac", "off")] {}]

/-- The second request is refused, and the property keeps asking for the DAC. -/
theorem hifi_request_lost :
    moduleOpen "audio" "audio" true = .ok {} ∧
      Admits (step {}) (Returns {}) (opened {} "false") turnedOffEarly ∧
      (run (step {}) (opened {} "false") turnedOffEarly).asked = true ∧
      ¬Admits (step {}) (fun s op => Recorded op (step {} s op)) (opened {} "false")
        turnedOffEarly :=
  ⟨rfl, by decide +kernel, by decide +kernel, by decide +kernel⟩

end LgeHardware.Amplifier
