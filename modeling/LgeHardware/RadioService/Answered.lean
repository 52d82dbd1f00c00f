import LgeHardware.RadioService.Radio

/-! # Requests that are answered

The framework waits for the serial of every request. A request is answered if it goes to
the real radio once, which responds to it, or if the service responds to it once itself.
This holds of the requests that the real radio has, that the service translates to what the
real radio has, or that are of 1.5, which the service refuses. Any other request vanishes.
-/

namespace LgeHardware.RadioService

variable {P : Type}

/-- Exactly one of a call of the real radio and a response to the framework, with the
serial of the request. -/
def Answered (serial : Int32) (events : List (RadioEvent P)) : Prop :=
  (∃ call, calls events = [call] ∧ responses events = [] ∧ call.serial = serial) ∨
    (∃ info, calls events = [] ∧ responses events = [info] ∧ info.serial = serial)

@[simp] theorem answered_nil (serial : Int32) :
    ¬ Answered serial ([] : List (RadioEvent P)) := by
  rintro (⟨call, hcalls, -, -⟩ | ⟨info, -, hresponses, -⟩)
  · exact nomatch hcalls
  · exact nomatch hresponses

@[simp] theorem answered_call (serial : Int32) (call : RadioCall P) :
    Answered serial [.call call] ↔ call.serial = serial := by
  constructor
  · rintro (⟨_, hcalls, -, hserial⟩ | ⟨_, hcalls, -, -⟩)
    · cases hcalls
      exact hserial
    · exact nomatch hcalls
  · intro hserial
    exact .inl ⟨call, rfl, rfl, hserial⟩

@[simp] theorem answered_respond (serial : Int32) (info : RadioResponseInfo)
    (method : ResponseMethod) :
    Answered serial ([.respond info method] : List (RadioEvent P)) ↔
      info.serial = serial := by
  constructor
  · rintro (⟨_, hcalls, -, -⟩ | ⟨_, -, hresponses, hserial⟩)
    · exact nomatch hcalls
    · cases hresponses
      exact hserial
  · intro hserial
    exact .inr ⟨info, rfl, rfl, hserial⟩

/-! ## What is answered -/

/-- The version of the interface that a request came with. -/
def Request.version : Request P → Version
  | .setCarrierInfoForImsiEncryption .. | .setSimCardPower_1_1 .. | .startNetworkScan ..
  | .stopNetworkScan .. | .startKeepalive .. | .stopKeepalive .. => .v1_1
  | .startNetworkScan_1_2 .. | .setIndicationFilter_1_2 ..
  | .setSignalStrengthReportingCriteria .. | .setLinkCapacityReportingCriteria ..
  | .setupDataCall_1_2 .. | .deactivateDataCall_1_2 .. => .v1_2
  | .setSystemSelectionChannels .. | .enableModem .. | .getModemStackStatus .. => .v1_3
  | .setupDataCall_1_4 .. | .setInitialAttachApn_1_4 .. | .setDataProfile_1_4 ..
  | .emergencyDial .. | .startNetworkScan_1_4 .. | .getPreferredNetworkTypeBitmap ..
  | .setPreferredNetworkTypeBitmap .. | .setAllowedCarriers_1_4 .. | .getAllowedCarriers_1_4 ..
  | .getSignalStrength_1_4 .. => .v1_4
  | .setSignalStrengthReportingCriteria_1_5 .. | .setLinkCapacityReportingCriteria_1_5 ..
  | .enableUiccApplications .. | .areUiccApplicationsEnabled ..
  | .setSystemSelectionChannels_1_5 .. | .startNetworkScan_1_5 .. | .setupDataCall_1_5 ..
  | .setInitialAttachApn_1_5 .. | .setDataProfile_1_5 .. | .setRadioPower_1_5 ..
  | .setIndicationFilter_1_5 .. | .getBarringInfo .. | .getVoiceRegistrationState_1_5 ..
  | .getDataRegistrationState_1_5 .. | .setNetworkSelectionModeManual_1_5 ..
  | .sendCdmaSmsExpectMore .. | .supplySimDepersonalization .. => .v1_5

/-- There is an older request of a radio of this version that the request translates to. -/
def Translatable (real : Version) : Request P → Prop
  | .setSimCardPower_1_1 _ power => power ≠ .powerUpPassThrough
  | .setIndicationFilter_1_2 .. | .deactivateDataCall_1_2 .. | .setupDataCall_1_4 ..
  | .setInitialAttachApn_1_4 .. | .getPreferredNetworkTypeBitmap ..
  | .setPreferredNetworkTypeBitmap .. | .getAllowedCarriers_1_4 ..
  | .getSignalStrength_1_4 .. => True
  | .setDataProfile_1_4 _ profiles => ∃ profile ∈ profiles, profile.persistent
  | .startNetworkScan_1_4 .. => Version.v1_1.minor ≤ real.minor
  | .setAllowedCarriers_1_4 _ carriers multiSimPolicy =>
      Radio.carriersSupported carriers multiSimPolicy
  | _ => False

/-- The request is of the real radio, can be translated for it, or is one that the service
refuses. -/
def Served (real : Version) (request : Request P) : Prop :=
  request.version.minor ≤ real.minor ∨ Translatable real request ∨ request.version = .v1_5

namespace Radio

section

variable {r : Radio} {real : Version} (hreal : r.mRealRadio = some real)

include hreal

theorem answered_wrap (serial : Int32) (call : RadioCall P) :
    Answered serial (r.wrap call) ↔ call.serial = serial := by
  rw [wrap, hreal]
  exact answered_call serial call

theorem answered_maybeWrap (serial : Int32) (version : Version) (request : Request P)
    (otherwise : List (RadioEvent P)) :
    Answered serial (r.maybeWrap version request otherwise) ↔
      if version.minor ≤ real.minor then request.serial = serial
      else Answered serial otherwise := by
  rw [maybeWrap, hreal]
  by_cases hversion : version.minor ≤ real.minor
  · simp [hversion, RadioCall.serial]
  · simp [hversion]

/-- A request that is refused is answered, by the real radio or by the service. -/
theorem answered_wrapOrRefuse (request : Request P) (response : ResponseMethod) :
    Answered request.serial (r.wrapOrRefuse request response) := by
  rw [wrapOrRefuse, answered_maybeWrap hreal, answered_respond]
  split
  next => rfl
  next => rfl

/-- A request that is not translated is answered only by a radio that has it. -/
theorem answered_untranslated (request : Request P) :
    Answered request.serial (r.maybeWrap request.version request []) ↔
      request.version.minor ≤ real.minor := by
  simp [answered_maybeWrap hreal]

/-- A request that is translated to a call of 1.0 is always answered. -/
theorem answered_translated (version : Version) (request : Request P) (call : RadioCall P)
    (hserial : call.serial = request.serial) :
    Answered request.serial (r.maybeWrap version request (r.wrap call)) := by
  rw [answered_maybeWrap hreal, answered_wrap hreal]
  split
  next => rfl
  next => exact hserial

/-- A request whose translation depends on its arguments. -/
theorem answered_translated_if (version : Version) (request : Request P) (call : RadioCall P)
    (hserial : call.serial = request.serial) (condition : Prop) [Decidable condition] :
    Answered request.serial
        (r.maybeWrap version request (if condition then r.wrap call else [])) ↔
      version.minor ≤ real.minor ∨ condition := by
  by_cases hcondition : condition
  · simp only [hcondition, if_true, or_true, iff_true]
    exact answered_translated hreal version request call hserial
  · simp [hcondition, answered_maybeWrap hreal]

theorem answered_setupDataCall_1_4 (serial accessNetwork : Int32)
    (dataProfileInfo : DataProfileInfo14) (roamingAllowed : Bool) (reason : DataRequestReason)
    (addresses dnses : List String) :
    Answered (P := P) serial (r.setupDataCall_1_4 serial accessNetwork dataProfileInfo
      roamingAllowed reason addresses dnses) := by
  rw [setupDataCall_1_4, answered_maybeWrap hreal, answered_maybeWrap hreal,
    answered_wrap hreal]
  split
  next => rfl
  next => split <;> rfl

theorem answered_startNetworkScan_1_4 (serial : Int32) (request : NetworkScanRequest12 P) :
    Answered serial (r.startNetworkScan_1_4 serial request) ↔
      Version.v1_1.minor ≤ real.minor := by
  rw [startNetworkScan_1_4, answered_maybeWrap hreal, answered_maybeWrap hreal,
    answered_maybeWrap hreal]
  cases real <;> simp [Version.minor, Request.serial]

theorem answered_setDataProfile_1_4 (serial : Int32) (profiles : List DataProfileInfo14) :
    Answered (P := P) serial (r.setDataProfile_1_4 serial profiles) ↔
      Version.v1_4.minor ≤ real.minor ∨ ∃ profile ∈ profiles, profile.persistent := by
  have h := answered_translated_if (P := P) hreal .v1_4 (.setDataProfile_1_4 serial profiles)
    (.setDataProfile serial ((profiles.filter (·.persistent)).map get10DataProfileInfo)
      r.mRadioResponse.mDataRoaming) rfl
    ((profiles.filter (·.persistent)).map get10DataProfileInfo ≠ [])
  rw [setDataProfile_1_4]
  refine h.trans (or_congr_right ?_)
  simp

end

/-- A request is answered exactly if it is served. -/
theorem answered_iff_served (values : InterfaceValues) (real : Version)
    (responses : RadioResponse) (request : Request P) :
    Answered request.serial
        (perform { values, mRealRadio := some real, mRadioResponse := responses } request) ↔
      Served real request := by
  let r : Radio := { values, mRealRadio := some real, mRadioResponse := responses }
  have hreal : r.mRealRadio = some real := rfl
  cases request with
  | setCarrierInfoForImsiEncryption | startNetworkScan | stopNetworkScan | startKeepalive
  | stopKeepalive | startNetworkScan_1_2 | setSignalStrengthReportingCriteria
  | setLinkCapacityReportingCriteria | setupDataCall_1_2 | setSystemSelectionChannels
  | enableModem | getModemStackStatus | emergencyDial =>
      refine (answered_untranslated hreal _).trans ?_
      simp [Served, Translatable, Request.version]
  | setIndicationFilter_1_2 | deactivateDataCall_1_2 | setInitialAttachApn_1_4
  | getPreferredNetworkTypeBitmap | setPreferredNetworkTypeBitmap | getAllowedCarriers_1_4
  | getSignalStrength_1_4 =>
      exact iff_of_true (answered_translated hreal _ _ _ rfl) (.inr (.inl trivial))
  | setSimCardPower_1_1 serial power =>
      refine (answered_translated_if hreal _ _ _ rfl _).trans ?_
      simp [Served, Translatable, Request.version]
  | setAllowedCarriers_1_4 serial carriers multiSimPolicy =>
      refine (answered_translated_if hreal _ _ _ rfl _).trans ?_
      simp [Served, Translatable, Request.version]
  | setupDataCall_1_4 serial accessNetwork info roamingAllowed reason addresses dnses =>
      exact iff_of_true (answered_setupDataCall_1_4 hreal ..) (.inr (.inl trivial))
  | setDataProfile_1_4 serial profiles =>
      refine (answered_setDataProfile_1_4 hreal serial profiles).trans ?_
      simp [Served, Translatable, Request.version]
  | startNetworkScan_1_4 serial request =>
      refine (answered_startNetworkScan_1_4 hreal serial request).trans ?_
      cases real <;> simp [Served, Translatable, Request.version, Version.minor]
  | setSignalStrengthReportingCriteria_1_5 | setLinkCapacityReportingCriteria_1_5
  | enableUiccApplications | areUiccApplicationsEnabled | setSystemSelectionChannels_1_5
  | startNetworkScan_1_5 | setupDataCall_1_5 | setInitialAttachApn_1_5 | setDataProfile_1_5
  | setRadioPower_1_5 | setIndicationFilter_1_5 | getBarringInfo | getVoiceRegistrationState_1_5
  | getDataRegistrationState_1_5 | setNetworkSelectionModeManual_1_5 | sendCdmaSmsExpectMore
  | supplySimDepersonalization =>
      exact iff_of_true (answered_wrapOrRefuse hreal _ _) (.inr (.inr rfl))

/-- A keepalive that a radio of 1.0 does not have is neither passed on nor refused. -/
theorem startKeepalive_unanswered :
    ¬ Answered 7 (perform
      { values :=
          { indicationFilterAll := 7
            gsmBits := 65542
            cdmaBits := 112
            evdoBits := 12672
            wcdmaBits := 36360
            lteBits := 540672
            tdscdmaBit := 131072 }
        mRealRadio := some .v1_0 }
      (.startKeepalive 7 () : Request Unit)) :=
  answered_nil 7

end Radio

end LgeHardware.RadioService
