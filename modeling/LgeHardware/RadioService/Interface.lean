import Mathlib.Tactic.Common

/-! # The radio interfaces

The requests of `IRadio` 1.1 to 1.5 and the 1.0 requests that the service falls back to.
`P` stands for the structures of the interface that the service passes on without a look
at them. The enumerations and bit fields that it only passes on are their numbers.
-/

namespace LgeHardware.RadioService

/-- The versions of the interface, each of which extends the one before. -/
inductive Version
  | v1_0 | v1_1 | v1_2 | v1_3 | v1_4 | v1_5
  deriving DecidableEq, Repr

def Version.minor : Version → Nat
  | .v1_0 => 0
  | .v1_1 => 1
  | .v1_2 => 2
  | .v1_3 => 3
  | .v1_4 => 4
  | .v1_5 => 5

/-! ## Types of the interface -/

/-- `V1_1::CardPowerState`. -/
inductive CardPowerState
  | powerDown
  | powerUp
  | powerUpPassThrough
  | other (value : Int32)
  deriving DecidableEq, Repr

/-- The cast to `bool`. -/
def CardPowerState.toBool : CardPowerState → Bool
  | .powerDown => false
  | .powerUp | .powerUpPassThrough => true
  | .other value => value ≠ 0

/-- `V1_2::DataRequestReason`. -/
inductive DataRequestReason
  | normal
  | shutdown
  | handover
  | other (value : Int32)
  deriving DecidableEq, Repr

/-- `V1_4::PdpProtocolType`. -/
inductive PdpProtocolType
  | ip | ipv6 | ipv4v6 | ppp | nonIp | unstructured
  | other (value : Int32)
  deriving DecidableEq, Repr

/-- `V1_4::SimLockMultiSimPolicy`. -/
inductive SimLockMultiSimPolicy
  | noMultisimPolicy
  | other (value : Int32)
  deriving DecidableEq, Repr

/-- `V1_0::PreferredNetworkType`. -/
inductive PreferredNetworkType
  | gsmWcdma | gsmWcdmaAuto | gsmOnly | wcdma | cdmaEvdoAuto | cdmaOnly | evdoOnly
  | gsmWcdmaCdmaEvdoAuto | lteCdmaEvdo | lteGsmWcdma | lteCmdaEvdoGsmWcdma | lteOnly
  | lteWcdma | tdScdmaOnly | tdScdmaWcdma | tdScdmaLte | tdScdmaGsm | tdScdmaGsmLte
  | tdScdmaGsmWcdma | tdScdmaWcdmaLte | tdScdmaGsmWcdmaLte | tdScdmaGsmWcdmaCdmaEvdoAuto
  | tdScdmaLteCdmaEvdoGsmWcdma
  deriving DecidableEq, Repr

/-- `V1_0::RadioError`. -/
inductive RadioError
  | none
  | requestNotSupported
  | other (value : Int32)
  deriving DecidableEq, Repr

/-- `V1_0::RadioResponseType`. -/
inductive RadioResponseType
  | solicited
  | solicitedAck
  | solicitedAckExp
  deriving DecidableEq, Repr

structure RadioResponseInfo where
  type : RadioResponseType
  serial : Int32
  error : RadioError
  deriving DecidableEq, Repr

/-- `V1_0::RadioTechnology`, by its number. -/
abbrev RadioTechnology := Int32

/-- `V1_0::RadioTechnology::UNKNOWN`. -/
def radioTechnologyUnknown : RadioTechnology := 0

/-- `V1_4::DataProfileInfo`. -/
structure DataProfileInfo14 where
  profileId : Int32
  apn : String
  protocol : PdpProtocolType
  roamingProtocol : PdpProtocolType
  authType : Int32
  user : String
  password : String
  type : Int32
  maxConnsTime : Int32
  maxConns : Int32
  waitTime : Int32
  enabled : Bool
  supportedApnTypesBitmap : UInt32
  bearerBitmap : UInt32
  mtu : Int32
  preferred : Bool
  persistent : Bool
  deriving DecidableEq, Repr

/-- `V1_0::MvnoType`. -/
inductive MvnoType
  | none
  | other (value : Int32)
  deriving DecidableEq, Repr

/-- `V1_0::DataProfileInfo`. -/
structure DataProfileInfo10 where
  profileId : Int32
  apn : String
  protocol : String
  roamingProtocol : String
  authType : Int32
  user : String
  password : String
  type : Int32
  maxConnsTime : Int32
  maxConns : Int32
  waitTime : Int32
  enabled : Bool
  supportedApnTypesBitmap : UInt32
  bearerBitmap : UInt32
  mtu : Int32
  mvnoType : MvnoType
  mvnoMatchData : String
  deriving DecidableEq, Repr

section

variable (P : Type)

/-- `V1_1::NetworkScanRequest`. -/
structure NetworkScanRequest11 where
  type : Int32
  interval : Int32
  specifiers : List P
  deriving DecidableEq, Repr

/-- `V1_2::NetworkScanRequest`. -/
structure NetworkScanRequest12 where
  type : Int32
  interval : Int32
  specifiers : List P
  maxSearchTime : Int32
  incrementalResults : Bool
  incrementalResultsPeriodicity : Int32
  mccMncs : List String
  deriving DecidableEq, Repr

/-- `V1_0::CarrierRestrictions`. -/
structure CarrierRestrictions where
  allowedCarriers : List P := []
  excludedCarriers : List P := []
  deriving DecidableEq, Repr

/-- `V1_4::CarrierRestrictionsWithPriority`. -/
structure CarrierRestrictionsWithPriority where
  allowedCarriers : List P
  excludedCarriers : List P
  allowedCarriersPrioritized : Bool
  deriving DecidableEq, Repr

/-- The requests of `IRadio` 1.1 to 1.5. -/
inductive Request
  | setCarrierInfoForImsiEncryption (serial : Int32) (imsiEncryptionInfo : P)
  | setSimCardPower_1_1 (serial : Int32) (power : CardPowerState)
  | startNetworkScan (serial : Int32) (request : NetworkScanRequest11 P)
  | stopNetworkScan (serial : Int32)
  | startKeepalive (serial : Int32) (keepalive : P)
  | stopKeepalive (serial sessionHandle : Int32)
  | startNetworkScan_1_2 (serial : Int32) (request : NetworkScanRequest12 P)
  | setIndicationFilter_1_2 (serial : Int32) (indicationFilter : UInt32)
  | setSignalStrengthReportingCriteria (serial hysteresisMs hysteresisDb : Int32)
      (thresholdsDbm : List Int32) (accessNetwork : Int32)
  | setLinkCapacityReportingCriteria
      (serial hysteresisMs hysteresisDlKbps hysteresisUlKbps : Int32)
      (thresholdsDownlinkKbps thresholdsUplinkKbps : List Int32) (accessNetwork : Int32)
  | setupDataCall_1_2 (serial accessNetwork : Int32) (dataProfileInfo : DataProfileInfo10)
      (modemCognitive roamingAllowed isRoaming : Bool) (reason : DataRequestReason)
      (addresses dnses : List String)
  | deactivateDataCall_1_2 (serial cid : Int32) (reason : DataRequestReason)
  | setSystemSelectionChannels (serial : Int32) (specifyChannels : Bool) (specifiers : List P)
  | enableModem (serial : Int32) (on : Bool)
  | getModemStackStatus (serial : Int32)
  | setupDataCall_1_4 (serial accessNetwork : Int32) (dataProfileInfo : DataProfileInfo14)
      (roamingAllowed : Bool) (reason : DataRequestReason) (addresses dnses : List String)
  | setInitialAttachApn_1_4 (serial : Int32) (dataProfileInfo : DataProfileInfo14)
  | setDataProfile_1_4 (serial : Int32) (profiles : List DataProfileInfo14)
  | emergencyDial (serial : Int32) (dialInfo : P) (categories : UInt32) (urns : List String)
      (routing : Int32) (hasKnownUserIntentEmergency isTesting : Bool)
  | startNetworkScan_1_4 (serial : Int32) (request : NetworkScanRequest12 P)
  | getPreferredNetworkTypeBitmap (serial : Int32)
  | setPreferredNetworkTypeBitmap (serial : Int32) (networkTypeBitmap : UInt32)
  | setAllowedCarriers_1_4 (serial : Int32) (carriers : CarrierRestrictionsWithPriority P)
      (multiSimPolicy : SimLockMultiSimPolicy)
  | getAllowedCarriers_1_4 (serial : Int32)
  | getSignalStrength_1_4 (serial : Int32)
  | setSignalStrengthReportingCriteria_1_5 (serial : Int32) (signalThresholdInfo : P)
      (accessNetwork : Int32)
  | setLinkCapacityReportingCriteria_1_5
      (serial hysteresisMs hysteresisDlKbps hysteresisUlKbps : Int32)
      (thresholdsDownlinkKbps thresholdsUplinkKbps : List Int32) (accessNetwork : Int32)
  | enableUiccApplications (serial : Int32) (enable : Bool)
  | areUiccApplicationsEnabled (serial : Int32)
  | setSystemSelectionChannels_1_5 (serial : Int32) (specifyChannels : Bool)
      (specifiers : List P)
  | startNetworkScan_1_5 (serial : Int32) (request : P)
  | setupDataCall_1_5 (serial accessNetwork : Int32) (dataProfileInfo : P)
      (roamingAllowed : Bool) (reason : DataRequestReason) (addresses : List P)
      (dnses : List String)
  | setInitialAttachApn_1_5 (serial : Int32) (dataProfileInfo : P)
  | setDataProfile_1_5 (serial : Int32) (profiles : List P)
  | setRadioPower_1_5 (serial : Int32)
      (powerOn forEmergencyCall preferredForEmergencyCall : Bool)
  | setIndicationFilter_1_5 (serial : Int32) (indicationFilter : UInt32)
  | getBarringInfo (serial : Int32)
  | getVoiceRegistrationState_1_5 (serial : Int32)
  | getDataRegistrationState_1_5 (serial : Int32)
  | setNetworkSelectionModeManual_1_5 (serial : Int32) (operatorNumeric : String) (ran : Int32)
  | sendCdmaSmsExpectMore (serial : Int32) (sms : P)
  | supplySimDepersonalization (serial persoType : Int32) (controlKey : String)
  deriving DecidableEq, Repr

/-- A call of the real radio: a request of a later version, or one of 1.0. -/
inductive RadioCall
  | later (request : Request P)
  | setSimCardPower (serial : Int32) (powerUp : Bool)
  | setIndicationFilter (serial : Int32) (indicationFilter : UInt32)
  | deactivateDataCall (serial cid : Int32) (reasonRadioShutDown : Bool)
  | setupDataCall (serial : Int32) (radioTechnology : RadioTechnology)
      (dataProfileInfo : DataProfileInfo10) (modemCognitive roamingAllowed isRoaming : Bool)
  | setInitialAttachApn (serial : Int32) (dataProfileInfo : DataProfileInfo10)
      (modemCognitive isRoaming : Bool)
  | setDataProfile (serial : Int32) (profiles : List DataProfileInfo10) (isRoaming : Bool)
  | getPreferredNetworkType (serial : Int32)
  | setPreferredNetworkType (serial : Int32) (nwType : PreferredNetworkType)
  | setAllowedCarriers (serial : Int32) (allAllowed : Bool) (carriers : CarrierRestrictions P)
  | getAllowedCarriers (serial : Int32)
  | getSignalStrength (serial : Int32)
  deriving DecidableEq, Repr

end

/-- The response callbacks of 1.5, with what they carry besides the response info. An
empty structure of the interface stands as `{}` in the source and is left out here. -/
inductive ResponseMethod
  | setSignalStrengthReportingCriteriaResponse_1_5
  | setLinkCapacityReportingCriteriaResponse_1_5
  | enableUiccApplicationsResponse
  | areUiccApplicationsEnabledResponse (enabled : Bool)
  | setSystemSelectionChannelsResponse_1_5
  | startNetworkScanResponse_1_5
  | setupDataCallResponse_1_5
  | setInitialAttachApnResponse_1_5
  | setDataProfileResponse_1_5
  | setRadioPowerResponse_1_5
  | setIndicationFilterResponse_1_5
  | getBarringInfoResponse
  | getVoiceRegistrationStateResponse_1_5
  | getDataRegistrationStateResponse_1_5
  | setNetworkSelectionModeManualResponse_1_5
  | sendCdmaSmsExpectMoreResponse
  | supplySimDepersonalizationResponse (persoType remainingRetries : Int32)
  deriving DecidableEq, Repr

variable {P : Type}

def Request.serial : Request P → Int32
  | .setCarrierInfoForImsiEncryption serial _ | .setSimCardPower_1_1 serial _
  | .startNetworkScan serial _ | .stopNetworkScan serial | .startKeepalive serial _
  | .stopKeepalive serial _ | .startNetworkScan_1_2 serial _ | .setIndicationFilter_1_2 serial _
  | .setSignalStrengthReportingCriteria serial .. | .setLinkCapacityReportingCriteria serial ..
  | .setupDataCall_1_2 serial .. | .deactivateDataCall_1_2 serial ..
  | .setSystemSelectionChannels serial .. | .enableModem serial _ | .getModemStackStatus serial
  | .setupDataCall_1_4 serial .. | .setInitialAttachApn_1_4 serial _
  | .setDataProfile_1_4 serial _ | .emergencyDial serial .. | .startNetworkScan_1_4 serial _
  | .getPreferredNetworkTypeBitmap serial | .setPreferredNetworkTypeBitmap serial _
  | .setAllowedCarriers_1_4 serial .. | .getAllowedCarriers_1_4 serial
  | .getSignalStrength_1_4 serial | .setSignalStrengthReportingCriteria_1_5 serial ..
  | .setLinkCapacityReportingCriteria_1_5 serial .. | .enableUiccApplications serial _
  | .areUiccApplicationsEnabled serial | .setSystemSelectionChannels_1_5 serial ..
  | .startNetworkScan_1_5 serial _ | .setupDataCall_1_5 serial ..
  | .setInitialAttachApn_1_5 serial _ | .setDataProfile_1_5 serial _
  | .setRadioPower_1_5 serial .. | .setIndicationFilter_1_5 serial _ | .getBarringInfo serial
  | .getVoiceRegistrationState_1_5 serial | .getDataRegistrationState_1_5 serial
  | .setNetworkSelectionModeManual_1_5 serial .. | .sendCdmaSmsExpectMore serial _
  | .supplySimDepersonalization serial .. => serial

def RadioCall.serial : RadioCall P → Int32
  | .later request => request.serial
  | .setSimCardPower serial _ | .setIndicationFilter serial _ | .deactivateDataCall serial ..
  | .setupDataCall serial .. | .setInitialAttachApn serial .. | .setDataProfile serial ..
  | .getPreferredNetworkType serial | .setPreferredNetworkType serial _
  | .setAllowedCarriers serial .. | .getAllowedCarriers serial | .getSignalStrength serial =>
      serial

end LgeHardware.RadioService
