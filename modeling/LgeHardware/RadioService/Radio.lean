import LgeHardware.RadioService.Interface

/-! # The radio wrapper

The service offers `IRadio` 1.5 on top of a real radio that may support an older version
only. A request goes to the real radio if that has it. Otherwise the service translates it
to an older request, refuses it with a response of its own, or does neither.
-/

namespace LgeHardware.RadioService

variable {P : Type}

/-- The values of the interface that the service computes with, from generated headers:
`IndicationFilter::ALL` of 1.0, and the groups of network types that `Helpers.h` makes of
`RadioAccessFamily`. -/
structure InterfaceValues where
  indicationFilterAll : UInt32
  gsmBits : UInt32
  cdmaBits : UInt32
  evdoBits : UInt32
  wcdmaBits : UInt32
  lteBits : UInt32
  tdscdmaBit : UInt32
  deriving DecidableEq, Repr

/-- What `RadioResponse` keeps of the responses it passes on. -/
structure RadioResponse where
  mRat : RadioTechnology := radioTechnologyUnknown
  mDataRoaming : Bool := false
  deriving DecidableEq, Repr

/-- The service, with the version of the real radio if there is one. The response callbacks
are set. -/
structure Radio where
  values : InterfaceValues
  mRealRadio : Option Version
  mRadioResponse : RadioResponse := {}
  deriving DecidableEq, Repr

/-- What a request leads to: a call of the real radio, a response to the framework, or the
status `EX_ILLEGAL_STATE`. -/
inductive RadioEvent (P : Type)
  | call (call : RadioCall P)
  | respond (info : RadioResponseInfo) (method : ResponseMethod)
  | illegalState
  deriving DecidableEq, Repr

/-- The calls of the real radio among the events. -/
def calls (events : List (RadioEvent P)) : List (RadioCall P) :=
  events.filterMap fun
    | .call call => some call
    | _ => none

/-- The responses to the framework among the events. -/
def responses (events : List (RadioEvent P)) : List RadioResponseInfo :=
  events.filterMap fun
    | .respond info _ => some info
    | _ => none

/-- `getProtocolStringFromInt`. -/
def getProtocolStringFromInt : PdpProtocolType → String
  | .ip => "IP"
  | .ipv6 => "IPV6"
  | .ipv4v6 => "IPV4V6"
  | .ppp => "PPP"
  | .nonIp => "NON-IP"
  | .unstructured => "UNSTRUCTURED"
  | .other _ => ""

/-- `Get1_0DataProfileInfo`. -/
def get10DataProfileInfo (dataProfileInfo : DataProfileInfo14) : DataProfileInfo10 :=
  { profileId := dataProfileInfo.profileId
    apn := dataProfileInfo.apn
    protocol := getProtocolStringFromInt dataProfileInfo.protocol
    roamingProtocol := getProtocolStringFromInt dataProfileInfo.roamingProtocol
    authType := dataProfileInfo.authType
    user := dataProfileInfo.user
    password := dataProfileInfo.password
    type := dataProfileInfo.type
    maxConnsTime := dataProfileInfo.maxConnsTime
    maxConns := dataProfileInfo.maxConns
    waitTime := dataProfileInfo.waitTime
    enabled := dataProfileInfo.enabled
    supportedApnTypesBitmap := dataProfileInfo.supportedApnTypesBitmap
    bearerBitmap := dataProfileInfo.bearerBitmap
    mtu := dataProfileInfo.mtu
    mvnoType := .none
    mvnoMatchData := "" }

/-- `UnsupportedResponse`. -/
def unsupportedResponse (serial : Int32) : RadioResponseInfo :=
  { type := .solicited, serial, error := .requestNotSupported }

namespace InterfaceValues

variable (values : InterfaceValues)

/-- A bitmap with every group filled that it has a bit of. -/
def fillGroups (networkTypeBitmap : UInt32) : UInt32 :=
  [values.gsmBits, values.cdmaBits, values.evdoBits, values.wcdmaBits, values.lteBits].foldl
    (fun bitmap group => if bitmap &&& group ≠ 0 then bitmap ||| group else bitmap)
    networkTypeBitmap

/-- The cases of the switch of `setPreferredNetworkTypeBitmap`. -/
def networkTypes : List (UInt32 × PreferredNetworkType) :=
  let gsm := values.gsmBits
  let wcdma := values.wcdmaBits
  let cdma := values.cdmaBits
  let evdo := values.evdoBits
  let lte := values.lteBits
  let tdscdma := values.tdscdmaBit
  [(gsm ||| wcdma, .gsmWcdmaAuto),
    (gsm, .gsmOnly),
    (wcdma, .wcdma),
    (cdma ||| evdo, .cdmaEvdoAuto),
    (cdma, .cdmaOnly),
    (evdo, .evdoOnly),
    (gsm ||| wcdma ||| cdma ||| evdo, .gsmWcdmaCdmaEvdoAuto),
    (lte ||| cdma ||| evdo, .lteCdmaEvdo),
    (lte ||| gsm ||| wcdma, .lteGsmWcdma),
    (lte ||| cdma ||| evdo ||| gsm ||| wcdma, .lteCmdaEvdoGsmWcdma),
    (lte, .lteOnly),
    (lte ||| wcdma, .lteWcdma),
    (tdscdma, .tdScdmaOnly),
    (tdscdma ||| wcdma, .tdScdmaWcdma),
    (tdscdma ||| lte, .tdScdmaLte),
    (tdscdma ||| gsm, .tdScdmaGsm),
    (tdscdma ||| gsm ||| lte, .tdScdmaGsmLte),
    (tdscdma ||| gsm ||| wcdma, .tdScdmaGsmWcdma),
    (tdscdma ||| wcdma ||| lte, .tdScdmaWcdmaLte),
    (tdscdma ||| gsm ||| wcdma ||| lte, .tdScdmaGsmWcdmaLte),
    (tdscdma ||| gsm ||| wcdma ||| cdma ||| evdo, .tdScdmaGsmWcdmaCdmaEvdoAuto),
    (tdscdma ||| lte ||| cdma ||| evdo ||| gsm ||| wcdma, .tdScdmaLteCdmaEvdoGsmWcdma)]

/-- The network type of a bitmap. -/
def networkType (networkTypeBitmap : UInt32) : PreferredNetworkType :=
  (values.networkTypes.lookup (values.fillGroups networkTypeBitmap)).getD .lteCmdaEvdoGsmWcdma

end InterfaceValues

namespace Radio

variable (r : Radio)

/-- `WRAP_V1_0_CALL`. -/
def wrap (call : RadioCall P) : List (RadioEvent P) :=
  match r.mRealRadio with
  | some _ => [.call call]
  | none => [.illegalState]

/-- `MAYBE_WRAP_V1_x_CALL`, with what follows it. The cast to a version succeeds for a radio
of that version or a later one. -/
def maybeWrap (version : Version) (request : Request P) (otherwise : List (RadioEvent P)) :
    List (RadioEvent P) :=
  match r.mRealRadio with
  | some real => if version.minor ≤ real.minor then [.call (.later request)] else otherwise
  | none => otherwise

/-- A request of 1.5 goes to the real radio or is refused. -/
def wrapOrRefuse (request : Request P) (response : ResponseMethod) : List (RadioEvent P) :=
  r.maybeWrap .v1_5 request [.respond (unsupportedResponse request.serial) response]

/-! ## Methods of 1.1 -/

def setCarrierInfoForImsiEncryption (serial : Int32) (imsiEncryptionInfo : P) :
    List (RadioEvent P) :=
  r.maybeWrap .v1_1 (.setCarrierInfoForImsiEncryption serial imsiEncryptionInfo) []

def setSimCardPower_1_1 (serial : Int32) (power : CardPowerState) : List (RadioEvent P) :=
  r.maybeWrap .v1_1 (.setSimCardPower_1_1 serial power)
    (if power ≠ .powerUpPassThrough then r.wrap (.setSimCardPower serial power.toBool) else [])

def startNetworkScan (serial : Int32) (request : NetworkScanRequest11 P) :
    List (RadioEvent P) :=
  r.maybeWrap .v1_1 (.startNetworkScan serial request) []

def stopNetworkScan (serial : Int32) : List (RadioEvent P) :=
  r.maybeWrap .v1_1 (.stopNetworkScan serial) []

def startKeepalive (serial : Int32) (keepalive : P) : List (RadioEvent P) :=
  r.maybeWrap .v1_1 (.startKeepalive serial keepalive) []

def stopKeepalive (serial sessionHandle : Int32) : List (RadioEvent P) :=
  r.maybeWrap .v1_1 (.stopKeepalive serial sessionHandle) []

/-! ## Methods of 1.2 -/

def startNetworkScan_1_2 (serial : Int32) (request : NetworkScanRequest12 P) :
    List (RadioEvent P) :=
  r.maybeWrap .v1_2 (.startNetworkScan_1_2 serial request) []

def setIndicationFilter_1_2 (serial : Int32) (indicationFilter : UInt32) :
    List (RadioEvent P) :=
  r.maybeWrap .v1_2 (.setIndicationFilter_1_2 serial indicationFilter)
    (r.wrap (.setIndicationFilter serial (indicationFilter &&& r.values.indicationFilterAll)))

def setSignalStrengthReportingCriteria (serial hysteresisMs hysteresisDb : Int32)
    (thresholdsDbm : List Int32) (accessNetwork : Int32) : List (RadioEvent P) :=
  r.maybeWrap .v1_2 (.setSignalStrengthReportingCriteria serial hysteresisMs hysteresisDb
    thresholdsDbm accessNetwork) []

def setLinkCapacityReportingCriteria
    (serial hysteresisMs hysteresisDlKbps hysteresisUlKbps : Int32)
    (thresholdsDownlinkKbps thresholdsUplinkKbps : List Int32) (accessNetwork : Int32) :
    List (RadioEvent P) :=
  r.maybeWrap .v1_2 (.setLinkCapacityReportingCriteria serial hysteresisMs hysteresisDlKbps
    hysteresisUlKbps thresholdsDownlinkKbps thresholdsUplinkKbps accessNetwork) []

def setupDataCall_1_2 (serial accessNetwork : Int32) (dataProfileInfo : DataProfileInfo10)
    (modemCognitive roamingAllowed isRoaming : Bool) (reason : DataRequestReason)
    (addresses dnses : List String) : List (RadioEvent P) :=
  r.maybeWrap .v1_2 (.setupDataCall_1_2 serial accessNetwork dataProfileInfo modemCognitive
    roamingAllowed isRoaming reason addresses dnses) []

def deactivateDataCall_1_2 (serial cid : Int32) (reason : DataRequestReason) :
    List (RadioEvent P) :=
  r.maybeWrap .v1_2 (.deactivateDataCall_1_2 serial cid reason)
    (r.wrap (.deactivateDataCall serial cid (reason = .shutdown)))

/-! ## Methods of 1.3 -/

def setSystemSelectionChannels (serial : Int32) (specifyChannels : Bool)
    (specifiers : List P) : List (RadioEvent P) :=
  r.maybeWrap .v1_3 (.setSystemSelectionChannels serial specifyChannels specifiers) []

def enableModem (serial : Int32) (on : Bool) : List (RadioEvent P) :=
  r.maybeWrap .v1_3 (.enableModem serial on) []

def getModemStackStatus (serial : Int32) : List (RadioEvent P) :=
  r.maybeWrap .v1_3 (.getModemStackStatus serial) []

/-! ## Methods of 1.4 -/

def setupDataCall_1_4 (serial accessNetwork : Int32) (dataProfileInfo : DataProfileInfo14)
    (roamingAllowed : Bool) (reason : DataRequestReason) (addresses dnses : List String) :
    List (RadioEvent P) :=
  r.maybeWrap .v1_4 (.setupDataCall_1_4 serial accessNetwork dataProfileInfo roamingAllowed
    reason addresses dnses)
    (r.maybeWrap .v1_2 (.setupDataCall_1_2 serial accessNetwork
      (get10DataProfileInfo dataProfileInfo) dataProfileInfo.persistent roamingAllowed
      r.mRadioResponse.mDataRoaming reason addresses dnses)
      (r.wrap (.setupDataCall serial r.mRadioResponse.mRat (get10DataProfileInfo dataProfileInfo)
        dataProfileInfo.persistent roamingAllowed r.mRadioResponse.mDataRoaming)))

def setInitialAttachApn_1_4 (serial : Int32) (dataProfileInfo : DataProfileInfo14) :
    List (RadioEvent P) :=
  r.maybeWrap .v1_4 (.setInitialAttachApn_1_4 serial dataProfileInfo)
    (r.wrap (.setInitialAttachApn serial (get10DataProfileInfo dataProfileInfo)
      dataProfileInfo.persistent r.mRadioResponse.mDataRoaming))

def setDataProfile_1_4 (serial : Int32) (profiles : List DataProfileInfo14) :
    List (RadioEvent P) :=
  let legacyProfiles := (profiles.filter (·.persistent)).map get10DataProfileInfo
  r.maybeWrap .v1_4 (.setDataProfile_1_4 serial profiles)
    (if legacyProfiles ≠ [] then
      r.wrap (.setDataProfile serial legacyProfiles r.mRadioResponse.mDataRoaming)
    else [])

def emergencyDial (serial : Int32) (dialInfo : P) (categories : UInt32) (urns : List String)
    (routing : Int32) (hasKnownUserIntentEmergency isTesting : Bool) : List (RadioEvent P) :=
  r.maybeWrap .v1_4 (.emergencyDial serial dialInfo categories urns routing
    hasKnownUserIntentEmergency isTesting) []

def startNetworkScan_1_4 (serial : Int32) (request : NetworkScanRequest12 P) :
    List (RadioEvent P) :=
  r.maybeWrap .v1_4 (.startNetworkScan_1_4 serial request)
    (r.maybeWrap .v1_2 (.startNetworkScan_1_2 serial request)
      (r.maybeWrap .v1_1 (.startNetworkScan serial
        { type := request.type
          interval := request.interval
          specifiers := request.specifiers }) []))

def getPreferredNetworkTypeBitmap (serial : Int32) : List (RadioEvent P) :=
  r.maybeWrap .v1_4 (.getPreferredNetworkTypeBitmap serial)
    (r.wrap (.getPreferredNetworkType serial))

def setPreferredNetworkTypeBitmap (serial : Int32) (networkTypeBitmap : UInt32) :
    List (RadioEvent P) :=
  r.maybeWrap .v1_4 (.setPreferredNetworkTypeBitmap serial networkTypeBitmap)
    (r.wrap (.setPreferredNetworkType serial (r.values.networkType networkTypeBitmap)))

/-- `isAllCarriersAllowed`. -/
def isAllCarriersAllowed (carriers : CarrierRestrictionsWithPriority P) : Bool :=
  carriers.allowedCarriers.isEmpty && carriers.excludedCarriers.isEmpty &&
    !carriers.allowedCarriersPrioritized

/-- `supported`: the restrictions can be expressed in 1.0. -/
def carriersSupported (carriers : CarrierRestrictionsWithPriority P)
    (multiSimPolicy : SimLockMultiSimPolicy) : Bool :=
  (isAllCarriersAllowed carriers ||
      carriers.excludedCarriers.isEmpty && carriers.allowedCarriersPrioritized) &&
    multiSimPolicy = .noMultisimPolicy

def setAllowedCarriers_1_4 (serial : Int32) (carriers : CarrierRestrictionsWithPriority P)
    (multiSimPolicy : SimLockMultiSimPolicy) : List (RadioEvent P) :=
  r.maybeWrap .v1_4 (.setAllowedCarriers_1_4 serial carriers multiSimPolicy)
    (if carriersSupported carriers multiSimPolicy then
      r.wrap (.setAllowedCarriers serial (isAllCarriersAllowed carriers)
        { allowedCarriers := carriers.allowedCarriers })
    else [])

def getAllowedCarriers_1_4 (serial : Int32) : List (RadioEvent P) :=
  r.maybeWrap .v1_4 (.getAllowedCarriers_1_4 serial) (r.wrap (.getAllowedCarriers serial))

def getSignalStrength_1_4 (serial : Int32) : List (RadioEvent P) :=
  r.maybeWrap .v1_4 (.getSignalStrength_1_4 serial) (r.wrap (.getSignalStrength serial))

/-! ## Methods of 1.5 -/

def setSignalStrengthReportingCriteria_1_5 (serial : Int32) (signalThresholdInfo : P)
    (accessNetwork : Int32) : List (RadioEvent P) :=
  r.wrapOrRefuse (.setSignalStrengthReportingCriteria_1_5 serial signalThresholdInfo
    accessNetwork) .setSignalStrengthReportingCriteriaResponse_1_5

def setLinkCapacityReportingCriteria_1_5
    (serial hysteresisMs hysteresisDlKbps hysteresisUlKbps : Int32)
    (thresholdsDownlinkKbps thresholdsUplinkKbps : List Int32) (accessNetwork : Int32) :
    List (RadioEvent P) :=
  r.wrapOrRefuse (.setLinkCapacityReportingCriteria_1_5 serial hysteresisMs hysteresisDlKbps
    hysteresisUlKbps thresholdsDownlinkKbps thresholdsUplinkKbps accessNetwork)
    .setLinkCapacityReportingCriteriaResponse_1_5

def enableUiccApplications (serial : Int32) (enable : Bool) : List (RadioEvent P) :=
  r.wrapOrRefuse (.enableUiccApplications serial enable) .enableUiccApplicationsResponse

def areUiccApplicationsEnabled (serial : Int32) : List (RadioEvent P) :=
  r.wrapOrRefuse (.areUiccApplicationsEnabled serial) (.areUiccApplicationsEnabledResponse false)

def setSystemSelectionChannels_1_5 (serial : Int32) (specifyChannels : Bool)
    (specifiers : List P) : List (RadioEvent P) :=
  r.wrapOrRefuse (.setSystemSelectionChannels_1_5 serial specifyChannels specifiers)
    .setSystemSelectionChannelsResponse_1_5

def startNetworkScan_1_5 (serial : Int32) (request : P) : List (RadioEvent P) :=
  r.wrapOrRefuse (.startNetworkScan_1_5 serial request) .startNetworkScanResponse_1_5

def setupDataCall_1_5 (serial accessNetwork : Int32) (dataProfileInfo : P)
    (roamingAllowed : Bool) (reason : DataRequestReason) (addresses : List P)
    (dnses : List String) : List (RadioEvent P) :=
  r.wrapOrRefuse (.setupDataCall_1_5 serial accessNetwork dataProfileInfo roamingAllowed reason
    addresses dnses) .setupDataCallResponse_1_5

def setInitialAttachApn_1_5 (serial : Int32) (dataProfileInfo : P) : List (RadioEvent P) :=
  r.wrapOrRefuse (.setInitialAttachApn_1_5 serial dataProfileInfo)
    .setInitialAttachApnResponse_1_5

def setDataProfile_1_5 (serial : Int32) (profiles : List P) : List (RadioEvent P) :=
  r.wrapOrRefuse (.setDataProfile_1_5 serial profiles) .setDataProfileResponse_1_5

def setRadioPower_1_5 (serial : Int32)
    (powerOn forEmergencyCall preferredForEmergencyCall : Bool) : List (RadioEvent P) :=
  r.wrapOrRefuse (.setRadioPower_1_5 serial powerOn forEmergencyCall preferredForEmergencyCall)
    .setRadioPowerResponse_1_5

def setIndicationFilter_1_5 (serial : Int32) (indicationFilter : UInt32) :
    List (RadioEvent P) :=
  r.wrapOrRefuse (.setIndicationFilter_1_5 serial indicationFilter)
    .setIndicationFilterResponse_1_5

def getBarringInfo (serial : Int32) : List (RadioEvent P) :=
  r.wrapOrRefuse (.getBarringInfo serial) .getBarringInfoResponse

def getVoiceRegistrationState_1_5 (serial : Int32) : List (RadioEvent P) :=
  r.wrapOrRefuse (.getVoiceRegistrationState_1_5 serial) .getVoiceRegistrationStateResponse_1_5

def getDataRegistrationState_1_5 (serial : Int32) : List (RadioEvent P) :=
  r.wrapOrRefuse (.getDataRegistrationState_1_5 serial) .getDataRegistrationStateResponse_1_5

def setNetworkSelectionModeManual_1_5 (serial : Int32) (operatorNumeric : String)
    (ran : Int32) : List (RadioEvent P) :=
  r.wrapOrRefuse (.setNetworkSelectionModeManual_1_5 serial operatorNumeric ran)
    .setNetworkSelectionModeManualResponse_1_5

def sendCdmaSmsExpectMore (serial : Int32) (sms : P) : List (RadioEvent P) :=
  r.wrapOrRefuse (.sendCdmaSmsExpectMore serial sms) .sendCdmaSmsExpectMoreResponse

def supplySimDepersonalization (serial persoType : Int32) (controlKey : String) :
    List (RadioEvent P) :=
  r.wrapOrRefuse (.supplySimDepersonalization serial persoType controlKey)
    (.supplySimDepersonalizationResponse persoType (-1))

/-- The method of a request. -/
def perform : Request P → List (RadioEvent P)
  | .setCarrierInfoForImsiEncryption serial info => r.setCarrierInfoForImsiEncryption serial info
  | .setSimCardPower_1_1 serial power => r.setSimCardPower_1_1 serial power
  | .startNetworkScan serial request => r.startNetworkScan serial request
  | .stopNetworkScan serial => r.stopNetworkScan serial
  | .startKeepalive serial keepalive => r.startKeepalive serial keepalive
  | .stopKeepalive serial sessionHandle => r.stopKeepalive serial sessionHandle
  | .startNetworkScan_1_2 serial request => r.startNetworkScan_1_2 serial request
  | .setIndicationFilter_1_2 serial filter => r.setIndicationFilter_1_2 serial filter
  | .setSignalStrengthReportingCriteria serial ms db thresholds network =>
      r.setSignalStrengthReportingCriteria serial ms db thresholds network
  | .setLinkCapacityReportingCriteria serial ms dl ul downlink uplink network =>
      r.setLinkCapacityReportingCriteria serial ms dl ul downlink uplink network
  | .setupDataCall_1_2 serial network info cognitive allowed roaming reason addresses dnses =>
      r.setupDataCall_1_2 serial network info cognitive allowed roaming reason addresses dnses
  | .deactivateDataCall_1_2 serial cid reason => r.deactivateDataCall_1_2 serial cid reason
  | .setSystemSelectionChannels serial specify specifiers =>
      r.setSystemSelectionChannels serial specify specifiers
  | .enableModem serial on => r.enableModem serial on
  | .getModemStackStatus serial => r.getModemStackStatus serial
  | .setupDataCall_1_4 serial network info allowed reason addresses dnses =>
      r.setupDataCall_1_4 serial network info allowed reason addresses dnses
  | .setInitialAttachApn_1_4 serial info => r.setInitialAttachApn_1_4 serial info
  | .setDataProfile_1_4 serial profiles => r.setDataProfile_1_4 serial profiles
  | .emergencyDial serial dial categories urns routing intent testing =>
      r.emergencyDial serial dial categories urns routing intent testing
  | .startNetworkScan_1_4 serial request => r.startNetworkScan_1_4 serial request
  | .getPreferredNetworkTypeBitmap serial => r.getPreferredNetworkTypeBitmap serial
  | .setPreferredNetworkTypeBitmap serial bitmap => r.setPreferredNetworkTypeBitmap serial bitmap
  | .setAllowedCarriers_1_4 serial carriers policy =>
      r.setAllowedCarriers_1_4 serial carriers policy
  | .getAllowedCarriers_1_4 serial => r.getAllowedCarriers_1_4 serial
  | .getSignalStrength_1_4 serial => r.getSignalStrength_1_4 serial
  | .setSignalStrengthReportingCriteria_1_5 serial info network =>
      r.setSignalStrengthReportingCriteria_1_5 serial info network
  | .setLinkCapacityReportingCriteria_1_5 serial ms dl ul downlink uplink network =>
      r.setLinkCapacityReportingCriteria_1_5 serial ms dl ul downlink uplink network
  | .enableUiccApplications serial enable => r.enableUiccApplications serial enable
  | .areUiccApplicationsEnabled serial => r.areUiccApplicationsEnabled serial
  | .setSystemSelectionChannels_1_5 serial specify specifiers =>
      r.setSystemSelectionChannels_1_5 serial specify specifiers
  | .startNetworkScan_1_5 serial request => r.startNetworkScan_1_5 serial request
  | .setupDataCall_1_5 serial network info allowed reason addresses dnses =>
      r.setupDataCall_1_5 serial network info allowed reason addresses dnses
  | .setInitialAttachApn_1_5 serial info => r.setInitialAttachApn_1_5 serial info
  | .setDataProfile_1_5 serial profiles => r.setDataProfile_1_5 serial profiles
  | .setRadioPower_1_5 serial on emergency preferred =>
      r.setRadioPower_1_5 serial on emergency preferred
  | .setIndicationFilter_1_5 serial filter => r.setIndicationFilter_1_5 serial filter
  | .getBarringInfo serial => r.getBarringInfo serial
  | .getVoiceRegistrationState_1_5 serial => r.getVoiceRegistrationState_1_5 serial
  | .getDataRegistrationState_1_5 serial => r.getDataRegistrationState_1_5 serial
  | .setNetworkSelectionModeManual_1_5 serial operator ran =>
      r.setNetworkSelectionModeManual_1_5 serial operator ran
  | .sendCdmaSmsExpectMore serial sms => r.sendCdmaSmsExpectMore serial sms
  | .supplySimDepersonalization serial persoType controlKey =>
      r.supplySimDepersonalization serial persoType controlKey

end Radio

end LgeHardware.RadioService
