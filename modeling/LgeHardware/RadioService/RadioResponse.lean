import LgeHardware.RadioService.Radio

/-! # Data registration responses

`RadioResponse` stands between the real radio and the framework. It turns the response of
an older form into that of 1.4, and keeps what the requests of older radios need: whether
the data connection roams and its radio technology.
-/

namespace LgeHardware.RadioService

variable {P : Type}

/-- `V1_0::RegState`. -/
inductive RegState
  | regRoaming
  | other (value : Int32)
  deriving DecidableEq, Repr

/-- `INT_MAX`. -/
def intMax : Int32 := 2147483647

section

variable (P : Type)

/-- `V1_0::CellIdentity`. Its type is not looked at. -/
structure CellIdentity10 where
  cellIdentityGsm : List P := []
  cellIdentityWcdma : List P := []
  cellIdentityCdma : List P := []
  cellIdentityLte : List P := []
  cellIdentityTdscdma : List P := []
  deriving DecidableEq, Repr

/-- The identity of a cell in 1.2, which adds the names of the operator. -/
structure NamedCell where
  base : P
  alphaLong : String := ""
  alphaShort : String := ""
  deriving DecidableEq, Repr

/-- `V1_2::CellIdentityLte`. -/
structure CellIdentityLte extends NamedCell P where
  bandwidth : Int32
  deriving DecidableEq, Repr

/-- `V1_2::CellIdentityTdscdma`. -/
structure CellIdentityTdscdma extends NamedCell P where
  uarfcn : Int32
  deriving DecidableEq, Repr

/-- `V1_2::CellIdentity`. -/
structure CellIdentity12 where
  cellInfoType : Int32 := 0
  cellIdentityGsm : List (NamedCell P) := []
  cellIdentityWcdma : List (NamedCell P) := []
  cellIdentityCdma : List (NamedCell P) := []
  cellIdentityLte : List (CellIdentityLte P) := []
  cellIdentityTdscdma : List (CellIdentityTdscdma P) := []
  deriving DecidableEq, Repr

/-- `V1_0::DataRegStateResult`. -/
structure DataRegStateResult10 where
  regState : RegState
  rat : Int32
  reasonDataDenied : Int32
  maxDataCalls : Int32
  cellIdentity : CellIdentity10 P
  deriving DecidableEq, Repr

/-- `V1_2::DataRegStateResult`. -/
structure DataRegStateResult12 where
  regState : RegState
  rat : Int32
  reasonDataDenied : Int32
  maxDataCalls : Int32
  cellIdentity : CellIdentity12 P
  deriving DecidableEq, Repr

/-- `V1_4::DataRegStateResult`, whose own fields stay `{}`. -/
structure DataRegStateResult14 where
  base : DataRegStateResult12 P
  deriving DecidableEq, Repr

/-- The response `getDataRegistrationStateResponse_1_4` to the framework. -/
structure DataRegistration where
  info : RadioResponseInfo
  dataRegResponse : DataRegStateResult14 P
  deriving DecidableEq, Repr

end

/-- `Init1_2CellIdentity`, of a new cell identity. -/
def init12CellIdentity (legacyCI : CellIdentity10 P) : CellIdentity12 P :=
  match legacyCI.cellIdentityGsm, legacyCI.cellIdentityCdma, legacyCI.cellIdentityLte,
    legacyCI.cellIdentityWcdma, legacyCI.cellIdentityTdscdma with
  | [gsm], _, _, _, _ => { cellIdentityGsm := [{ base := gsm }] }
  | _, [cdma], _, _, _ => { cellIdentityCdma := [{ base := cdma }] }
  | _, _, [lte], _, _ => { cellIdentityLte := [{ base := lte, bandwidth := intMax }] }
  | _, _, _, [wcdma], _ => { cellIdentityWcdma := [{ base := wcdma }] }
  | _, _, _, _, [tdscdma] =>
      { cellIdentityTdscdma := [{ base := tdscdma, uarfcn := intMax }] }
  | _, _, _, _, _ => {}

namespace RadioResponse

/-- `getDataRegistrationStateResponse`, which replaces all that is kept. -/
def getDataRegistrationStateResponse (_ : RadioResponse) (info : RadioResponseInfo)
    (dataRegResponse : DataRegStateResult10 P) : RadioResponse × DataRegistration P :=
  ({ mDataRoaming := dataRegResponse.regState = .regRoaming
     mRat := dataRegResponse.rat },
    { info
      dataRegResponse :=
        { base :=
            { regState := dataRegResponse.regState
              rat := dataRegResponse.rat
              reasonDataDenied := dataRegResponse.reasonDataDenied
              maxDataCalls := dataRegResponse.maxDataCalls
              cellIdentity := init12CellIdentity dataRegResponse.cellIdentity } } })

/-- `getDataRegistrationStateResponse_1_2`. -/
def getDataRegistrationStateResponse_1_2 (r : RadioResponse) (info : RadioResponseInfo)
    (dataRegResponse : DataRegStateResult12 P) : RadioResponse × DataRegistration P :=
  ({ r with mDataRoaming := dataRegResponse.regState = .regRoaming },
    { info, dataRegResponse := { base := dataRegResponse } })

end RadioResponse

end LgeHardware.RadioService
