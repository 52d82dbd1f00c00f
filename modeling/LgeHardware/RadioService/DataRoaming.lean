import LgeHardware.RadioService.RadioResponse
import LgeHardware.Foundation.Run

/-! # The roaming state of older radios

An older radio takes with a data request whether the data connection roams, and one before
1.2 the radio technology too. The service takes both from the data registration responses
that came before. It does not look at the error of a response, and a response of the 1.2
form leaves the radio technology as it was.
-/

namespace LgeHardware.RadioService

open LgeHardware.Foundation

variable {P : Type}

/-- What a data registration response says, with the form it came in. -/
structure Registration where
  version : Version
  error : RadioError
  regState : RegState
  rat : Int32
  deriving DecidableEq, Repr

def Registration.roaming (registration : Registration) : Bool :=
  registration.regState = .regRoaming

/-- The most recent successful response, of a list with the most recent first. -/
def lastSuccessful (received : List Registration) : Option Registration :=
  received.find? (·.error = .none)

/-- The data connection roams, by the most recent successful response. -/
def roamingNow (received : List Registration) : Bool :=
  ((lastSuccessful received).map Registration.roaming).getD false

/-- A data registration response of the real radio or a data request of the framework. -/
inductive DataOp (P : Type)
  | getDataRegistrationStateResponse (info : RadioResponseInfo)
      (dataRegResponse : DataRegStateResult10 P)
  | getDataRegistrationStateResponse_1_2 (info : RadioResponseInfo)
      (dataRegResponse : DataRegStateResult12 P)
  | setupDataCall_1_4 (serial accessNetwork : Int32) (dataProfileInfo : DataProfileInfo14)
      (roamingAllowed : Bool) (reason : DataRequestReason) (addresses dnses : List String)
  | setInitialAttachApn_1_4 (serial : Int32) (dataProfileInfo : DataProfileInfo14)
  | setDataProfile_1_4 (serial : Int32) (profiles : List DataProfileInfo14)
  deriving DecidableEq, Repr

/-- The service with the data registration responses it received, the most recent first. -/
structure DataService where
  radio : Radio
  received : List Registration := []
  deriving DecidableEq, Repr

namespace DataService

/-- What an operation leads to, besides what the service keeps of it. -/
def events (s : DataService) : DataOp P → List (RadioEvent P)
  | .getDataRegistrationStateResponse .. | .getDataRegistrationStateResponse_1_2 .. => []
  | .setupDataCall_1_4 serial accessNetwork info roamingAllowed reason addresses dnses =>
      s.radio.setupDataCall_1_4 serial accessNetwork info roamingAllowed reason addresses dnses
  | .setInitialAttachApn_1_4 serial info => s.radio.setInitialAttachApn_1_4 serial info
  | .setDataProfile_1_4 serial profiles => s.radio.setDataProfile_1_4 serial profiles

def next (s : DataService) : DataOp P → DataService
  | .getDataRegistrationStateResponse info response =>
      { radio := { s.radio with
          mRadioResponse :=
            (s.radio.mRadioResponse.getDataRegistrationStateResponse info response).1 }
        received :=
          { version := .v1_0
            error := info.error
            regState := response.regState
            rat := response.rat } :: s.received }
  | .getDataRegistrationStateResponse_1_2 info response =>
      { radio := { s.radio with
          mRadioResponse :=
            (s.radio.mRadioResponse.getDataRegistrationStateResponse_1_2 info response).1 }
        received :=
          { version := .v1_2
            error := info.error
            regState := response.regState
            rat := response.rat } :: s.received }
  | .setupDataCall_1_4 .. | .setInitialAttachApn_1_4 .. | .setDataProfile_1_4 .. => s

end DataService

/-! ## Current data requests -/

/-- The roaming flag of a data request. -/
def RadioCall.isRoaming : RadioCall P → Option Bool
  | .later (.setupDataCall_1_2 _ _ _ _ _ isRoaming _ _ _) => some isRoaming
  | .setupDataCall _ _ _ _ _ isRoaming => some isRoaming
  | .setInitialAttachApn _ _ _ isRoaming => some isRoaming
  | .setDataProfile _ _ isRoaming => some isRoaming
  | _ => none

/-- The radio technology of a data request. -/
def RadioCall.radioTechnology : RadioCall P → Option RadioTechnology
  | .setupDataCall _ radioTechnology .. => some radioTechnology
  | _ => none

/-- The roaming flag and the radio technology that a call carries are those of the most
recent successful response. -/
def RadioCall.Current (received : List Registration) (call : RadioCall P) : Prop :=
  (∀ flag, call.isRoaming = some flag → flag = roamingNow received) ∧
    (∀ rat last, call.radioTechnology = some rat → lastSuccessful received = some last →
      rat = last.rat)

theorem RadioCall.current_of_none {received : List Registration} {call : RadioCall P}
    (hflag : call.isRoaming = none) (hrat : call.radioTechnology = none) :
    call.Current received := by
  constructor
  · intro flag h
    exact nomatch hflag.symm.trans h
  · intro rat last h
    exact nomatch hrat.symm.trans h

/-- A call is current where its flag is that of now and its technology that of the last success. -/
theorem RadioCall.current_iff {received : List Registration} {call : RadioCall P} {flag : Bool}
    (hflag : call.isRoaming = some flag) :
    call.Current received ↔ flag = roamingNow received ∧
      ∀ rat last, call.radioTechnology = some rat → lastSuccessful received = some last →
        rat = last.rat := by
  rw [RadioCall.Current, hflag]
  exact and_congr_left fun _ => ⟨fun h => h flag rfl, fun h _ heq => Option.some.inj heq ▸ h⟩

namespace DataService

/-- The calls of the real radio that an operation makes are current. -/
def Current (s : DataService) (op : DataOp P) : Prop :=
  ∀ call ∈ calls (s.events op), call.Current s.received

/-- The operation leads to a data request of a radio before 1.4, which carries a flag. -/
def PassesFlag (real : Version) : DataOp P → Prop
  | .getDataRegistrationStateResponse .. | .getDataRegistrationStateResponse_1_2 .. => False
  | .setupDataCall_1_4 .. | .setInitialAttachApn_1_4 .. => real.minor < Version.v1_4.minor
  | .setDataProfile_1_4 _ profiles =>
      real.minor < Version.v1_4.minor ∧ ∃ profile ∈ profiles, profile.persistent

/-- The operation leads to a data request of a radio before 1.2, which carries a radio
technology. -/
def PassesRat (real : Version) : DataOp P → Prop
  | .setupDataCall_1_4 .. => real.minor < Version.v1_2.minor
  | _ => False

/-- The most recent response says of the roaming what the most recent successful one says,
if a flag is passed on. The most recent response of the 1.0 form has the radio technology of
the most recent successful response, if a radio technology is passed on. -/
def UpToDate (real : Version) (s : DataService) (op : DataOp P) : Prop :=
  (PassesFlag real op →
    (s.received.head?.map Registration.roaming).getD false = roamingNow s.received) ∧
  (PassesRat real op → ∀ last, lastSuccessful s.received = some last →
    ((s.received.find? (·.version = .v1_0)).map Registration.rat).getD
      radioTechnologyUnknown = last.rat)

/-- The service of a radio, before any response. -/
def start (values : InterfaceValues) (real : Version) : DataService :=
  { radio := { values, mRealRadio := some real } }

/-- What the service keeps is what the most recent responses said. -/
structure Keeps (real : Version) (s : DataService) : Prop where
  mRealRadio : s.radio.mRealRadio = some real
  mDataRoaming : s.radio.mRadioResponse.mDataRoaming =
    (s.received.head?.map Registration.roaming).getD false
  mRat : s.radio.mRadioResponse.mRat =
    ((s.received.find? (·.version = .v1_0)).map Registration.rat).getD radioTechnologyUnknown

variable {real : Version} {s : DataService}

theorem keeps_start (values : InterfaceValues) (real : Version) :
    Keeps real (start values real) :=
  ⟨rfl, rfl, rfl⟩

/-- Every operation keeps what the service remembers in line with what it received. -/
theorem Keeps.next (h : Keeps real s) (op : DataOp P) : Keeps real (s.next op) := by
  cases op with
  | getDataRegistrationStateResponse => exact ⟨h.mRealRadio, rfl, rfl⟩
  | getDataRegistrationStateResponse_1_2 => exact ⟨h.mRealRadio, rfl, h.mRat⟩
  | setupDataCall_1_4 | setInitialAttachApn_1_4 | setDataProfile_1_4 => exact h

/-! ## The calls of the real radio -/

theorem calls_wrap {r : Radio} (hreal : r.mRealRadio = some real) (call : RadioCall P) :
    calls (r.wrap call) = [call] := by
  rw [Radio.wrap, hreal]
  rfl

theorem calls_maybeWrap {r : Radio} (hreal : r.mRealRadio = some real) (version : Version)
    (request : Request P) (otherwise : List (RadioEvent P)) :
    calls (r.maybeWrap version request otherwise) =
      if version.minor ≤ real.minor then [.later request] else calls otherwise := by
  rw [Radio.maybeWrap, hreal]
  by_cases hversion : version.minor ≤ real.minor
  · simp [hversion, calls]
  · simp [hversion]

/-- A request of 1.4 goes as it is to a radio that has it. -/
theorem current_of_modern {r : Radio} (hreal : r.mRealRadio = some real)
    (hmodern : Version.v1_4.minor ≤ real.minor) {request : Request P}
    (hflag : (RadioCall.later request).isRoaming = none) {otherwise : List (RadioEvent P)}
    {received : List Registration} :
    ∀ call ∈ calls (r.maybeWrap .v1_4 request otherwise), call.Current received := by
  rw [calls_maybeWrap hreal, if_pos hmodern]
  intro call hcall
  rw [List.mem_singleton.mp hcall]
  exact RadioCall.current_of_none hflag rfl

/-- No data request of before 1.4 is passed on to such a radio. -/
theorem UpToDate.of_modern (hmodern : Version.v1_4.minor ≤ real.minor) (op : DataOp P) :
    s.UpToDate real op := by
  have hflagless : ¬ real.minor < Version.v1_4.minor := Nat.not_lt.mpr hmodern
  have hratless : ¬ real.minor < Version.v1_2.minor :=
    fun hold => hflagless (Nat.lt_trans hold (by decide))
  constructor
  · intro hflag
    cases op with
    | getDataRegistrationStateResponse | getDataRegistrationStateResponse_1_2 => exact hflag.elim
    | setupDataCall_1_4 | setInitialAttachApn_1_4 => exact absurd hflag hflagless
    | setDataProfile_1_4 => exact absurd hflag.1 hflagless
  · intro hrat
    cases op with
    | setupDataCall_1_4 => exact absurd hrat hratless
    | _ => exact hrat.elim

theorem current_setupDataCall_1_4 (h : Keeps real s) (serial accessNetwork : Int32)
    (dataProfileInfo : DataProfileInfo14) (roamingAllowed : Bool) (reason : DataRequestReason)
    (addresses dnses : List String) :
    let op : DataOp P := .setupDataCall_1_4 serial accessNetwork dataProfileInfo roamingAllowed
      reason addresses dnses
    s.Current op ↔ s.UpToDate real op := by
  intro op
  by_cases hmodern : Version.v1_4.minor ≤ real.minor
  · exact iff_of_true (current_of_modern h.mRealRadio hmodern rfl) (.of_modern hmodern op)
  · rw [UpToDate, ← h.mDataRoaming, ← h.mRat]
    have hflag : PassesFlag real op := Nat.lt_of_not_le hmodern
    simp only [Current, op, events, Radio.setupDataCall_1_4, calls_maybeWrap h.mRealRadio,
      calls_wrap h.mRealRadio, if_neg hmodern]
    by_cases hmiddle : Version.v1_2.minor ≤ real.minor
    · have hrat : ¬ PassesRat real op := Nat.not_lt.mpr hmiddle
      rw [if_pos hmiddle, List.forall_mem_singleton, RadioCall.current_iff rfl]
      simp [RadioCall.radioTechnology, op, hflag, hrat]
    · have hrat : PassesRat real op := Nat.lt_of_not_le hmiddle
      rw [if_neg hmiddle, List.forall_mem_singleton, RadioCall.current_iff rfl]
      refine and_congr (by simp [op, hflag]) ?_
      constructor
      · intro hall _ last hlast
        exact hall _ last rfl hlast
      · intro hall rat last heq hlast
        exact (Option.some.inj heq).symm.trans (hall hrat last hlast)

theorem current_setInitialAttachApn_1_4 (h : Keeps real s) (serial : Int32)
    (dataProfileInfo : DataProfileInfo14) :
    let op : DataOp P := .setInitialAttachApn_1_4 serial dataProfileInfo
    s.Current op ↔ s.UpToDate real op := by
  intro op
  by_cases hmodern : Version.v1_4.minor ≤ real.minor
  · exact iff_of_true (current_of_modern h.mRealRadio hmodern rfl) (.of_modern hmodern op)
  · rw [UpToDate, ← h.mDataRoaming]
    have hrat : ¬ PassesRat real op := id
    have hflag : PassesFlag real op := Nat.lt_of_not_le hmodern
    simp only [Current, op, events, Radio.setInitialAttachApn_1_4,
      calls_maybeWrap h.mRealRadio, calls_wrap h.mRealRadio, if_neg hmodern]
    rw [List.forall_mem_singleton, RadioCall.current_iff rfl]
    simp [RadioCall.radioTechnology, op, hflag, hrat]

theorem current_setDataProfile_1_4 (h : Keeps real s) (serial : Int32)
    (profiles : List DataProfileInfo14) :
    let op : DataOp P := .setDataProfile_1_4 serial profiles
    s.Current op ↔ s.UpToDate real op := by
  intro op
  by_cases hmodern : Version.v1_4.minor ≤ real.minor
  · exact iff_of_true (current_of_modern h.mRealRadio hmodern rfl) (.of_modern hmodern op)
  · rw [UpToDate, ← h.mDataRoaming]
    have hrat : ¬ PassesRat real op := id
    simp only [Current, op, events, Radio.setDataProfile_1_4, calls_maybeWrap h.mRealRadio,
      if_neg hmodern]
    by_cases hpersistent : ∃ profile ∈ profiles, profile.persistent
    · have hflag : PassesFlag real op := ⟨Nat.lt_of_not_le hmodern, hpersistent⟩
      have hsome : (profiles.filter (·.persistent)).map get10DataProfileInfo ≠ [] := by
        simpa using hpersistent
      rw [if_pos hsome, calls_wrap h.mRealRadio, List.forall_mem_singleton,
        RadioCall.current_iff rfl]
      simp [RadioCall.radioTechnology, op, hflag, hrat]
    · have hflag : ¬ PassesFlag real op := fun hflag => hpersistent hflag.2
      have hnone : ¬ (profiles.filter (·.persistent)).map get10DataProfileInfo ≠ [] := by
        simpa using hpersistent
      rw [if_neg hnone]
      simp [calls, op, hflag, hrat]

/-- Then a request is made of current values exactly if the service was up to date. -/
theorem Keeps.current_iff (h : Keeps real s) (op : DataOp P) :
    s.Current op ↔ s.UpToDate real op := by
  cases op with
  | getDataRegistrationStateResponse | getDataRegistrationStateResponse_1_2 =>
      refine iff_of_true ?_ ⟨False.elim, False.elim⟩
      intro call hcall
      exact nomatch hcall
  | setupDataCall_1_4 => exact current_setupDataCall_1_4 h ..
  | setInitialAttachApn_1_4 => exact current_setInitialAttachApn_1_4 h ..
  | setDataProfile_1_4 => exact current_setDataProfile_1_4 h ..

/-- Every data request of a run carries the roaming state and the radio technology of the
most recent successful response exactly if these are what the service kept. -/
theorem data_requests_current_iff (values : InterfaceValues) (real : Version)
    (ops : List (DataOp P)) :
    Admits next Current (start values real) ops ↔
      Admits next (UpToDate real) (start values real) ops :=
  (Admits.always (start values real) ops).congr (Keeps real) (fun _ op h _ => h.next op)
    (fun _ op h _ => h.current_iff op) (keeps_start values real)

/-- A response with an error overwrites the roaming state of the one before. -/
theorem failed_response_overwrites :
    ¬ Admits next Current
      (start
        { indicationFilterAll := 7
          gsmBits := 65542
          cdmaBits := 112
          evdoBits := 12672
          wcdmaBits := 36360
          lteBits := 540672
          tdscdmaBit := 131072 } .v1_0)
      [(.getDataRegistrationStateResponse
          { type := .solicited, serial := 1, error := .none }
          { regState := .regRoaming
            rat := 14
            reasonDataDenied := 0
            maxDataCalls := 1
            cellIdentity := {} } : DataOp Unit),
        .getDataRegistrationStateResponse
          { type := .solicited, serial := 2, error := .other 1 }
          { regState := .other 0
            rat := 0
            reasonDataDenied := 0
            maxDataCalls := 0
            cellIdentity := {} },
        .setInitialAttachApn_1_4 3
          { profileId := 0
            apn := "internet"
            protocol := .ip
            roamingProtocol := .ip
            authType := 0
            user := ""
            password := ""
            type := 0
            maxConnsTime := 0
            maxConns := 0
            waitTime := 0
            enabled := true
            supportedApnTypesBitmap := 17
            bearerBitmap := 0
            mtu := 1500
            preferred := true
            persistent := true }] := by
  intro h
  have hcurrent := h.2.2.1 (.setInitialAttachApn 3 _ true false) List.mem_cons_self
  exact nomatch hcurrent.1 false rfl

end DataService

end LgeHardware.RadioService
