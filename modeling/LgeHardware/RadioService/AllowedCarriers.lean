import LgeHardware.Foundation.Latest
import LgeHardware.RadioService.Radio

/-! # Carrier restrictions on older radios

A radio before 1.4 either allows all carriers or has lists of them. The service sends down the
restrictions of 1.4 that can be said so, and makes restrictions of 1.4 of what the radio answers.
So with a radio that answers what it accepted last, the framework reads the restrictions that got
through last, as it set them.
-/

namespace LgeHardware.RadioService

open LgeHardware.Foundation

variable {P Q State : Type}

/-! ## The response -/

/-- `RadioResponse::getAllowedCarriersResponse`, with what `getAllowedCarriersResponse_1_4` gets. -/
def RadioResponse.getAllowedCarriersResponse (_ : RadioResponse) (info : RadioResponseInfo)
    (allAllowed : Bool) (carriers : CarrierRestrictions P) :
    RadioResponseInfo × CarrierRestrictionsWithPriority P × SimLockMultiSimPolicy :=
  if allAllowed then
    (info, { allowedCarriers := [], excludedCarriers := [], allowedCarriersPrioritized := false },
      .noMultisimPolicy)
  else
    (info,
      { allowedCarriers := carriers.allowedCarriers
        excludedCarriers := carriers.excludedCarriers
        allowedCarriersPrioritized := true },
      .noMultisimPolicy)

/-! ## Requests and the real radio -/

namespace Radio

variable (r : Radio)

/-- `setAllowedCarriers` of 1.0. -/
def setAllowedCarriers (serial : Int32) (allAllowed : Bool) (carriers : CarrierRestrictions P) :
    List (RadioEvent P) :=
  r.wrap (.setAllowedCarriers serial allAllowed carriers)

/-- `getAllowedCarriers` of 1.0. -/
def getAllowedCarriers (serial : Int32) : List (RadioEvent P) := r.wrap (.getAllowedCarriers serial)

end Radio

section

variable (P Q State : Type)

/-- The requests of the framework: those of 1.1 to 1.5, the two of 1.0 about carriers, and the
others of 1.0, for which `Q` stands. -/
inductive FrameworkRequest
  | later (request : Request P)
  | setAllowedCarriers (serial : Int32) (allAllowed : Bool) (carriers : CarrierRestrictions P)
  | getAllowedCarriers (serial : Int32)
  | other (request : Q)
  deriving DecidableEq, Repr

/-- What reaches the real radio: a call, or a request of 1.0 that is passed on as it is. -/
inductive RealCall
  | call (call : RadioCall P)
  | passedOn (request : Q)
  deriving DecidableEq, Repr

/-- The real radio, which is not part of the service: what becomes of it with a call that it
accepts or not, and what it answers to `getAllowedCarriers`. -/
structure RealRadio where
  receive : State → RealCall P Q → Bool → State
  allowedCarriers : State → Bool × CarrierRestrictions P

/-- A request, and whether the real radio accepts what it gets for it. -/
structure CarrierOp where
  request : FrameworkRequest P Q
  accepted : Bool := true
  deriving DecidableEq, Repr

end

/-- The call sets restrictions. -/
def RadioCall.restricts : RadioCall P → Bool
  | .setAllowedCarriers .. => true
  | _ => false

/-- The call or the request sets restrictions. -/
def RealCall.restricts : RealCall P Q → Bool
  | .call inner => inner.restricts
  | .passedOn _ => false

/-- The radio answers with the restrictions that it accepted last. The lists do not count where
all carriers are allowed. -/
structure RealRadio.AnswersLast (radio : RealRadio P Q State) : Prop where
  allAllowed : ∀ s serial allAllowed carriers,
    (radio.allowedCarriers
      (radio.receive s (.call (.setAllowedCarriers serial allAllowed carriers)) true)).1 =
        allAllowed
  carriers : ∀ s serial carriers,
    (radio.allowedCarriers
      (radio.receive s (.call (.setAllowedCarriers serial false carriers)) true)).2 = carriers
  refused : ∀ s call, radio.allowedCarriers (radio.receive s call false) = radio.allowedCarriers s
  unrestricted : ∀ s (call : RealCall P Q) accepted, call.restricts = false →
    radio.allowedCarriers (radio.receive s call accepted) = radio.allowedCarriers s

namespace Radio

variable (r : Radio)

/-- What the real radio gets for a request. -/
def passes : FrameworkRequest P Q → List (RealCall P Q)
  | .later request => (calls (r.perform request)).map .call
  | .setAllowedCarriers serial allAllowed carriers =>
      (calls (r.setAllowedCarriers serial allAllowed carriers)).map .call
  | .getAllowedCarriers serial => (calls (r.getAllowedCarriers serial)).map .call
  | .other request => if r.mRealRadio.isSome then [.passedOn request] else []

/-- The real radio after a request. -/
def after (radio : RealRadio P Q State) (s : State) (op : CarrierOp P Q) : State :=
  run (radio.receive · · op.accepted) s (r.passes op.request)

/-- What the framework gets for the answer of the real radio. -/
def readAllowedCarriers (radio : RealRadio P Q State) (info : RadioResponseInfo) (s : State) :
    RadioResponseInfo × CarrierRestrictionsWithPriority P × SimLockMultiSimPolicy :=
  r.mRadioResponse.getAllowedCarriersResponse info (radio.allowedCarriers s).1
    (radio.allowedCarriers s).2

end Radio

/-- The restrictions that a request sets, if it can be said in 1.0 and the radio accepts it. -/
def CarrierOp.getsThrough (op : CarrierOp P Q) : Option (CarrierRestrictionsWithPriority P) :=
  if op.accepted then
    match op.request with
    | .later (.setAllowedCarriers_1_4 _ carriers multiSimPolicy) =>
        if Radio.carriersSupported carriers multiSimPolicy then some carriers else none
    | .setAllowedCarriers _ allAllowed carriers =>
        some (if allAllowed then ⟨[], [], false⟩
          else ⟨carriers.allowedCarriers, carriers.excludedCarriers, true⟩)
    | _ => none
  else none

/-! ## Requests without restrictions -/

/-- No call among the events sets restrictions. -/
def BringsNone (events : List (RadioEvent P)) : Prop :=
  ∀ call ∈ calls events, call.restricts = false

theorem bringsNone_nil : BringsNone ([] : List (RadioEvent P)) :=
  fun _ hcall => absurd hcall List.not_mem_nil

theorem bringsNone_respond (info : RadioResponseInfo) (response : ResponseMethod) :
    BringsNone ([.respond info response] : List (RadioEvent P)) :=
  fun _ hcall => absurd hcall List.not_mem_nil

namespace Radio

variable (r : Radio)

theorem bringsNone_wrap {call : RadioCall P} (h : call.restricts = false) :
    BringsNone (r.wrap call) := by
  rw [wrap]
  split
  · intro other hother
    rwa [List.mem_singleton.mp hother]
  · exact fun _ hcall => absurd hcall List.not_mem_nil

theorem bringsNone_maybeWrap (version : Version) (request : Request P)
    {otherwise : List (RadioEvent P)} (h : BringsNone otherwise) :
    BringsNone (r.maybeWrap version request otherwise) := by
  rw [maybeWrap]
  split
  · split
    · intro call hcall
      rw [List.mem_singleton.mp hcall]
      rfl
    · exact h
  · exact h

theorem bringsNone_wrapOrRefuse (request : Request P) (response : ResponseMethod) :
    BringsNone (r.wrapOrRefuse request response) :=
  r.bringsNone_maybeWrap _ _ (bringsNone_respond _ _)

theorem bringsNone_translated_if (version : Version) (request : Request P) {call : RadioCall P}
    (h : call.restricts = false) (condition : Prop) [Decidable condition] :
    BringsNone (r.maybeWrap version request (if condition then r.wrap call else [])) := by
  apply r.bringsNone_maybeWrap
  split
  · exact r.bringsNone_wrap h
  · exact bringsNone_nil

/-- Only the request for it changes the restrictions. -/
theorem bringsNone_perform {request : Request P}
    (h : ∀ serial carriers multiSimPolicy,
      request ≠ .setAllowedCarriers_1_4 serial carriers multiSimPolicy) :
    BringsNone (r.perform request) := by
  cases request with
  | setCarrierInfoForImsiEncryption | startNetworkScan | stopNetworkScan | startKeepalive
  | stopKeepalive | startNetworkScan_1_2 | setSignalStrengthReportingCriteria
  | setLinkCapacityReportingCriteria | setupDataCall_1_2 | setSystemSelectionChannels
  | enableModem | getModemStackStatus | emergencyDial =>
      exact r.bringsNone_maybeWrap _ _ bringsNone_nil
  | setIndicationFilter_1_2 | deactivateDataCall_1_2 | setInitialAttachApn_1_4
  | getPreferredNetworkTypeBitmap | setPreferredNetworkTypeBitmap | getAllowedCarriers_1_4
  | getSignalStrength_1_4 =>
      exact r.bringsNone_maybeWrap _ _ (r.bringsNone_wrap rfl)
  | setSimCardPower_1_1 serial power => exact r.bringsNone_translated_if _ _ rfl _
  | setAllowedCarriers_1_4 serial carriers multiSimPolicy =>
      exact absurd rfl (h serial carriers multiSimPolicy)
  | setupDataCall_1_4 =>
      exact r.bringsNone_maybeWrap _ _ (r.bringsNone_maybeWrap _ _ (r.bringsNone_wrap rfl))
  | setDataProfile_1_4 serial profiles => exact r.bringsNone_translated_if _ _ rfl _
  | startNetworkScan_1_4 serial request =>
      exact r.bringsNone_maybeWrap _ _
        (r.bringsNone_maybeWrap _ _ (r.bringsNone_maybeWrap _ _ bringsNone_nil))
  | setSignalStrengthReportingCriteria_1_5 | setLinkCapacityReportingCriteria_1_5
  | enableUiccApplications | areUiccApplicationsEnabled | setSystemSelectionChannels_1_5
  | startNetworkScan_1_5 | setupDataCall_1_5 | setInitialAttachApn_1_5 | setDataProfile_1_5
  | setRadioPower_1_5 | setIndicationFilter_1_5 | getBarringInfo | getVoiceRegistrationState_1_5
  | getDataRegistrationState_1_5 | setNetworkSelectionModeManual_1_5 | sendCdmaSmsExpectMore
  | supplySimDepersonalization =>
      exact r.bringsNone_wrapOrRefuse _ _

/-! ## Set and read back -/

/-- Restrictions that can be said in 1.0 are what the framework gets for their translation. -/
theorem getAllowedCarriersResponse_of_supported (response : RadioResponse)
    {carriers : CarrierRestrictionsWithPriority P} {multiSimPolicy : SimLockMultiSimPolicy}
    (h : carriersSupported carriers multiSimPolicy = true) (info : RadioResponseInfo) :
    response.getAllowedCarriersResponse info (isAllCarriersAllowed carriers)
        { allowedCarriers := carriers.allowedCarriers } =
      (info, carriers, .noMultisimPolicy) := by
  obtain ⟨allowed, excluded, prioritized⟩ := carriers
  rw [carriersSupported, Bool.and_eq_true] at h
  obtain ⟨h, -⟩ := h
  rw [RadioResponse.getAllowedCarriersResponse]
  cases hall : isAllCarriersAllowed ⟨allowed, excluded, prioritized⟩ with
  | true =>
      simp only [isAllCarriersAllowed, Bool.and_eq_true, List.isEmpty_iff, Bool.not_eq_true']
        at hall
      obtain ⟨⟨rfl, rfl⟩, rfl⟩ := hall
      rfl
  | false =>
      rw [hall] at h
      simp only [Bool.false_or, Bool.and_eq_true, List.isEmpty_iff] at h
      obtain ⟨rfl, rfl⟩ := h
      rfl

section

variable {r : Radio} {radio : RealRadio P Q State} (hanswers : radio.AnswersLast)

/-- The framework never reads a policy for several cards. -/
theorem readAllowedCarriers_eq (info : RadioResponseInfo) (s : State) :
    r.readAllowedCarriers radio info s =
      (info, (r.readAllowedCarriers radio info s).2.1, .noMultisimPolicy) := by
  rw [readAllowedCarriers, RadioResponse.getAllowedCarriersResponse]
  split <;> rfl

include hanswers

/-- What is read after a call that sets restrictions. -/
theorem readAllowedCarriers_set (info : RadioResponseInfo) (s : State) (serial : Int32)
    (allAllowed : Bool) (carriers : CarrierRestrictions P) :
    r.readAllowedCarriers radio info
        (radio.receive s (.call (.setAllowedCarriers serial allAllowed carriers)) true) =
      r.mRadioResponse.getAllowedCarriersResponse info allAllowed carriers := by
  rw [readAllowedCarriers, hanswers.allAllowed]
  cases allAllowed with
  | true => rfl
  | false => rw [hanswers.carriers]

/-- Calls that are refused, or set no restrictions, do not change what is answered. -/
theorem allowedCarriers_run {accepted : Bool} {passed : List (RealCall P Q)}
    (h : ∀ call ∈ passed, accepted = false ∨ call.restricts = false) (s : State) :
    radio.allowedCarriers (run (radio.receive · · accepted) s passed) =
      radio.allowedCarriers s := by
  -- The induction is on the calls that one request is turned into.
  induction passed generalizing s with
  | nil => rfl
  | cons call rest ih =>
      rw [run_cons, ih fun other hother => h other (List.mem_cons_of_mem _ hother)]
      rcases h call List.mem_cons_self with rfl | hcall
      · exact hanswers.refused s call
      · exact hanswers.unrestricted s call accepted hcall

variable {real : Version} (hreal : r.mRealRadio = some real)
  (hlegacy : real.minor < Version.v1_4.minor)

omit hanswers

include hreal in
theorem calls_wrap (call : RadioCall P) : calls (r.wrap call) = [call] := by
  rw [wrap, hreal]
  rfl

include hreal hlegacy

theorem calls_setAllowedCarriers_1_4 (serial : Int32) (carriers : CarrierRestrictionsWithPriority P)
    (multiSimPolicy : SimLockMultiSimPolicy) :
    calls (r.setAllowedCarriers_1_4 serial carriers multiSimPolicy) =
      if carriersSupported carriers multiSimPolicy then
        [.setAllowedCarriers serial (isAllCarriersAllowed carriers)
          { allowedCarriers := carriers.allowedCarriers }]
      else [] := by
  rw [setAllowedCarriers_1_4, maybeWrap, hreal]
  dsimp only
  rw [if_neg (Nat.not_le.mpr hlegacy)]
  split
  · exact calls_wrap hreal _
  · rfl

/-- An older radio is asked as by the request of 1.0. -/
theorem getAllowedCarriers_1_4_eq (serial : Int32) :
    (r.getAllowedCarriers_1_4 serial : List (RadioEvent P)) = r.getAllowedCarriers serial := by
  rw [getAllowedCarriers_1_4, maybeWrap, hreal]
  exact if_neg (Nat.not_le.mpr hlegacy)

include hanswers

omit hreal hlegacy in
/-- A request of which nothing gets through that sets restrictions changes nothing that is read. -/
theorem readAllowedCarriers_same {request : FrameworkRequest P Q}
    (h : ∀ call ∈ r.passes request, call.restricts = false) (info : RadioResponseInfo) (s : State) :
    (r.readAllowedCarriers radio info (r.after radio s { request })).2.1 =
      (r.readAllowedCarriers radio info s).2.1 := by
  rw [readAllowedCarriers, readAllowedCarriers, after,
    allowedCarriers_run hanswers fun call hcall => .inr (h call hcall)]

omit hreal hlegacy in
theorem readAllowedCarriers_bringsNone {request : Request P} (h : BringsNone (r.perform request))
    (info : RadioResponseInfo) (s : State) :
    (r.readAllowedCarriers radio info (r.after radio s { request := .later request })).2.1 =
      (r.readAllowedCarriers radio info s).2.1 := by
  apply readAllowedCarriers_same hanswers
  intro call hcall
  obtain ⟨inner, hinner, rfl⟩ := List.mem_map.mp hcall
  exact h inner hinner

/-- Restrictions that can be said in 1.0 are read as they were set, and others are not passed on. -/
theorem readAllowedCarriers_set_1_4 (info : RadioResponseInfo) (s : State) (serial : Int32)
    (carriers : CarrierRestrictionsWithPriority P) (multiSimPolicy : SimLockMultiSimPolicy) :
    (r.readAllowedCarriers radio info (r.after radio s
        { request := .later (.setAllowedCarriers_1_4 serial carriers multiSimPolicy) })).2.1 =
      if carriersSupported carriers multiSimPolicy then carriers
      else (r.readAllowedCarriers radio info s).2.1 := by
  have hcalls := calls_setAllowedCarriers_1_4 (P := P) hreal hlegacy serial carriers multiSimPolicy
  cases hsupported : carriersSupported carriers multiSimPolicy with
  | false =>
      rw [hsupported] at hcalls
      apply readAllowedCarriers_bringsNone hanswers
      intro call hcall
      rw [perform, hcalls] at hcall
      cases hcall
  | true =>
      rw [hsupported, if_pos rfl] at hcalls
      rw [after, passes, perform, hcalls, List.map_singleton, run_cons, run_nil,
        readAllowedCarriers_set hanswers, getAllowedCarriersResponse_of_supported _ hsupported]
      rfl

/-- After a request that is accepted the framework reads the restrictions that it got through,
or the same as before. -/
theorem readAllowedCarriers_accepted (info : RadioResponseInfo) (s : State)
    (request : FrameworkRequest P Q) :
    (r.readAllowedCarriers radio info (r.after radio s { request })).2.1 =
      (CarrierOp.getsThrough { request }).getD (r.readAllowedCarriers radio info s).2.1 := by
  cases request with
  | setAllowedCarriers serial allAllowed carriers =>
      have hpasses : r.passes (.setAllowedCarriers serial allAllowed carriers) =
          ([.call (.setAllowedCarriers serial allAllowed carriers)] : List (RealCall P Q)) := by
        rw [passes, setAllowedCarriers, calls_wrap hreal]
        rfl
      rw [after, hpasses, run_cons, run_nil, readAllowedCarriers_set hanswers]
      cases allAllowed <;> rfl
  | getAllowedCarriers serial =>
      apply readAllowedCarriers_same hanswers
      intro call hcall
      rw [passes, getAllowedCarriers, calls_wrap hreal] at hcall
      rw [List.mem_singleton.mp hcall]
      rfl
  | other request =>
      apply readAllowedCarriers_same hanswers
      intro call hcall
      rw [passes, hreal] at hcall
      rw [List.mem_singleton.mp hcall]
      rfl
  | later request =>
      by_cases hsets : ∃ serial carriers multiSimPolicy,
          request = .setAllowedCarriers_1_4 serial carriers multiSimPolicy
      · obtain ⟨serial, carriers, multiSimPolicy, rfl⟩ := hsets
        rw [readAllowedCarriers_set_1_4 hanswers hreal hlegacy, CarrierOp.getsThrough, if_pos rfl]
        cases hsupported : carriersSupported carriers multiSimPolicy <;> simp [hsupported]
      · -- Of the requests from 1.1 on no other one is made of `setAllowedCarriers`.
        have hnone : BringsNone (r.perform request) := by
          apply r.bringsNone_perform
          intro serial carriers multiSimPolicy heq
          exact hsets ⟨serial, carriers, multiSimPolicy, heq⟩
        rw [readAllowedCarriers_bringsNone hanswers hnone]
        cases request with
        | setAllowedCarriers_1_4 serial carriers multiSimPolicy =>
            exact absurd ⟨serial, carriers, multiSimPolicy, rfl⟩ hsets
        | _ => rfl

/-- A request that is refused changes nothing that the framework reads. -/
theorem readAllowedCarriers_after (info : RadioResponseInfo) (s : State) (op : CarrierOp P Q) :
    (r.readAllowedCarriers radio info (r.after radio s op)).2.1 =
      op.getsThrough.getD (r.readAllowedCarriers radio info s).2.1 := by
  obtain ⟨request, accepted⟩ := op
  cases accepted with
  | true => exact readAllowedCarriers_accepted hanswers hreal hlegacy info s request
  | false =>
      rw [readAllowedCarriers, readAllowedCarriers, after,
        allowedCarriers_run hanswers fun _ _ => .inl rfl]
      rfl

/-- Whatever requests the framework makes of an older radio that answers what it accepted last, it
reads the restrictions that it set last, of those that can be said in 1.0 and that the radio
accepted. -/
theorem allowed_carriers_read_back (serial : Int32) (info : RadioResponseInfo) (s : State)
    (ops : List (CarrierOp P Q)) :
    (r.getAllowedCarriers_1_4 serial : List (RadioEvent P)) = r.getAllowedCarriers serial ∧
      (r.getAllowedCarriers serial : List (RadioEvent P)) = [.call (.getAllowedCarriers serial)] ∧
      r.readAllowedCarriers radio info (run (r.after radio) s ops) =
        (info, latest CarrierOp.getsThrough (r.readAllowedCarriers radio info s).2.1 ops,
          .noMultisimPolicy) := by
  refine ⟨getAllowedCarriers_1_4_eq hreal hlegacy serial, ?_, ?_⟩
  · rw [getAllowedCarriers, wrap, hreal]
  · have hread : (r.readAllowedCarriers radio info (run (r.after radio) s ops)).2.1 =
        latest CarrierOp.getsThrough (r.readAllowedCarriers radio info s).2.1 ops :=
      @view_run _ _ _ (r.after radio) _ (fun s => (r.readAllowedCarriers radio info s).2.1)
        (readAllowedCarriers_after hanswers hreal hlegacy info) s ops
    rw [readAllowedCarriers_eq, hread]

end

/-- A radio that only keeps carrier restrictions. -/
def lockingRadio : RealRadio String Unit (Bool × CarrierRestrictions String) where
  receive
    | _, .call (.setAllowedCarriers _ allAllowed carriers), true => (allAllowed, carriers)
    | s, _, _ => s
  allowedCarriers s := s

theorem lockingRadio_answersLast : lockingRadio.AnswersLast where
  allAllowed _ _ _ _ := rfl
  carriers _ _ _ := rfl
  refused s call := by
    cases call with
    | passedOn request => rfl
    | call call => cases call <;> rfl
  unrestricted s call accepted h := by
    cases call with
    | passedOn request => rfl
    | call call =>
        cases call with
        | setAllowedCarriers serial allAllowed carriers => cases h
        | _ => rfl

/-- The radio accepts the second restrictions, refuses the third, and does not get the fourth. -/
theorem allowed_carriers_read_back_priority :
    ∃ r : Radio, r.mRealRadio = some .v1_2 ∧
      r.readAllowedCarriers lockingRadio { type := .solicited, serial := 3, error := .none }
        (run (r.after lockingRadio) (true, {})
          [{ request := .setAllowedCarriers 1 false { excludedCarriers := ["c"] } },
            { request := .later (.setAllowedCarriers_1_4 2 ⟨["a"], [], true⟩ .noMultisimPolicy) },
            { request := .setAllowedCarriers 3 true {}, accepted := false },
            { request := .later (.setPreferredNetworkTypeBitmap 4 0) },
            { request := .later
                (.setAllowedCarriers_1_4 5 ⟨["a"], ["b"], true⟩ .noMultisimPolicy) },
            { request := .other () }]) =
        ({ type := .solicited, serial := 3, error := .none }, ⟨["a"], [], true⟩,
          .noMultisimPolicy) := by
  let r : Radio := { values := ⟨0, 0, 0, 0, 0, 0, 0⟩, mRealRadio := some .v1_2 }
  exact ⟨r, rfl, (@allowed_carriers_read_back String Unit _ r lockingRadio
    lockingRadio_answersLast .v1_2 rfl (by decide) 6 _ (true, {}) _).2.2⟩

end Radio

end LgeHardware.RadioService
