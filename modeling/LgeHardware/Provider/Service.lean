import LgeHardware.Camera.CameraDevice
import LgeHardware.Provider.DeviceTable

/-! # The camera service

The process holds one provider, the device objects that the provider made for the
framework, and the sessions that were opened on them. `getCameraDeviceInterface` makes a
new object at every call, and nothing leads from the provider back to its devices.
-/

namespace LgeHardware.Provider

open LgeHardware.Foundation LgeHardware.Camera ProviderM

/-! ## Device names -/

/-- `matchDeviceName`, with the version and the id that `kDeviceNameRE` finds in the text up
to a null character. -/
def matchDeviceName (deviceName : String) : Option (String × String) := do
  let name := deviceName.toList.takeWhile (· ≠ '\x00')
  let versioned ← "device@".toList.isPrefixOf? name
  let major := versioned.takeWhile Char.isDigit
  let dotted ← ['.'].isPrefixOf? (versioned.dropWhile Char.isDigit)
  let minor := dotted.takeWhile Char.isDigit
  let cameraId ← "/internal/".toList.isPrefixOf? (dotted.dropWhile Char.isDigit)
  if major ≠ [] ∧ minor ≠ [] ∧ cameraId ≠ [] ∧ cameraId.all (fun c => c ≠ '\n' ∧ c ≠ '\r') then
    some (String.ofList (major ++ '.' :: minor), String.ofList cameraId)
  else none

/-- The provider recognises every name that it makes. -/
theorem matchDeviceName_getAidlDeviceName (id : Int32) :
    matchDeviceName (getAidlDeviceName (toStr id)) = some (kDeviceVersion, toStr id) := by
  have hplain : ∀ c ∈ (toStr id).toList, c ≠ '\x00' ∧ c ≠ '\n' ∧ c ≠ '\r' := by
    intro c hc
    rcases isDigit_of_mem_toStr hc with rfl | hdigit
    · decide
    · refine ⟨?_, ?_, ?_⟩ <;> rintro rfl <;> cases hdigit
  have hname : (getAidlDeviceName (toStr id)).toList.takeWhile (· ≠ '\x00') =
      "device@1.1/internal/".toList ++ (toStr id).toList := by
    have htext : (getAidlDeviceName (toStr id)).toList =
        "device@1.1/internal/".toList ++ (toStr id).toList := by
      rw [getAidlDeviceName, String.toList_append]
      rfl
    have hfixed : "device@1.1/internal/".toList.all (· ≠ '\x00') = true := by decide
    rw [htext, List.takeWhile_eq_self_iff]
    intro c hc
    rcases List.mem_append.mp hc with hc | hc
    · exact List.all_eq_true.mp hfixed c hc
    · exact decide_eq_true (hplain c hc).1
  have hid : (toStr id).toList ≠ [] := by
    intro hnil
    exact toStr_ne_empty id (String.toList_eq_nil_iff.mp hnil)
  have hmatch : matchDeviceName (getAidlDeviceName (toStr id)) =
      if ['1'] ≠ [] ∧ ['1'] ≠ [] ∧ (toStr id).toList ≠ [] ∧
          (toStr id).toList.all (fun c => c ≠ '\n' ∧ c ≠ '\r') then
        some (kDeviceVersion, String.ofList (toStr id).toList)
      else none := by
    rw [matchDeviceName, hname]
    rfl
  rw [hmatch, if_pos, String.ofList_toList]
  refine ⟨List.cons_ne_nil _ _, List.cons_ne_nil _ _, hid, ?_⟩
  exact List.all_eq_true.mpr fun c hc => decide_eq_true (hplain c hc).2

/-! ## The device interface -/

/-- `getCameraDeviceInterface`, with the device that the framework gets. `getDeviceVersion` is
what the module says of an id. -/
def getCameraDeviceInterface (getDeviceVersion : Int32 → Int) (cameraDeviceName : String) :
    ProviderM (Status × Option CameraDevice) :=
  match matchDeviceName cameraDeviceName with
  | none => pure (.illegalArgument, none)
  | some (_, cameraId) => do
      let p ← getProvider
      if (cameraId, cameraDeviceName) ∉ p.mCameraDeviceNames then
        -- an illegal name, or another version
        pure (if cameraId ∉ p.mCameraIds then .illegalArgument else .operationNotSupported, none)
      else
        useModule
        let deviceImpl := CameraDevice.construct getDeviceVersion cameraId
        if deviceImpl.mInitFail then pure (.internalError, none) else pure (.ok, some deviceImpl)

/-- The framework gets a fresh device, of a name in the table, or nothing. -/
theorem getCameraDeviceInterface_spec (getDeviceVersion : Int32 → Int)
    (cameraDeviceName : String) (c : ProviderCall) :
    Ends (getCameraDeviceInterface getDeviceVersion cameraDeviceName) c
      (fun result c' => c' = c ∧ ∀ d ∈ result.2, c.provider.mModule = true ∧
        (d.mCameraId, cameraDeviceName) ∈ c.provider.mCameraDeviceNames ∧
        d = { mCameraId := d.mCameraId })
      fun _ c' => c' = c := by
  rw [getCameraDeviceInterface]
  split
  next => exact ⟨rfl, nofun⟩
  next version cameraId _ =>
    rw [ends_bind, ends_getProvider]
    split
    next => exact ⟨rfl, nofun⟩
    next hname =>
      rw [ends_bind, ends_useModule]
      split
      next hmodule =>
        dsimp only
        split
        next => exact ⟨rfl, nofun⟩
        next hinit =>
          refine ⟨rfl, fun d hd => ?_⟩
          cases hd
          refine ⟨hmodule, Decidable.not_not.mp hname, ?_⟩
          rw [CameraDevice.construct] at hinit ⊢
          simp only [Bool.not_eq_true] at hinit
          rw [hinit]
      next => rfl

/-! ## The process as a state machine -/

/-- The provider, the devices it made and the sessions opened on them, each in the order in
which they were made. -/
structure ServiceState where
  provider : ProviderState
  devices : List CameraDevice := []
  sessions : List OpenedSession := []

/-- What a client or the HAL can call on a session. -/
abbrev ClientOp := { op : SessionOp // op ≠ .disconnect }

/-- A step of the provider, or a call of the framework or the HAL on a device or a session. -/
inductive ServiceOp
  | provider (op : ProviderOp)
  | getCameraDeviceInterface (getDeviceVersion : Int32 → Int) (cameraDeviceName : String)
  | openSession (device : Nat) (callback : Bool) (world : OpenWorld)
  | session (number : Nat) (op : ClientOp)

namespace ServiceState

def constructing (world : ProviderWorld) : ServiceState :=
  { provider := .constructing world }

/-- The process is gone. -/
def Aborted (s : ServiceState) : Prop :=
  s.provider.phase = .aborted ∨ ∃ o ∈ s.sessions, o.state.stage = .aborted

instance (s : ServiceState) : Decidable s.Aborted := inferInstanceAs (Decidable (_ ∨ _))

def getCameraDeviceInterface (s : ServiceState) (getDeviceVersion : Int32 → Int)
    (cameraDeviceName : String) : ServiceState :=
  if !s.provider.phase.constructed then s
  else
    match Provider.getCameraDeviceInterface getDeviceVersion cameraDeviceName s.provider.call with
    | .ok (_, device) _ => { s with devices := s.devices ++ device.toList }
    | .error .. => { s with provider := { s.provider with phase := .aborted } }

/-- The device points to the new session if `open` succeeds. -/
def openSession (s : ServiceState) (device : Nat) (callback : Bool) (world : OpenWorld) :
    ServiceState :=
  match s.devices[device]? with
  | none => s
  | some d =>
      let result := d.openSession s.sessions callback world
      { s with
        devices :=
          if result.status = .ok then
            s.devices.set device { d with mSession := some s.sessions.length }
          else s.devices
        sessions :=
          s.sessions ++ result.session.toList.map ({ cameraId := d.mCameraId, state := · }) }

/-- Nothing happens once the process is gone. -/
def next (lib : MetadataLib) (world : ProviderWorld) (s : ServiceState) (op : ServiceOp) :
    ServiceState :=
  if s.Aborted then s
  else
    match op with
    | .provider op => { s with provider := s.provider.next world op }
    | .getCameraDeviceInterface getDeviceVersion cameraDeviceName =>
        s.getCameraDeviceInterface getDeviceVersion cameraDeviceName
    | .openSession device callback world => s.openSession device callback world
    | .session number op =>
        { s with sessions :=
            s.sessions.modify number fun o => { o with state := o.state.next lib op.1 } }

end ServiceState

/-! ## The invariant -/

namespace ProviderState

/-- The constructor is through, and the provider has its module. -/
structure Loaded (s : ProviderState) : Prop where
  constructed : s.phase.constructed = true
  mModule : s.call.provider.mModule = true

theorem Loaded.perform {s : ProviderState} (h : s.Loaded) {call : ProviderM PUnit}
    (hcall : Ends call s.call (fun _ c => c.provider.mModule = true) fun _ _ => True) :
    (s.perform call).phase = .aborted ∨ (s.perform call).Loaded := by
  rw [Ends] at hcall
  rw [ProviderState.perform, final, stops]
  cases hresult : call s.call with
  | error e c => exact .inl rfl
  | ok a c =>
      rw [hresult] at hcall
      exact .inr ⟨h.constructed, hcall⟩

/-- A loaded provider stays loaded as long as the process lives. -/
theorem Loaded.next {s : ProviderState} (h : s.Loaded) (hinv : s.Inv fun _ => True)
    (world : ProviderWorld) (op : ProviderOp) :
    (s.next world op).phase = .aborted ∨ (s.next world op).Loaded := by
  have hcall : ∀ (condition : Prop) [Decidable condition] {call : ProviderM PUnit},
      Ends call s.call (fun _ c => c.provider.mModule = true) (fun _ _ => True) →
        (if condition then s.perform call else s).phase = .aborted ∨
          (if condition then s.perform call else s).Loaded := by
    intro condition _ call hends
    split
    · exact h.perform hends
    · exact .inr h
  cases op with
  | construct =>
      obtain ⟨call, phase⟩ := s
      cases phase with
      | unloaded | ready | failed => exact .inr h
      | settingCallbacks | blacklisting _ | enumerating _ _ | aborted => cases h.constructed
  | cameraDeviceStatusChange id status =>
      apply hcall
      apply (sCameraDeviceStatusChange_spec id status h.mModule).mono
      · intro _ c hc
        rw [hc, CameraProvider.afterReport_frame]
        exact h.mModule
      · exact fun _ _ _ => trivial
  | torchModeStatusChange id status =>
      apply hcall
      apply (sTorchModeStatusChange_spec id status s.call).mono
      · intro _ c hc
        rw [hc]
        exact h.mModule
      · exact fun _ _ _ => trivial
  | setCallback callback =>
      apply hcall
      apply (setCallback_spec callback hinv.names.statuses h.mModule).mono
      · intro _ c hc
        rw [hc, CameraProvider.afterSetCallback]
        dsimp only
        split
        · rw [CameraProvider.withDevices_frame]
          exact h.mModule
        · exact h.mModule
      · exact fun _ _ _ => trivial
  | getCameraIdList =>
      apply hcall
      apply (getCameraIdList_spec hinv.names).mono
      · rintro _ c ⟨keys, hc⟩
        rw [hc]
        exact h.mModule
      · exact fun _ _ _ => trivial

theorem permits_of_forall {allowed : Int32 → Prop} (h : ∀ id, allowed id) (s : ProviderState)
    (op : ProviderOp) : s.Permits allowed op := by
  cases op with
  | construct => exact fun _ _ _ _ _ => h _
  | cameraDeviceStatusChange => exact fun _ _ _ _ => h _
  | torchModeStatusChange => trivial
  | setCallback => exact fun _ _ _ _ _ _ _ => h _
  | getCameraIdList => trivial

end ProviderState

namespace ServiceState

/-- The devices are connected and so are the sessions, which there are only with devices, and
devices only with a provider that has its module. -/
structure Inv (s : ServiceState) : Prop where
  provider : s.provider.Inv fun _ => True
  loaded : s.devices ≠ [] → s.provider.phase = .aborted ∨ s.provider.Loaded
  connected : ∀ d ∈ s.devices, d.initStatus = .ok
  attached : ∀ o ∈ s.sessions, o.state.Attached
  opened : s.sessions ≠ [] → s.devices ≠ []

theorem inv_constructing (world : ProviderWorld) : (constructing world).Inv where
  provider := ProviderState.inv_constructing _ world
  loaded h := absurd rfl h
  connected _ hd := absurd hd List.not_mem_nil
  attached _ ho := absurd ho List.not_mem_nil
  opened h := absurd rfl h

/-- The provider hands out a fresh device or none, unless it has lost its module. -/
theorem getCameraDeviceInterface_cases (s : ServiceState) (getDeviceVersion : Int32 → Int)
    (cameraDeviceName : String) :
    s.getCameraDeviceInterface getDeviceVersion cameraDeviceName = s ∨
      s.getCameraDeviceInterface getDeviceVersion cameraDeviceName =
        { s with provider := { s.provider with phase := .aborted } } ∨
      s.provider.Loaded ∧ ∃ cameraId,
        s.getCameraDeviceInterface getDeviceVersion cameraDeviceName =
          { s with devices := s.devices ++ [{ mCameraId := cameraId }] } := by
  rw [getCameraDeviceInterface]
  split
  next => exact .inl rfl
  next hphase =>
    have hspec := getCameraDeviceInterface_spec getDeviceVersion cameraDeviceName s.provider.call
    rw [Ends] at hspec
    split
    next status device call hcall =>
      rw [hcall] at hspec
      cases device with
      | none =>
          left
          rw [Option.toList_none, List.append_nil]
      | some d =>
          obtain ⟨hmodule, -, hfresh⟩ := hspec.2 d rfl
          refine .inr (.inr ⟨⟨?_, hmodule⟩, d.mCameraId, ?_⟩)
          · simpa using hphase
          · rw [← hfresh]
            rfl
    next => exact .inr (.inl rfl)

/-- A lookup keeps the invariant: the device that it may give is connected. -/
theorem Inv.getCameraDeviceInterface {s : ServiceState} (h : s.Inv)
    (getDeviceVersion : Int32 → Int) (cameraDeviceName : String) :
    (s.getCameraDeviceInterface getDeviceVersion cameraDeviceName).Inv := by
  rcases s.getCameraDeviceInterface_cases getDeviceVersion cameraDeviceName
    with hsame | haborted | ⟨hloaded, cameraId, hnew⟩
  · rw [hsame]
    exact h
  · rw [haborted]
    exact { h with
      provider := ⟨h.provider.names, trivial⟩
      loaded := fun _ => .inl rfl }
  · rw [hnew]
    refine { h with loaded := fun _ => .inr hloaded, connected := fun d hd => ?_, opened := ?_ }
    · rcases List.mem_append.mp hd with hold | hnew
      · exact h.connected d hold
      · rw [List.mem_singleton.mp hnew]
        rfl
    · exact fun _ => List.append_ne_nil_of_right_ne_nil _ (List.cons_ne_nil _ _)

/-- An open keeps the invariant: the session that it may start is attached. -/
theorem Inv.openSession {s : ServiceState} (h : s.Inv) (device : Nat) (callback : Bool)
    (world : OpenWorld) : (s.openSession device callback world).Inv := by
  rw [ServiceState.openSession]
  split
  next => exact h
  next d hd =>
    have hmem : d ∈ s.devices := List.mem_of_getElem? hd
    dsimp only
    refine { provider := h.provider, loaded := ?_, connected := ?_, attached := ?_, opened := ?_ }
    · exact fun _ => h.loaded (List.ne_nil_of_mem hmem)
    · intro other hother
      split at hother
      · rcases List.mem_or_eq_of_mem_set hother with hold | rfl
        · exact h.connected other hold
        · exact h.connected d hmem
      · exact h.connected other hother
    · intro o ho
      rcases List.mem_append.mp ho with hold | hnew
      · exact h.attached o hold
      · obtain ⟨state, hstate, rfl⟩ := List.mem_map.mp hnew
        rw [Option.mem_toList] at hstate
        rcases d.openSession_cases s.sessions callback world with ⟨-, hnone⟩ | hstarted
        · rw [hnone] at hstate
          cases hstate
        · rw [hstarted] at hstate
          exact (CameraDevice.startSession_session hstate).1
    · intro _
      split
      · intro hnil
        rw [List.set_eq_nil_iff] at hnil
        exact List.ne_nil_of_mem hmem hnil
      · exact List.ne_nil_of_mem hmem

/-- Every step keeps the invariant. -/
theorem Inv.next {s : ServiceState} (h : s.Inv) (lib : MetadataLib) (world : ProviderWorld)
    (op : ServiceOp) : (s.next lib world op).Inv := by
  unfold ServiceState.next
  split
  next => exact h
  next halive =>
    cases op with
    | provider op =>
        refine { h with
          provider := h.provider.next (s.provider.permits_of_forall (fun _ => trivial) op)
          loaded := fun hdevices => ?_ }
        rcases h.loaded hdevices with haborted | hloaded
        · exact absurd (.inl haborted) halive
        · exact hloaded.next h.provider world op
    | getCameraDeviceInterface getDeviceVersion cameraDeviceName =>
        exact h.getCameraDeviceInterface getDeviceVersion cameraDeviceName
    | openSession device callback world => exact h.openSession device callback world
    | session number op =>
        refine { h with attached := fun o ho => ?_, opened := fun hsessions => h.opened ?_ }
        · obtain ⟨n, hn⟩ := List.mem_iff_getElem?.mp ho
          rw [List.getElem?_modify] at hn
          obtain ⟨old, hold, rfl⟩ := Option.map_eq_some_iff.mp hn
          have hattached := h.attached old (List.mem_of_getElem? hold)
          split
          · exact hattached.next lib op.2
          · exact hattached
        · intro hnil
          apply hsessions
          dsimp only
          rw [hnil, List.modify_nil]

end ServiceState

end LgeHardware.Provider
