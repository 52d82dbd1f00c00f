import LgeHardware.Foundation.Decimal
import LgeHardware.Foundation.OrdMap
import LgeHardware.Foundation.Staged

/-! # The camera provider

`CameraProvider` keeps the status of every camera id that the HAL has reported and a
table of the device names it shows to the framework. Its constructor runs in steps,
because the HAL may call back as soon as it has the callbacks.
-/

namespace LgeHardware.Provider

open LgeHardware.Foundation

/-! ## Ids and names -/

/-- `base::Split` at one delimiter. -/
def split (s : String) (delimiter : Char) : List String :=
  (s.toList.splitOn delimiter).map String.ofList

/-- `CameraDevice::kDeviceVersion`. -/
def kDeviceVersion : String := "1.1"

def getAidlDeviceName (cameraId : String) : String :=
  "device@" ++ kDeviceVersion ++ "/internal/" ++ cameraId

theorem getAidlDeviceName_injective : Function.Injective getAidlDeviceName := by
  intro a b h
  exact (String.append_right_inj _).mp h

/-! ## The state -/

/-- `CameraDeviceStatus`, or a value that is not in the enumeration. -/
inductive CameraDeviceStatus
  | notPresent
  | present
  | enumerating
  | other (value : Int32)
  deriving DecidableEq, Repr

/-- What the provider tells the framework, by callback or in a reply, and what it tells
the camera module. -/
inductive ProviderEvent
  | cameraDeviceStatusChange (name : String) (status : CameraDeviceStatus)
  | torchModeStatusChange (name : String) (status : Int32)
  | cameraIdList (names : List String)
  | removeCamera (cameraId : Int32)
  deriving DecidableEq, Repr

/-- `mCallbacks` and `mModule` say whether the pointers are set. A `SortedVector` has no
duplicates. -/
structure CameraProvider where
  mCallbacks : Bool := false
  mModule : Bool := false
  mCameraStatusMap : Std.ExtTreeMap String CameraDeviceStatus := ∅
  mLegacyCameras : Std.ExtTreeSet Int32 := ∅
  mCameraIds : Std.ExtTreeSet String := ∅
  mCameraDeviceNames : Std.ExtTreeSet (String × String) pairCompare := ∅
  mBlacklistedCameraIds : List Int32 := []

/-- The provider during a call, and what it has told others so far. -/
structure ProviderCall where
  provider : CameraProvider
  events : List ProviderEvent := []

/-- A call that may end early, where it throws or uses a module that is gone. -/
abbrev ProviderM := EStateM Unit ProviderCall

namespace ProviderM

def getProvider : ProviderM CameraProvider := do return (← get).provider

def update (f : CameraProvider → CameraProvider) : ProviderM PUnit :=
  modify fun c => { c with provider := f c.provider }

def emit (events : List ProviderEvent) : ProviderM PUnit :=
  modify fun c => { c with events := c.events ++ events }

/-- A use of `mModule`. -/
def useModule : ProviderM PUnit := do
  if (← getProvider).mModule then pure ⟨⟩ else throw ()

def parse (s : String) : ProviderM Int32 :=
  match stoi s with
  | none => throw ()
  | some i => pure i

section

variable {c : ProviderCall} {α : Type} {stop : Unit → ProviderCall → Prop}

@[simp] theorem ends_getProvider {post : CameraProvider → ProviderCall → Prop} :
    Ends getProvider c post stop ↔ post c.provider c := Iff.rfl

@[simp] theorem ends_update (f : CameraProvider → CameraProvider)
    {post : PUnit → ProviderCall → Prop} :
    Ends (update f) c post stop ↔ post ⟨⟩ { c with provider := f c.provider } := Iff.rfl

@[simp] theorem ends_emit (events : List ProviderEvent) {post : PUnit → ProviderCall → Prop} :
    Ends (emit events) c post stop ↔ post ⟨⟩ { c with events := c.events ++ events } := Iff.rfl

@[simp] theorem ends_useModule {post : PUnit → ProviderCall → Prop} :
    Ends useModule c post stop ↔
      if c.provider.mModule = true then post ⟨⟩ c else stop () c := by
  rw [useModule, ends_bind, ends_getProvider]
  split
  · rfl
  · rfl

theorem ends_parse_toStr (id : Int32) {post : Int32 → ProviderCall → Prop} :
    Ends (parse (toStr id)) c post stop ↔ post id c := by
  rw [parse, stoi_toStr]
  rfl

end

end ProviderM

open ProviderM

/-! ## The device table -/

def addDeviceNames (cameraId : Int32) (status : CameraDeviceStatus) (camNew : Bool) :
    ProviderM PUnit := do
  let cameraIdStr := toStr cameraId
  update fun p => { p with mCameraIds := p.mCameraIds.insert cameraIdStr }
  -- `getDeviceVersion`, whose result nothing uses
  useModule
  let deviceNamePair := (cameraIdStr, getAidlDeviceName cameraIdStr)
  update fun p => { p with mCameraDeviceNames := p.mCameraDeviceNames.insert deviceNamePair }
  if camNew then emit [.cameraDeviceStatusChange deviceNamePair.2 status]

def removeDeviceNames (cameraId : Int32) : ProviderM PUnit := do
  let cameraIdStr := toStr cameraId
  update fun p => { p with mCameraIds := p.mCameraIds.erase cameraIdStr }
  useModule
  let deviceNamePair := (cameraIdStr, getAidlDeviceName cameraIdStr)
  update fun p => { p with mCameraDeviceNames := p.mCameraDeviceNames.erase deviceNamePair }
  emit [.cameraDeviceStatusChange deviceNamePair.2 .notPresent, .removeCamera cameraId]

def CameraProvider.isCameraIdBlacklisted (p : CameraProvider) (cameraId : Int32) : Bool :=
  cameraId ∈ p.mBlacklistedCameraIds

/-- The names in the table under an id. -/
def CameraProvider.deviceNames (p : CameraProvider) (cameraIdStr : String) : List String :=
  (p.mCameraDeviceNames.toList.filter (·.1 = cameraIdStr)).map Prod.snd

/-! ## Callbacks of the HAL -/

/-- The `switch` of `sCameraDeviceStatusChange`. -/
def updateDeviceNames (cameraId : Int32) (newStatus : CameraDeviceStatus) (found : Bool) :
    ProviderM PUnit :=
  match newStatus with
  | .present | .enumerating => if !found then addDeviceNames cameraId newStatus true else pure ⟨⟩
  | .notPresent => if found then removeDeviceNames cameraId else pure ⟨⟩
  | .other _ => pure ⟨⟩

def sCameraDeviceStatusChange (cameraId : Int32) (newStatus : CameraDeviceStatus) :
    ProviderM PUnit := do
  let cp ← getProvider
  if cp.isCameraIdBlacklisted cameraId then pure ⟨⟩
  else
    let cameraIdStr := toStr cameraId
    update fun p => { p with
      mCameraStatusMap := p.mCameraStatusMap.insert cameraIdStr newStatus }
    if !cp.mCallbacks then pure ⟨⟩
    else
      let names := cp.deviceNames cameraIdStr
      emit (names.map fun name => .cameraDeviceStatusChange name newStatus)
      updateDeviceNames cameraId newStatus (names ≠ [])

def sTorchModeStatusChange (cameraId : String) (newStatus : Int32) : ProviderM PUnit := do
  let id ← parse cameraId
  let cp ← getProvider
  if cp.isCameraIdBlacklisted id then pure ⟨⟩
  else if cp.mCallbacks then
    emit ((cp.deviceNames cameraId).map fun name => .torchModeStatusChange name newStatus)
  else pure ⟨⟩

/-! ## Calls of the framework -/

/-- The loop of `setCallback` over the entries of `mCameraStatusMap`. -/
def addPresent : List (String × CameraDeviceStatus) → ProviderM PUnit
  | [] => pure ⟨⟩
  | (cameraId, status) :: rest => do
      let id ← parse cameraId
      if id ∉ (← getProvider).mLegacyCameras ∧ status ≠ .notPresent then
        addDeviceNames id status true
      addPresent rest

def setCallback (callback : Bool) : ProviderM PUnit := do
  update fun p => { p with mCallbacks := callback }
  if !callback then pure ⟨⟩
  else addPresent (← getProvider).mCameraStatusMap.toList

/-- The loop of `getCameraIdList` over the device table. A status that is not there is
created as `CAMERA_DEVICE_STATUS_NOT_PRESENT`. -/
def cameraIdList : List (String × String) → ProviderM (List String)
  | [] => pure []
  | (cameraId, name) :: rest => do
      let id ← parse cameraId
      let p ← getProvider
      if id ∉ p.mLegacyCameras then cameraIdList rest
      else
        update fun p => { p with
          mCameraStatusMap := p.mCameraStatusMap.insertIfNew cameraId .notPresent }
        let names ← cameraIdList rest
        pure (if p.mCameraStatusMap[cameraId]? = some .present then name :: names else names)

def getCameraIdList : ProviderM PUnit := do
  let names ← cameraIdList (← getProvider).mCameraDeviceNames.toList
  emit [.cameraIdList names]

/-! ## Construction -/

/-- What the environment answers to the constructor: the return codes of loading the camera
module, of its `init` and its `setCallbacks`, the system properties, and what the module
says of the cameras. `parseInt` is `base::ParseInt`. -/
structure ProviderWorld where
  hwGetModule : Int := 0
  init : Int := 0
  setCallbacks : Int := 0
  blacklistedCameraProp : String := ""
  remapProp : String := ""
  skipFailedProp : Bool := false
  parseInt : String → Option Int32 := fun _ => none
  getNumberOfCameras : Int32 := 0
  getCameraInfo : Nat → Int32 → Int × Nat := fun _ _ => (0, 0x303)
  getModuleApiVersion : Nat := 0x204

/-- The ids in the text of the blacklist property, as texts. -/
def ProviderWorld.blacklistedIds (world : ProviderWorld) : List String :=
  if world.blacklistedCameraProp = "" then [] else split world.blacklistedCameraProp ','

/-- `getLegacyCameraIdMap`. -/
def getLegacyCameraIdMap (world : ProviderWorld) (numberOfCameras : Nat) : List Int32 :=
  if world.remapProp = "" then (List.range numberOfCameras).map Int32.ofNat
  else
    let idRemap := split world.remapProp ' '
    (List.range numberOfCameras).map fun n =>
      (idRemap[n]?.bind world.parseInt).getD (Int32.ofNat n)

/-- `checkCameraVersion`. -/
def checkCameraVersion (moduleVersion deviceVersion : Nat) : Bool :=
  if moduleVersion < 0x200 then true
  else if deviceVersion ∈ [0x100, 0x302, 0x303, 0x304, 0x305] then true
  else deviceVersion = 0x306 && 0x205 ≤ moduleVersion

/-- How far the constructor has come. It may end without the callbacks ever given to the
HAL, or with them given and `mInitFailed` set. -/
inductive Phase
  | unloaded
  | settingCallbacks
  | blacklisting (ids : List String)
  | enumerating (n : Nat) (cameraIds : List Int32)
  | ready
  | failed
  | aborted
  deriving DecidableEq, Repr

/-- The HAL has the callbacks. -/
def Phase.registered : Phase → Bool
  | .unloaded | .aborted => false
  | .settingCallbacks | .blacklisting _ | .enumerating .. | .ready | .failed => true

/-- The constructor has returned. -/
def Phase.constructed : Phase → Bool
  | .unloaded | .ready | .failed => true
  | .settingCallbacks | .blacklisting _ | .enumerating .. | .aborted => false

structure ProviderState where
  call : ProviderCall
  phase : Phase

namespace ProviderState

/-- The constructor when it gives the HAL the callbacks, if it gets so far. -/
def constructing (world : ProviderWorld) : ProviderState :=
  if world.hwGetModule < 0 ∨ world.init ≠ 0 then
    { call := { provider := {} }, phase := .unloaded }
  else { call := { provider := { mModule := true } }, phase := .settingCallbacks }

/-- The provider after a call, which may have ended in the abort of the process. -/
def perform (s : ProviderState) (call : ProviderM PUnit) : ProviderState :=
  { call := final call s.call, phase := if stops call s.call then .aborted else s.phase }

def update (s : ProviderState) (f : CameraProvider → CameraProvider) (phase : Phase) :
    ProviderState :=
  { call := { s.call with provider := f s.call.provider }, phase }

/-- The constructor gives up: `mModule.clear()` and `mInitFailed`. -/
def giveUp (s : ProviderState) : ProviderState :=
  s.update (fun p => { p with mModule := false }) .failed

/-- The body of the loop of `initialize` over the camera ids. -/
def enumerate (world : ProviderWorld) (s : ProviderState) (n : Nat) (id : Int32)
    (rest : List Int32) : ProviderState :=
  let next := { s with phase := .enumerating (n + 1) rest }
  if s.call.provider.isCameraIdBlacklisted id then next
  else
    let (rc, deviceVersion) := world.getCameraInfo n id
    if rc ≠ 0 then if world.skipFailedProp then next else s.giveUp
    else
      let s := s.update (fun p => { p with mLegacyCameras := p.mLegacyCameras.insert id }) s.phase
      if !checkCameraVersion world.getModuleApiVersion deviceVersion then s.giveUp
      else
        (s.update (fun p => { p with
          mCameraStatusMap := p.mCameraStatusMap.insert (toStr id) .present })
          (.enumerating (n + 1) rest)).perform (addDeviceNames id .present false)

/-- `CameraProvider::initialize` goes on to the next point where the HAL may come between. -/
def construct (world : ProviderWorld) (s : ProviderState) : ProviderState :=
  match s.phase with
  | .settingCallbacks =>
      if world.setCallbacks ≠ 0 then s.giveUp
      else { s with phase := .blacklisting world.blacklistedIds }
  | .blacklisting [] =>
      if world.getNumberOfCameras < 0 then { s with phase := .aborted }
      else { s with phase :=
        .enumerating 0 (getLegacyCameraIdMap world world.getNumberOfCameras.toInt.toNat) }
  | .blacklisting (id :: rest) =>
      match stoi id with
      | none => { s with phase := .aborted }
      | some id => s.update (fun p => { p with
          mBlacklistedCameraIds := p.mBlacklistedCameraIds ++ [id] }) (.blacklisting rest)
  | .enumerating _ [] => { s with phase := .ready }
  | .enumerating n (id :: rest) => s.enumerate world n id rest
  | .unloaded | .ready | .failed | .aborted => s

end ProviderState

/-! ## The provider as a state machine -/

/-- A step of the constructor, a callback of the HAL or a call of the framework. -/
inductive ProviderOp
  | construct
  | cameraDeviceStatusChange (cameraId : Int32) (newStatus : CameraDeviceStatus)
  | torchModeStatusChange (cameraId : String) (newStatus : Int32)
  | setCallback (callback : Bool)
  | getCameraIdList
  deriving DecidableEq, Repr

namespace ProviderState

/-- The HAL calls back once it has the callbacks, the framework when there is a provider. -/
def next (world : ProviderWorld) (s : ProviderState) : ProviderOp → ProviderState
  | .construct => s.construct world
  | .cameraDeviceStatusChange cameraId newStatus =>
      if s.phase.registered then s.perform (sCameraDeviceStatusChange cameraId newStatus) else s
  | .torchModeStatusChange cameraId newStatus =>
      if s.phase.registered then s.perform (sTorchModeStatusChange cameraId newStatus) else s
  | .setCallback callback =>
      if s.phase.constructed then s.perform (Provider.setCallback callback) else s
  | .getCameraIdList => if s.phase.constructed then s.perform Provider.getCameraIdList else s

end ProviderState

end LgeHardware.Provider
