import Mathlib.Algebra.GroupWithZero.Nat
import Mathlib.Algebra.Order.BigOperators.Group.List
import Mathlib.Algebra.Order.Group.Nat
import Mathlib.Data.List.Nodup
import LgeHardware.Foundation.Run
import LgeHardware.Foundation.Staged

/-! # The audio amplifier

The audio HAL calls the amplifier module when it routes the headphones, when a parameter
is set, and when a speaker starts or stops to need feedback. The module switches the
headphones between the normal path and the one through the Hi-Fi DAC, and keeps a capture
running for the speaker protection.
-/

namespace LgeHardware.Amplifier

open LgeHardware.Foundation

/-! ## The audio HAL -/

/-- The sound devices that the module names. -/
inductive SndDevice
  | outHeadphones
  | outSpeaker
  | outSpeakerReverse
  | outSpeakerAndHeadphones
  | outVoiceSpeaker
  | outVoiceSpeaker2
  | outSpeakerAndHdmi
  | outSpeakerAndUsbHeadset
  | outSpeakerAndAncHeadset
  | inCaptureViFeedback
  | other (number : UInt32)
  deriving DecidableEq, Repr

inductive UsecaseId
  | audioSpkrCalibTx
  | other (number : Nat)
  deriving DecidableEq, Repr

inductive UsecaseType
  | pcmPlayback
  | pcmCapture
  | other (number : Nat)
  deriving DecidableEq, Repr

structure StreamOut where
  streamConfigChanged : Bool := false
  deriving DecidableEq, Repr

/-- Who allocated a usecase. No function reads it. -/
inductive Owner
  | amplifier
  | audioHal
  deriving DecidableEq, Repr

/-- `deviceList` holds the types of the devices, `devices` is the mask of older platforms. -/
structure Usecase where
  address : Nat := 0
  id : UsecaseId
  type : UsecaseType
  streamOut : Option StreamOut := none
  inSndDevice : Option SndDevice := none
  deviceList : List UInt32 := []
  devices : UInt32 := 0
  owner : Owner := .audioHal
  deriving DecidableEq, Repr

/-- The list `usecase_list` of the audio device, whose nodes lie at different addresses. -/
@[ext] structure UsecaseList where
  usecases : List Usecase := []
  distinct : (usecases.map Usecase.address).Nodup := by exact List.nodup_nil

namespace UsecaseList

/-- An address at which no usecase of the list lies. -/
def fresh (l : UsecaseList) : Nat := (l.usecases.map Usecase.address).sum + 1

/-- No usecase of the list is at the fresh address. -/
theorem fresh_notMem (l : UsecaseList) : l.fresh ∉ l.usecases.map Usecase.address := by
  intro h
  have hle := List.le_sum_of_mem h
  rw [fresh] at hle
  omega

/-- `list_add_tail`, of a usecase at a fresh address. -/
def addTail (l : UsecaseList) (u : Usecase) : UsecaseList where
  usecases := l.usecases ++ [{ u with address := l.fresh }]
  distinct := by
    rw [List.map_append, List.nodup_append]
    refine ⟨l.distinct, List.nodup_singleton _, fun a ha b hb hab => l.fresh_notMem ?_⟩
    have hfresh : b = l.fresh := List.mem_singleton.mp hb
    rwa [← hfresh, ← hab]

/-- `list_remove`. -/
def remove (l : UsecaseList) (address : Nat) : UsecaseList where
  usecases := l.usecases.filter (·.address ≠ address)
  distinct := l.distinct.sublist (List.filter_sublist.map _)

/-- An assignment to `stream_config_changed` of the stream of a usecase. -/
def setStreamConfigChanged (l : UsecaseList) (address : Nat) (changed : Bool) :
    UsecaseList where
  usecases := l.usecases.map fun u =>
    if u.address = address then
      { u with streamOut := u.streamOut.map fun _ => { streamConfigChanged := changed } }
    else u
  distinct := by
    have haddress : ∀ u : Usecase, (if u.address = address then
        { u with streamOut := u.streamOut.map fun _ => { streamConfigChanged := changed } }
        else u).address = u.address := fun u => by split <;> rfl
    rw [List.map_map]
    simpa only [Function.comp_def, haddress] using l.distinct

/-- `get_usecase_from_list`. -/
def getUsecase (l : UsecaseList) (id : UsecaseId) : Option Usecase :=
  l.usecases.find? (·.id = id)

end UsecaseList

/-- The path of the headphones: their backend with its interface, and the mixer path. -/
structure HeadphonePath where
  backend : String
  interface : String
  mixerPath : String
  deriving DecidableEq, Repr

def defaultBackend : String := "headphones"
def defaultInterface : String := "SLIMBUS_6_RX"
def essBypassModeMixerPath : String := "ess-bypass-mode"

def hifiDacBackend : String := "TERT_MI2S_RX"
def hifiDacInterface : String := "TERT_MI2S_RX"
def essHifiModeMixerPath : String := "ess-hifi-mode"

def defaultPath : HeadphonePath := ⟨defaultBackend, defaultInterface, essBypassModeMixerPath⟩
def hifiPath : HeadphonePath := ⟨hifiDacBackend, hifiDacInterface, essHifiModeMixerPath⟩

structure PcmConfig where
  channels : Nat
  rate : Nat
  periodSize : Nat
  periodCount : Nat
  format : String
  startThreshold : Nat
  stopThreshold : Nat
  silenceThreshold : Nat
  deriving DecidableEq, Repr

def pcmConfigLgeAmplifier : PcmConfig where
  channels := 2
  rate := 48000
  periodSize := 256
  periodCount := 4
  format := "PCM_FORMAT_S16_LE"
  startThreshold := 0
  stopThreshold := 2147483647
  silenceThreshold := 0

/-- A call of the audio HAL or of the PCM library. -/
inductive Call
  | enableSndDevice (sndDevice : Option SndDevice)
  | disableSndDevice (sndDevice : Option SndDevice)
  | enableAudioRoute (usecase : Usecase)
  | disableAudioRoute (usecase : Usecase)
  | pcmOpen (pcmDevice : Int) (config : PcmConfig)
  | pcmStart
  | pcmClose
  | selectDevices (usecase : UsecaseId)
  deriving DecidableEq, Repr

/-! ## The module -/

structure Pcm where
  ready : Bool
  deriving DecidableEq, Repr

/-- `adev` says whether the pointer to the audio device is set. The usecase stays in
`usecaseTx` after it has been freed. -/
structure LgeAmplifierDevice where
  adev : Bool := false
  usecaseTx : Option Usecase := none
  pcmOut : Option Pcm := none
  hifiDacEnabled : Bool := false
  hifiDacConfigChanged : Bool := false
  deriving DecidableEq, Repr

/-- The pointer to the amplifier device that a call is given. -/
inductive DevicePtr
  | null
  | opened
  deriving DecidableEq, Repr

inductive Abi
  | ilp32
  | lp64
  deriving DecidableEq, Repr

def Abi.sizeofPointer : Abi → Nat
  | .ilp32 => 4
  | .lp64 => 8

structure Build where
  abi : Abi := .lp64
  targetLegacyUm : Bool := false

/-- A call of `set_output_devices` that returned 0, with the property and the path of the
headphones at that time. -/
structure Routing where
  devices : SndDevice
  property : String
  path : HeadphonePath
  deriving DecidableEq, Repr

/-- The module, the audio device, the property `persist.vendor.audio.hifi.enabled`, and
what has been called and routed so far, oldest first. -/
structure AudioState where
  lgeAmplifier : LgeAmplifierDevice := {}
  usecaseList : UsecaseList := {}
  hifiEnabled : String := ""
  headphones : HeadphonePath := defaultPath
  calls : List Call := []
  routings : List Routing := []

/-- A computation that throws where the process crashes. -/
abbrev AmpM := EStateM Unit AudioState

def einval : Int := 22
def enomem : Int := 12
def enodev : Int := 19
def eio : Int := 5

/-- `property_get_bool` of a property with this value. -/
def propertyGetBool (value : String) (default : Bool) : Bool :=
  if value ∈ ["0", "n", "no", "false", "off"] then false
  else if value ∈ ["1", "y", "yes", "true", "on"] then true
  else default

/-- `strncmp(value, text, n) == 0`. -/
def strncmpEq (value text : String) (n : Nat) : Bool := value.toList.take n == text.toList.take n

/-! ## Primitives -/

/-- Access to the audio device, through a pointer that may be null. -/
def derefAdev : AmpM PUnit := fun s =>
  if s.lgeAmplifier.adev then .ok ⟨⟩ s else .error () s

theorem ends_derefAdev {s : AudioState} {post : PUnit → AudioState → Prop}
    {stop : Unit → AudioState → Prop} :
    Ends derefAdev s post stop ↔ if s.lgeAmplifier.adev then post ⟨⟩ s else stop () s := by
  rw [Ends, derefAdev]
  cases s.lgeAmplifier.adev with
  | true => rfl
  | false => rfl

theorem ends_derefAdev_of {s : AudioState} {post : PUnit → AudioState → Prop}
    {stop : Unit → AudioState → Prop} (hpost : s.lgeAmplifier.adev = true → post ⟨⟩ s)
    (hstop : s.lgeAmplifier.adev = false → stop () s) : Ends derefAdev s post stop := by
  rw [ends_derefAdev]
  cases hadev : s.lgeAmplifier.adev with
  | true => exact hpost hadev
  | false => exact hstop hadev

def derefDevice (device : DevicePtr) : AmpM PUnit := fun s =>
  if device = .opened then .ok ⟨⟩ s else .error () s

def AudioState.logging (s : AudioState) (call : Call) : AudioState :=
  { s with calls := s.calls ++ [call] }

def calling (call : Call) : AmpM PUnit := modify fun s => s.logging call

def AudioState.withUsecases (s : AudioState) (usecases : UsecaseList) : AudioState :=
  { s with usecaseList := usecases }

def AudioState.withAmplifier (s : AudioState) (lgeAmplifier : LgeAmplifierDevice) :
    AudioState :=
  { s with lgeAmplifier := lgeAmplifier }

def listRemove (usecase : Usecase) : AmpM PUnit :=
  modify fun s => s.withUsecases (s.usecaseList.remove usecase.address)

/-! ## Speaker feedback -/

def isSpeaker : SndDevice → Bool
  | .outSpeaker => true
  | .outSpeakerReverse => true
  | .outSpeakerAndHeadphones => true
  | .outVoiceSpeaker => true
  | .outVoiceSpeaker2 => true
  | .outSpeakerAndHdmi => true
  | .outSpeakerAndUsbHeadset => true
  | .outSpeakerAndAncHeadset => true
  | _ => false

/-- What the calls of `start_feedback` answer. -/
structure StartAnswers where
  calloc : Bool := true
  platformGetPcmDeviceId : Int := 0
  pcmIsReady : Bool := true
  pcmStart : Int := 0
  deriving DecidableEq, Repr

def setUsecaseTx (usecase : Option Usecase) : AmpM PUnit :=
  modify fun s => s.withAmplifier { s.lgeAmplifier with usecaseTx := usecase }

def setPcmOut (pcm : Option Pcm) : AmpM PUnit :=
  modify fun s => s.withAmplifier { s.lgeAmplifier with pcmOut := pcm }

/-- `pcm_close` of `pcm_out` if there is one. -/
def closePcmOut : AmpM PUnit := do
  if (← get).lgeAmplifier.pcmOut.isSome then
    calling .pcmClose
    setPcmOut none

/-- From the label `error` on. -/
def startFeedbackError (usecase : Usecase) (rc : Int) : AmpM Int := do
  closePcmOut
  listRemove usecase
  calling (.disableSndDevice usecase.inSndDevice)
  calling (.disableAudioRoute usecase)
  return rc

/-- The usecase of the feedback, at the address that `calloc` gives. -/
def feedbackUsecase (address : Nat) : Usecase where
  address := address
  id := .audioSpkrCalibTx
  type := .pcmCapture
  inSndDevice := some .inCaptureViFeedback
  owner := .amplifier

/-- `start_feedback` from `platform_get_pcm_device_id` on. -/
def openFeedbackPcm (usecase : Usecase) (answers : StartAnswers) : AmpM Int := do
  if answers.platformGetPcmDeviceId < 0 then
    startFeedbackError usecase (-enodev)
  else
    calling (.pcmOpen answers.platformGetPcmDeviceId pcmConfigLgeAmplifier)
    setPcmOut (some { ready := answers.pcmIsReady })
    if answers.pcmIsReady = false then
      startFeedbackError usecase (-eio)
    else
      calling .pcmStart
      if answers.pcmStart < 0 then startFeedbackError usecase (-einval) else return 0

def startFeedback (device : DevicePtr) (sndDevice : SndDevice) (answers : StartAnswers) :
    AmpM Int := do
  if device = .null then return -einval
  if (← get).lgeAmplifier.pcmOut.isSome ∨ isSpeaker sndDevice = false then return 0
  if answers.calloc = false then
    setUsecaseTx none
    return -enomem
  let usecase := feedbackUsecase (← get).usecaseList.fresh
  setUsecaseTx (some usecase)
  derefAdev
  modify fun s => s.withUsecases (s.usecaseList.addTail usecase)
  calling (.enableSndDevice usecase.inSndDevice)
  calling (.enableAudioRoute usecase)
  openFeedbackPcm usecase answers

/-- What `stop_feedback` does with the usecase it finds. -/
def freeUsecase : Option Usecase → AmpM PUnit
  | none => return ⟨⟩
  | some usecase => do
      listRemove usecase
      calling (.disableAudioRoute usecase)

def stopFeedback (device : DevicePtr) (sndDevice : SndDevice) : AmpM PUnit := do
  if device = .null then return ⟨⟩
  if isSpeaker sndDevice = false then return ⟨⟩
  closePcmOut
  derefAdev
  calling (.disableSndDevice (some .inCaptureViFeedback))
  let usecase := (← get).usecaseList.getUsecase .audioSpkrCalibTx
  setUsecaseTx usecase
  freeUsecase usecase

/-- An assignment to `adev`. -/
def setAdev (adev : Bool) : AmpM PUnit :=
  modify fun s => s.withAmplifier { s.lgeAmplifier with adev := adev }

/-- What `start_feedback` returns does not count. -/
def setFeedback (device : DevicePtr) (adev : Bool) (devices : SndDevice) (enable : Bool)
    (answers : StartAnswers) : AmpM Int := do
  derefDevice device
  setAdev adev
  if enable then
    let _ ← startFeedback device devices answers
    return 0
  else
    stopFeedback device devices
    return 0

/-! ## The Hi-Fi DAC -/

/-- `platform_set_snd_device_backend` for the headphones. -/
def setHeadphonesBackend (backend interface : String) : AmpM PUnit :=
  modify fun s => { s with
    headphones := { s.headphones with backend := backend, interface := interface } }

def audioRouteApplyAndUpdatePath (mixerPath : String) : AmpM PUnit := do
  derefAdev
  modify fun s => { s with headphones := { s.headphones with mixerPath := mixerPath } }

def setHifiDacEnabled (enabled : Bool) : AmpM PUnit :=
  modify fun s => s.withAmplifier { s.lgeAmplifier with hifiDacEnabled := enabled }

def setHifiDacConfigChanged (changed : Bool) : AmpM PUnit :=
  modify fun s => s.withAmplifier { s.lgeAmplifier with hifiDacConfigChanged := changed }

/-- Both branches of `set_output_devices`, for their own path and flag. -/
def changePath (path : HeadphonePath) (enabled : Bool) : AmpM PUnit := do
  setHeadphonesBackend path.backend path.interface
  audioRouteApplyAndUpdatePath path.mixerPath
  setHifiDacEnabled enabled

def routeOutputDevices (device : DevicePtr) (devices : SndDevice) : AmpM Int := do
  let wantToEnableHifiDac := propertyGetBool (← get).hifiEnabled false
  if device = .null then return -einval
  if devices ≠ .outHeadphones then return 0
  let lgeAmplifier := (← get).lgeAmplifier
  if lgeAmplifier.hifiDacConfigChanged = false ∧
      wantToEnableHifiDac = lgeAmplifier.hifiDacEnabled then
    return 0
  if wantToEnableHifiDac then
    changePath hifiPath true
    return 0
  else
    changePath defaultPath false
    return 0

/-- A note of what a call that returned 0 left behind. -/
def noteRouting (devices : SndDevice) (rc : Int) : AmpM PUnit :=
  if rc = 0 then
    modify fun s => { s with routings := s.routings ++ [⟨devices, s.hifiEnabled, s.headphones⟩] }
  else return ⟨⟩

def setOutputDevices (device : DevicePtr) (devices : SndDevice) : AmpM Int := do
  let rc ← routeOutputDevices device devices
  noteRouting devices rc
  return rc

/-- What happens while `select_devices` runs: calls back into the module, and changes of
the property by others. -/
inductive Reentry
  | setOutputDevices (device : DevicePtr) (devices : SndDevice)
  | propertyChanged (value : String)
  deriving DecidableEq, Repr

def propertyChanged (value : String) : AmpM PUnit :=
  modify fun s => { s with hifiEnabled := value }

def reenter : List Reentry → AmpM PUnit
  | [] => return ⟨⟩
  | .setOutputDevices device devices :: rest => do
      let _ ← setOutputDevices device devices
      reenter rest
  | .propertyChanged value :: rest => do
      propertyChanged value
      reenter rest

def selectDevices (usecase : UsecaseId) (reentries : List Reentry) : AmpM PUnit := do
  calling (.selectDevices usecase)
  reenter reentries

/-- The keys with their values. -/
abbrev StrParms := List (String × String)

/-- `str_parms_get_str` into a buffer of a size, `none` where the key is missing. -/
def StrParms.getStr (parms : StrParms) (key : String) (size : Nat) : Option String :=
  (parms.lookup key).map fun value => String.ofList (value.toList.take (size - 1))

/-- How the allocations of `set_parameters` and its write of the property end, and what
happens while it selects devices. -/
structure ParametersAnswers where
  strParmsToStr : Bool := true
  calloc : Bool := true
  propertySet : Bool := true
  reentries : List Reentry := []
  deriving DecidableEq, Repr

/-- `AUDIO_DEVICE_OUT_WIRED_HEADPHONE`. -/
def audioDeviceOutWiredHeadphone : UInt32 := 8

/-- A playback on wired headphones. -/
def playsOnHeadphones (build : Build) (usecase : Usecase) : Bool :=
  usecase.streamOut.isSome && usecase.type = .pcmPlayback &&
    if build.targetLegacyUm then usecase.devices &&& audioDeviceOutWiredHeadphone != 0
    else usecase.deviceList.contains audioDeviceOutWiredHeadphone

/-- `property_set` of the property, which may fail. -/
def propertySet (ok : Bool) (value : String) : AmpM PUnit :=
  if ok then propertyChanged value else return ⟨⟩

def setStreamConfigChanged (usecase : Usecase) (changed : Bool) : AmpM PUnit :=
  modify fun s => s.withUsecases (s.usecaseList.setStreamConfigChanged usecase.address changed)

/-- The loop over the usecases, which ends at the first playback on headphones. -/
def switchPlayback (build : Build) (reentries : List Reentry) : AmpM PUnit := do
  match (← get).usecaseList.usecases.find? (playsOnHeadphones build) with
  | none => return ⟨⟩
  | some usecase =>
      setHifiDacConfigChanged true
      setStreamConfigChanged usecase true
      selectDevices usecase.id reentries
      setHifiDacConfigChanged false
      setStreamConfigChanged usecase false

/-- The branches on the value of `hifi_dac`. -/
def setHifiDac (build : Build) (value : String) (answers : ParametersAnswers) : AmpM Int := do
  let enabled := (← get).lgeAmplifier.hifiDacEnabled
  if strncmpEq value "on" 2 then
    if enabled then return -einval
    propertySet answers.propertySet "true"
    switchPlayback build answers.reentries
    return 0
  else if strncmpEq value "off" 3 then
    if enabled = false then return -einval
    propertySet answers.propertySet "false"
    switchPlayback build answers.reentries
    return 0
  else return -einval

def setParameters (build : Build) (device : DevicePtr) (parms : StrParms)
    (answers : ParametersAnswers) : AmpM Int := do
  if device = .null then return -enomem
  if (← get).lgeAmplifier.adev = false then return -enomem
  if answers.strParmsToStr = false then return -enomem
  if answers.calloc = false then return -enomem
  match StrParms.getStr parms "hifi_dac" build.abi.sizeofPointer with
  | none => return 0
  | some value => setHifiDac build value answers

/-! ## Opening and calibrating -/

def calibrate (device : DevicePtr) (adev : Bool) : AmpM Int := do
  if adev = false then return -enomem
  derefDevice device
  setAdev true
  return 0

/-- The new device, or the code that the call returns. -/
def moduleOpen (amplifierHardwareInterface name : String) (calloc : Bool) :
    Except Int LgeAmplifierDevice :=
  if name ≠ amplifierHardwareInterface then .error (-enodev)
  else if calloc = false then .error (-enomem)
  else .ok { hifiDacEnabled := false, hifiDacConfigChanged := false }

/-- Every device that is opened starts the same. -/
theorem moduleOpen_eq_ok {interface name : String} {calloc : Bool} {d : LgeAmplifierDevice}
    (hopen : moduleOpen interface name calloc = .ok d) : d = {} := by
  rw [moduleOpen] at hopen
  split at hopen
  · cases hopen
  · split at hopen
    · cases hopen
    · cases hopen
      rfl

/-! ## Runs -/

/-- A call of the module, or something that others do in between. -/
inductive Op
  | setOutputDevices (device : DevicePtr) (devices : SndDevice)
  | setParameters (device : DevicePtr) (parms : StrParms) (answers : ParametersAnswers)
  | setFeedback (device : DevicePtr) (adev : Bool) (devices : SndDevice) (enable : Bool)
    (answers : StartAnswers)
  | calibrate (device : DevicePtr) (adev : Bool)
  | propertyChanged (value : String)
  | startUsecase (usecase : Usecase)
  | stopUsecase (address : Nat)
  deriving DecidableEq, Repr

/-- The audio HAL puts a usecase of its own into the list. -/
def startUsecase (usecase : Usecase) : AmpM PUnit :=
  modify fun s => s.withUsecases (s.usecaseList.addTail { usecase with owner := .audioHal })

/-- The audio HAL takes a usecase of its own from the list. -/
def stopUsecase (address : Nat) : AmpM PUnit := do
  if (← get).usecaseList.usecases.any
      fun u => u.address = address && u.owner = .audioHal then
    modify fun s => s.withUsecases (s.usecaseList.remove address)

/-- The code that the call returns, 0 for what is no call of the module. -/
def Op.call (build : Build) : Op → AmpM Int
  | .setOutputDevices device devices => Amplifier.setOutputDevices device devices
  | .setParameters device parms answers => Amplifier.setParameters build device parms answers
  | .setFeedback device adev devices enable answers =>
      Amplifier.setFeedback device adev devices enable answers
  | .calibrate device adev => Amplifier.calibrate device adev
  | .propertyChanged value => do
      Amplifier.propertyChanged value
      return 0
  | .startUsecase usecase => do
      Amplifier.startUsecase usecase
      return 0
  | .stopUsecase address => do
      Amplifier.stopUsecase address
      return 0

/-- The state after an operation. -/
def step (build : Build) (s : AudioState) (op : Op) : AudioState := final (op.call build) s

/-- The operation does not crash the process. -/
def Returns (build : Build) (s : AudioState) (op : Op) : Prop := stops (op.call build) s = false

instance (build : Build) (s : AudioState) (op : Op) : Decidable (Returns build s op) :=
  inferInstanceAs (Decidable (_ = _))

/-- A device just opened, on a phone with this value of the property. -/
def opened (device : LgeAmplifierDevice) (hifiEnabled : String) : AudioState where
  lgeAmplifier := device
  hifiEnabled := hifiEnabled

end LgeHardware.Amplifier
