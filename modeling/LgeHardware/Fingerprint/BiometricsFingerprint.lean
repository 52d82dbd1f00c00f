import LgeHardware.Foundation.Run

/-! # The fingerprint service

`BiometricsFingerprint` with an under-display sensor: a finger on the sensor starts a scan
and switches the panel to high brightness, and the finger's leaving, a cancel or a message
of the HAL ends both. The flag that says whether a scan runs is tested and set under
`mSetHbmFodMutex`, and two of the calls test it beforehand without the mutex.
-/

namespace LgeHardware.Fingerprint

open LgeHardware.Foundation

/-! ## Codes -/

inductive RequestStatus
  | sysUnknown | sysOk | sysEnoent | sysEintr | sysEio | sysEagain | sysEnomem | sysEacces
  | sysEfault | sysEbusy | sysEinval | sysEnospc | sysEtimedout
  deriving DecidableEq, Repr

/-- `ErrorFilter`. -/
def errorFilter (error : Int) : RequestStatus :=
  match error with
  | 0 => .sysOk
  | -2 => .sysEnoent
  | -4 => .sysEintr
  | -5 => .sysEio
  | -11 => .sysEagain
  | -12 => .sysEnomem
  | -13 => .sysEacces
  | -14 => .sysEfault
  | -16 => .sysEbusy
  | -22 => .sysEinval
  | -28 => .sysEnospc
  | -110 => .sysEtimedout
  | _ => .sysUnknown

inductive FingerprintError
  | errorHwUnavailable | errorUnableToProcess | errorTimeout | errorNoSpace | errorCanceled
  | errorUnableToRemove | errorLockout | errorVendor
  deriving DecidableEq, Repr

/-- `FINGERPRINT_ERROR_VENDOR_BASE`, and `FINGERPRINT_ACQUIRED_VENDOR_BASE`. -/
def vendorBase : Int := 1000

/-- `VendorErrorFilter`, with the vendor code. -/
def vendorErrorFilter (error : Int) : FingerprintError × Int :=
  match error with
  | 1 => (.errorHwUnavailable, 0)
  | 2 => (.errorUnableToProcess, 0)
  | 3 => (.errorTimeout, 0)
  | 4 => (.errorNoSpace, 0)
  | 5 => (.errorCanceled, 0)
  | 6 => (.errorUnableToRemove, 0)
  | 7 => (.errorLockout, 0)
  | _ =>
      if vendorBase ≤ error then (.errorVendor, error - vendorBase)
      else (.errorUnableToProcess, 0)

inductive FingerprintAcquiredInfo
  | acquiredGood | acquiredPartial | acquiredInsufficient | acquiredImagerDirty
  | acquiredTooSlow | acquiredTooFast | acquiredVendor
  deriving DecidableEq, Repr

/-- `VendorAcquiredFilter`, with the vendor code. -/
def vendorAcquiredFilter (info : Int) : FingerprintAcquiredInfo × Int :=
  match info with
  | 0 => (.acquiredGood, 0)
  | 1 => (.acquiredPartial, 0)
  | 2 => (.acquiredInsufficient, 0)
  | 3 => (.acquiredImagerDirty, 0)
  | 4 => (.acquiredTooSlow, 0)
  | 5 => (.acquiredTooFast, 0)
  | _ =>
      if vendorBase ≤ info then (.acquiredVendor, info - vendorBase)
      else (.acquiredInsufficient, 0)

/-! ## Messages and effects -/

/-- `fingerprint_msg_t`, by its type. -/
inductive FingerprintMsg
  | error (code : Int)
  | acquired (info : Int)
  | templateEnrolling (fid gid samplesRemaining : Nat)
  | templateRemoved (fid gid remainingTemplates : Nat)
  | authenticated (fid gid : Nat) (hat : List UInt8)
  | templateEnumerating (fid gid remainingTemplates : Nat)
  | unknown (type : Int)
  deriving DecidableEq, Repr

/-- A call of the client callback. -/
inductive ClientCall
  | onError (error : FingerprintError) (vendorCode : Int)
  | onAcquired (acquiredInfo : FingerprintAcquiredInfo) (vendorCode : Int)
  | onEnrollResult (fid gid remaining : Nat)
  | onRemoved (fid gid remaining : Nat)
  | onAuthenticated (fid gid : Nat) (token : List UInt8)
  | onEnumerate (fid gid remaining : Nat)
  deriving DecidableEq, Repr

/-- What `notify` tells the client. -/
def FingerprintMsg.clientCall : FingerprintMsg → Option ClientCall
  | .error code =>
      let (result, vendorCode) := vendorErrorFilter code
      some (.onError result vendorCode)
  | .acquired info =>
      let (result, vendorCode) := vendorAcquiredFilter info
      some (.onAcquired result vendorCode)
  | .templateEnrolling fid gid remaining => some (.onEnrollResult fid gid remaining)
  | .templateRemoved fid gid remaining => some (.onRemoved fid gid remaining)
  | .authenticated fid gid hat => some (.onAuthenticated fid gid (if fid ≠ 0 then hat else []))
  | .templateEnumerating fid gid remaining => some (.onEnumerate fid gid remaining)
  | .unknown _ => none

/-- `fingerprint_lge_extra_cmd_t`, as far as the service uses it. -/
inductive ScanCmd
  | scanStart
  | scanStop
  deriving DecidableEq, Repr

inductive FingerprintEvent
  | doExtraApiIn (cmd : ScanCmd) (param : Nat)
  | writeFile (path content : String)
  | cancelDevice
  | returnStatus (status : RequestStatus)
  | client (call : ClientCall)
  deriving DecidableEq, Repr

def fodHbmLegacyPath : String := "/sys/devices/virtual/panel/brightness/fp_lhbm"
def fodHbmPath : String := "/sys/devices/virtual/panel/panel-0/brightness/fp_lhbm"
def lgeTouchResetPath : String := "/sys/devices/virtual/input/lge_touch/reset_ctrl"

/-- The panel, which has its high brightness file at one of two places or at both. A write
to such a file switches the high brightness mode. -/
structure Panel where
  legacy : Bool
  current : Bool
  present : legacy || current
  hbm : Bool
  deriving DecidableEq, Repr

namespace Panel

/-- The file exists and is one of the panel's. -/
def HasNode (panel : Panel) (path : String) : Prop :=
  path = fodHbmLegacyPath ∧ panel.legacy = true ∨ path = fodHbmPath ∧ panel.current = true

instance (panel : Panel) (path : String) : Decidable (panel.HasNode path) :=
  inferInstanceAs (Decidable (_ ∨ _))

def write (panel : Panel) (path content : String) : Panel :=
  if panel.HasNode path then { panel with hbm := content = "1" } else panel

end Panel

/-- A call that has found `hbmFodEnabled` set and is about to call `onFingerUp`. -/
inductive PendingCall
  | cancel (ret : Int)
  | notify
  deriving DecidableEq, Repr

/-- The service with a device, the panel it writes to and the calls in progress. -/
structure BiometricsFingerprint where
  hbmFodEnabled : Bool
  mHbmPath : String
  mClientCallback : Bool := false
  panel : Panel
  pending : List PendingCall := []
  log : List FingerprintEvent := []
  deriving DecidableEq, Repr

namespace BiometricsFingerprint

/-- The constructor, with a HAL that opens. It does not set `hbmFodEnabled`, which starts
with what the memory holds. -/
def construct (hbmFodEnabled : Bool) (panel : Panel) : BiometricsFingerprint :=
  { hbmFodEnabled
    mHbmPath :=
      if panel.legacy then fodHbmLegacyPath
      else if panel.current then fodHbmPath
      else "/dev/null"
    panel }

def emit (s : BiometricsFingerprint) (event : FingerprintEvent) : BiometricsFingerprint :=
  { s with log := s.log ++ [event] }

def writeStringToFile (s : BiometricsFingerprint) (content path : String) :
    BiometricsFingerprint :=
  { s.emit (.writeFile path content) with panel := s.panel.write path content }

def setFodHbm (s : BiometricsFingerprint) (status : Bool) : BiometricsFingerprint :=
  s.writeStringToFile (if status then "1" else "0") s.mHbmPath

def resetLgeTouchPanel (s : BiometricsFingerprint) : BiometricsFingerprint :=
  s.writeStringToFile "4" lgeTouchResetPath

def disableHighBrightFod (s : BiometricsFingerprint) : BiometricsFingerprint :=
  if !s.hbmFodEnabled then s
  else
    let s := s.emit (.doExtraApiIn .scanStop 0)
    let s := s.setFodHbm false
    let s := s.resetLgeTouchPanel
    { s with hbmFodEnabled := false }

def enableHighBrightFod (s : BiometricsFingerprint) : BiometricsFingerprint :=
  if s.hbmFodEnabled then s
  else
    let s := s.emit (.doExtraApiIn .scanStart 0)
    let s := s.setFodHbm true
    { s with hbmFodEnabled := true }

def onFingerDown (s : BiometricsFingerprint) : BiometricsFingerprint := s.enableHighBrightFod

def onFingerUp (s : BiometricsFingerprint) : BiometricsFingerprint := s.disableHighBrightFod

/-- The end of `cancel`, with what the device returns. -/
def cancelDevice (s : BiometricsFingerprint) (ret : Int) : BiometricsFingerprint :=
  (s.emit .cancelDevice).emit (.returnStatus (errorFilter ret))

/-- `cancel` up to its call of `onFingerUp`, or to its end where there is none. -/
def cancel (s : BiometricsFingerprint) (ret : Int) : BiometricsFingerprint :=
  if s.hbmFodEnabled then { s with pending := s.pending ++ [.cancel ret] } else s.cancelDevice ret

/-- `notify` up to its call of `onFingerUp`, or to its end where there is none. It holds
`mClientCallbackMutex` all the time. -/
def notify (s : BiometricsFingerprint) (msg : FingerprintMsg) : BiometricsFingerprint :=
  if !s.mClientCallback then s
  else
    let s := { s with log := s.log ++ msg.clientCall.toList.map FingerprintEvent.client }
    if s.hbmFodEnabled then { s with pending := s.pending ++ [PendingCall.notify] } else s

/-- The rest of a call from `onFingerUp` on. -/
def proceed (s : BiometricsFingerprint) : PendingCall → BiometricsFingerprint
  | .cancel ret => s.onFingerUp.cancelDevice ret
  | .notify => s.onFingerUp

inductive FingerprintOp
  | setNotify (clientCallback : Bool)
  | onFingerDown
  | onFingerUp
  | cancel (ret : Int)
  | notify (msg : FingerprintMsg)
  | proceed (i : Nat)
  deriving DecidableEq, Repr

/-- A step, or nothing where it is not possible: no `notify` and no `setNotify` while
another call holds `mClientCallbackMutex`. -/
def next (s : BiometricsFingerprint) : FingerprintOp → BiometricsFingerprint
  | .setNotify clientCallback =>
      if PendingCall.notify ∈ s.pending then s else { s with mClientCallback := clientCallback }
  | .onFingerDown => s.onFingerDown
  | .onFingerUp => s.onFingerUp
  | .cancel ret => s.cancel ret
  | .notify msg => if PendingCall.notify ∈ s.pending then s else s.notify msg
  | .proceed i =>
      match s.pending[i]? with
      | none => s
      | some call => { s with pending := s.pending.eraseIdx i }.proceed call

/-- The scan commands that the device was given. -/
def scans (s : BiometricsFingerprint) : List ScanCmd :=
  s.log.filterMap fun
    | .doExtraApiIn cmd _ => some cmd
    | _ => none

end BiometricsFingerprint

end LgeHardware.Fingerprint
