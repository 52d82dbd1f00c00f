import LgeHardware.Foundation.Decimal
import LgeHardware.Camera.SessionCalls

/-! # The camera device

The framework opens a camera through a `CameraDevice`. The object points weakly to the
session it opened last, and opens another one only when that session is closed or gone.
-/

namespace LgeHardware.Camera

open LgeHardware.Foundation

/-- `atoi`, which reads a text without a number as zero. -/
def atoi (s : String) : Int32 := Int32.ofInt ((leadingInt s.toList).getD 0)

/-- The answers of the environment to `open`: what the module returns from `open` and from
`getCameraInfo`, the device it opens, whether `createSession` makes a session at all, and what
the constructor of the session gets. -/
structure OpenWorld where
  openHal : Int := statusOk
  device : DeviceInfo
  getCameraInfo : Int := statusOk
  createSession : Bool := true
  session : SessionWorld := {}

/-- A session, and the camera it was opened for. -/
structure OpenedSession where
  cameraId : String
  state : SessionState

/-- `mSession` is the number of the session that the pointer was set to, among the sessions
of the process. -/
structure CameraDevice where
  mCameraId : String
  mInitFail : Bool := false
  mDisconnected : Bool := false
  mSession : Option Nat := none
  deriving DecidableEq, Repr

/-- How `open` ends: its status, what it did itself to the device that the module opened, if
the module did, and the session it made, which is destroyed at once where it failed. -/
structure OpenResult where
  status : Status
  handle : Option (List SessionEvent) := none
  session : Option SessionState := none

namespace SessionState

def disconnect (s : SessionState) : SessionState :=
  s.after s.session.disconnect.1 s.session.disconnect.2

def destroy (s : SessionState) : SessionState :=
  { s.after s.session.destroy.1 s.session.destroy.2 with stage := .destroyed }

end SessionState

namespace CameraDevice

/-- The constructor. `getDeviceVersion` is what the module says of an id. -/
def construct (getDeviceVersion : Int32 → Int) (cameraId : String) : CameraDevice :=
  let mCameraIdInt := atoi cameraId
  { mCameraId := cameraId
    mInitFail := mCameraIdInt < 0 || getDeviceVersion mCameraIdInt < cameraDeviceApiVersion32 }

def initStatus (d : CameraDevice) : Status :=
  if d.mInitFail then .internalError
  else if d.mDisconnected then .cameraDisconnected
  else .ok

/-- `getAidlStatus`, by the error numbers of Linux. -/
def getAidlStatus (status : Int) : Status :=
  match status with
  | 0 => .ok
  | -38 => .operationNotSupported
  | -16 => .cameraInUse
  | -87 => .maxCamerasInUse
  | -19 => .internalError
  | -22 => .illegalArgument
  | _ => .internalError

/-- `mSession.lock()`, the number of the session if it is still there. -/
def lockSession (d : CameraDevice) (sessions : List OpenedSession) : Option Nat :=
  d.mSession.filter fun n => sessions[n]?.any (·.state.stage = .live)

/-- The device points to a session that is not closed. -/
def InUse (d : CameraDevice) (sessions : List OpenedSession) : Prop :=
  ∃ n ∈ d.lockSession sessions, ∃ o ∈ sessions[n]?, o.state.session.mClosed = false

instance (d : CameraDevice) (sessions : List OpenedSession) : Decidable (d.InUse sessions) :=
  inferInstanceAs (Decidable (∃ n ∈ d.lockSession sessions, ∃ o ∈ sessions[n]?, _))

/-- `open`, once the module has opened a device. -/
def startSession (world : OpenWorld) : OpenResult :=
  if world.device.deviceVersion < cameraDeviceApiVersion32 then
    { status := .illegalArgument, handle := some [.closeDevice] }
  else if world.getCameraInfo ≠ statusOk then
    { status := .illegalArgument, handle := some [.closeDevice] }
  else if !world.createSession then { status := .internalError, handle := some [] }
  else
    let session := SessionState.constructed world.device world.session
    if session.session.mInitFail then
      { status := .internalError, handle := some [], session := some session.destroy }
    else { status := .ok, handle := some [], session := some session }

/-- `open`. `callback` says whether there is one. -/
def openSession (d : CameraDevice) (sessions : List OpenedSession) (callback : Bool)
    (world : OpenWorld) : OpenResult :=
  if !callback then { status := .illegalArgument }
  else if d.initStatus ≠ .ok then { status := .cameraDisconnected }
  else if d.InUse sessions then { status := .cameraInUse }
  else if world.openHal ≠ statusOk then { status := getAidlStatus world.openHal }
  else startSession world

/-- `setConnectionStatus`, with the sessions after it. No code calls it. -/
def setConnectionStatus (d : CameraDevice) (sessions : List OpenedSession) (connected : Bool) :
    CameraDevice × List OpenedSession :=
  let d := { d with mDisconnected := !connected }
  match d.lockSession sessions with
  | none => (d, sessions)
  | some n =>
      if connected then (d, sessions)
      else (d, sessions.modify n fun o => { o with state := o.state.disconnect })

/-! ## What `open` returns -/

theorem getAidlStatus_ne_disconnected (status : Int) :
    getAidlStatus status ≠ .cameraDisconnected := by
  unfold getAidlStatus
  split <;> nofun

theorem startSession_status (world : OpenWorld) :
    (startSession world).status ∈ [Status.ok, .illegalArgument, .internalError] := by
  rw [startSession]
  split
  · decide
  · split
    · decide
    · split
      · decide
      · dsimp only
        split <;> simp

theorem startSession_ne {world : OpenWorld} {status : Status}
    (h : status ∉ [Status.ok, .illegalArgument, .internalError]) :
    (startSession world).status ≠ status := by
  intro hstatus
  exact h (hstatus ▸ startSession_status world)

theorem startSession_ne_inUse (world : OpenWorld) :
    (startSession world).status ≠ .cameraInUse := startSession_ne (by decide)

/-- A device that is not disconnected is in use exactly if its own session is open. -/
theorem openSession_cameraInUse_iff {d : CameraDevice} (hstatus : d.initStatus = .ok)
    (sessions : List OpenedSession) (callback : Bool) {world : OpenWorld}
    (hhal : world.openHal = statusOk) :
    (d.openSession sessions callback world).status = .cameraInUse ↔
      callback = true ∧ d.InUse sessions := by
  rw [openSession, if_neg (not_not_intro hstatus), if_neg (not_not_intro hhal)]
  cases callback with
  | false => exact iff_of_false nofun (fun h => Bool.false_ne_true h.1)
  | true =>
      by_cases hinUse : d.InUse sessions
      · simp [hinUse]
      · simp [hinUse, startSession_ne_inUse world]

/-- Only a device that was told so is disconnected. -/
theorem openSession_ne_disconnected {d : CameraDevice} (hstatus : d.initStatus = .ok)
    (sessions : List OpenedSession) (callback : Bool) (world : OpenWorld) :
    (d.openSession sessions callback world).status ≠ .cameraDisconnected := by
  rw [openSession, if_neg (not_not_intro hstatus)]
  split
  · nofun
  · split
    · nofun
    · split
      · exact getAidlStatus_ne_disconnected _
      · exact startSession_ne (by decide)

/-- An open ends before the module is asked, or starts a session. -/
theorem openSession_cases (d : CameraDevice) (sessions : List OpenedSession) (callback : Bool)
    (world : OpenWorld) :
    ((d.openSession sessions callback world).handle = none ∧
        (d.openSession sessions callback world).session = none) ∨
      d.openSession sessions callback world = startSession world := by
  rw [openSession]
  split
  · exact .inl ⟨rfl, rfl⟩
  · split
    · exact .inl ⟨rfl, rfl⟩
    · split
      · exact .inl ⟨rfl, rfl⟩
      · split
        · exact .inl ⟨rfl, rfl⟩
        · exact .inr rfl

end CameraDevice

namespace SessionState

/-- The session was not disconnected, and if it is there, it came up. -/
structure Attached (s : SessionState) : Prop where
  disconnected : s.session.mDisconnected = false
  initFail : s.stage = .live → s.session.mInitFail = false

theorem Attached.initStatus {s : SessionState} (h : s.Attached) (hopen : s.Open) :
    s.session.initStatus = .ok := by
  rw [Session.initStatus, h.initFail hopen.1, h.disconnected, hopen.2]
  rfl

theorem disconnected_constructed (device : DeviceInfo) (world : SessionWorld) :
    (constructed device world).session.mDisconnected = false := by
  simp only [constructed, Session.construct, Session.initializeSession]
  split
  · rfl
  · split <;> rfl

/-- No call but `disconnect` takes the camera away from the session. -/
theorem Attached.next {s : SessionState} (h : s.Attached) (lib : MetadataLib) {op : SessionOp}
    (hop : op ≠ .disconnect) : (s.next lib op).Attached := by
  obtain ⟨events, -, hcall⟩ := s.next_call lib op
  have hages := hcall.ages hop
  refine ⟨hages.disconnected.trans h.disconnected, fun hlive => hages.initFail.trans ?_⟩
  apply h.initFail
  by_contra hgone
  rw [SessionState.next, if_neg hgone] at hlive
  exact hgone hlive

end SessionState

/-- A device that is told so closes its session, which answers that the camera is gone, and
opens no other. -/
theorem CameraDevice.setConnectionStatus_disconnects {d : CameraDevice}
    {sessions : List OpenedSession} {number : Nat} {o : OpenedSession}
    (hlock : d.lockSession sessions = some number) (ho : sessions[number]? = some o)
    (hinit : o.state.session.mInitFail = false) :
    let result := d.setConnectionStatus sessions false
    (∃ o' ∈ result.2[number]?, o'.state.session.mClosed = true ∧
      o'.state.session.initStatus = .cameraDisconnected) ∧
    ∀ world, (result.1.openSession result.2 true world).status = .cameraDisconnected := by
  have hresult : d.setConnectionStatus sessions false = ({ d with mDisconnected := true },
      sessions.modify number fun o => { o with state := o.state.disconnect }) := by
    have hsame : ({ d with mDisconnected := true } : CameraDevice).lockSession sessions =
        some number := hlock
    simp only [setConnectionStatus, Bool.not_false, hsame]
    rfl
  rw [hresult]
  constructor
  · refine ⟨{ o with state := o.state.disconnect }, ?_, rfl, ?_⟩
    · rw [Option.mem_def, List.getElem?_modify, ho, Option.map_eq_map, Option.map_some,
        if_pos rfl]
    · change Session.initStatus { o.state.session with mDisconnected := true, mClosed := true } = _
      rw [Session.initStatus, hinit]
      rfl
  · intro world
    have hstatus : ({ d with mDisconnected := true } : CameraDevice).initStatus ≠ .ok := by
      rw [initStatus]
      split <;> simp
    have hcallback : (!true) ≠ true := Bool.false_ne_true
    rw [openSession, if_neg hcallback, if_pos hstatus]

/-- A session that `open` makes is attached, and open only where the client gets it. -/
theorem CameraDevice.startSession_session {world : OpenWorld} {s : SessionState}
    (h : (startSession world).session = some s) :
    s.Attached ∧ (s.Open → (startSession world).status = .ok) := by
  have hconnected := SessionState.disconnected_constructed world.device world.session
  rw [startSession] at h ⊢
  split at h
  next => cases h
  next hversion =>
    split at h
    next => cases h
    next hinfo =>
      split at h
      next => cases h
      next hcreate =>
        rw [if_neg hversion, if_neg hinfo, if_neg hcreate]
        dsimp only at h ⊢
        split at h
        next =>
          cases h
          refine ⟨⟨?_, nofun⟩, nofun⟩
          rw [SessionState.destroy, SessionState.after, Session.destroy]
          dsimp only
          split
          next => exact hconnected
          next => exact (Session.close_ages _).disconnected.trans hconnected
        next hok =>
          cases h
          rw [if_neg hok]
          exact ⟨⟨hconnected, fun _ => eq_false_of_ne_true hok⟩, fun _ => rfl⟩

end LgeHardware.Camera
