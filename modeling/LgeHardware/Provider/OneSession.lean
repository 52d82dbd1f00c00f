import LgeHardware.Foundation.Run
import LgeHardware.Provider.Service

/-! # One open session for each camera

`open` refuses a second session on the device object that has the first one. The
framework can ask for another object of the same camera, which knows nothing of it.
-/

namespace LgeHardware.Provider

open LgeHardware.Foundation LgeHardware.Camera

/-- The module opens the camera whenever it is asked to. -/
def ServiceOp.HalOpens : ServiceOp → Prop
  | .openSession _ _ world => world.openHal = statusOk
  | _ => True

namespace ServiceState

/-- The session of this number is open, on this camera. -/
def OpenOn (s : ServiceState) (cameraId : String) (number : Nat) : Prop :=
  ∃ o ∈ s.sessions[number]?, o.cameraId = cameraId ∧ o.state.Open

/-- Some session is open on this camera. -/
def CameraOpen (s : ServiceState) (cameraId : String) : Prop :=
  ∃ o ∈ s.sessions, o.cameraId = cameraId ∧ o.state.Open

instance (s : ServiceState) (cameraId : String) : Decidable (s.CameraOpen cameraId) :=
  inferInstanceAs (Decidable (∃ o ∈ s.sessions, _))

instance (s : ServiceState) (cameraId : String) (number : Nat) :
    Decidable (s.OpenOn cameraId number) :=
  inferInstanceAs (Decidable (∃ o ∈ s.sessions[number]?, _))

/-- No camera has two open sessions. -/
def AtMostOneOpen (s : ServiceState) : Prop :=
  ∀ cameraId first second, s.OpenOn cameraId first → s.OpenOn cameraId second → first = second

/-- An open of a camera that has an open session returns `CAMERA_IN_USE`. -/
def Excludes (s : ServiceState) : ServiceOp → Prop
  | .openSession device callback world => ¬s.Aborted → ∀ d ∈ s.devices[device]?,
      s.CameraOpen d.mCameraId →
        (d.openSession s.sessions callback world).status = .cameraInUse
  | _ => True

/-- A camera that has an open session is opened, with a callback, on the device object that
this session was opened on. -/
def OpensOwn (s : ServiceState) : ServiceOp → Prop
  | .openSession device callback _ => ¬s.Aborted → ∀ d ∈ s.devices[device]?,
      s.CameraOpen d.mCameraId → callback = true ∧ d.InUse s.sessions
  | _ => True

instance (s : ServiceState) (op : ServiceOp) : Decidable (s.OpensOwn op) :=
  match op with
  | .openSession device _ _ =>
      inferInstanceAs (Decidable (¬s.Aborted → ∀ d ∈ s.devices[device]?, _ → _))
  | .provider _ | .getCameraDeviceInterface .. | .session .. => isTrue trivial

section

variable {lib : MetadataLib} {world : ProviderWorld} {s s' : ServiceState}

theorem OpenOn.cameraOpen {cameraId : String} {number : Nat} (h : s.OpenOn cameraId number) :
    s.CameraOpen cameraId := by
  obtain ⟨o, ho, hcamera, hopen⟩ := h
  exact ⟨o, List.mem_of_getElem? ho, hcamera, hopen⟩

/-- An open of a camera in use is refused as such exactly if it is made, with a callback, on the
device object of the open session. -/
theorem excludes_iff (h : s.Inv) {op : ServiceOp} (hop : op.HalOpens) :
    s.Excludes op ↔ s.OpensOwn op := by
  cases op with
  | provider | getCameraDeviceInterface | session => exact Iff.rfl
  | openSession device callback world =>
      refine forall_congr' fun _ => forall₂_congr fun d hd => forall_congr' fun _ => ?_
      have hconnected := h.connected d (List.mem_of_getElem? hd)
      exact CameraDevice.openSession_cameraInUse_iff hconnected s.sessions callback hop

/-- A new session is the only one that can be open where there was none before. -/
theorem openOn_openSession {device : Nat} {callback : Bool} {world : OpenWorld}
    (halive : ¬s.Aborted) (hop : s.Excludes (.openSession device callback world))
    {cameraId : String} {number : Nat}
    (hopened : (s.openSession device callback world).OpenOn cameraId number) :
    s.OpenOn cameraId number ∨ number = s.sessions.length ∧ ¬s.CameraOpen cameraId := by
  rw [openSession] at hopened
  cases hdevice : s.devices[device]? with
  | none =>
      rw [hdevice] at hopened
      exact .inl hopened
  | some d =>
      rw [hdevice] at hopened
      obtain ⟨o, ho, rfl, hopen⟩ := hopened
      rcases Nat.lt_or_ge number s.sessions.length with hold | hnew
      · rw [Option.mem_def, List.getElem?_append_left hold] at ho
        exact .inl ⟨o, ho, rfl, hopen⟩
      · rw [Option.mem_def, List.getElem?_append_right hnew] at ho
        cases hsession : (d.openSession s.sessions callback world).session with
        | none =>
            rw [hsession] at ho
            cases ho
        | some state =>
            rw [hsession, Option.toList_some, List.map_singleton, List.getElem?_singleton] at ho
            split at ho
            next hlast =>
              cases ho
              refine .inr ⟨Nat.le_antisymm (Nat.le_of_sub_eq_zero hlast) hnew, fun hcamera => ?_⟩
              -- a session is made only where `open` got past the check
              have hinUse := hop halive d hdevice hcamera
              rcases d.openSession_cases s.sessions callback world with ⟨-, hnone⟩ | hstarted
              · rw [hnone] at hsession
                cases hsession
              · rw [hstarted] at hinUse
                exact CameraDevice.startSession_ne_inUse world hinUse
            next => cases ho

/-- No other step opens a session. -/
theorem openOn_next {op : ServiceOp} (halive : ¬s.Aborted) (hop : s.Excludes op)
    {cameraId : String} {number : Nat} (hopened : (s.next lib world op).OpenOn cameraId number) :
    s.OpenOn cameraId number ∨ number = s.sessions.length ∧ ¬s.CameraOpen cameraId := by
  rw [next.eq_def, if_neg halive] at hopened
  cases op with
  | provider op => exact .inl hopened
  | getCameraDeviceInterface getDeviceVersion cameraDeviceName =>
      left
      dsimp only at hopened
      rcases s.getCameraDeviceInterface_cases getDeviceVersion cameraDeviceName
        with hsame | haborted | ⟨-, _, hnew⟩
      · rwa [hsame] at hopened
      · rwa [haborted] at hopened
      · rwa [hnew] at hopened
  | openSession device callback openWorld => exact openOn_openSession halive hop hopened
  | session sessionNumber op =>
      left
      obtain ⟨o, ho, rfl, hopen⟩ := hopened
      dsimp only at ho
      rw [Option.mem_def, List.getElem?_modify] at ho
      obtain ⟨old, hold, rfl⟩ := Option.map_eq_some_iff.mp ho
      split at hopen
      · rw [if_pos ‹_›]
        exact ⟨old, hold, rfl, hopen.of_next op.2⟩
      · rw [if_neg ‹_›]
        exact ⟨old, hold, rfl, hopen⟩

/-- A step that refuses a second open leaves every camera with one open session at most. -/
theorem AtMostOneOpen.next (h : s.AtMostOneOpen) {op : ServiceOp} (hop : s.Excludes op) :
    (s.next lib world op).AtMostOneOpen := by
  by_cases halive : s.Aborted
  · rw [ServiceState.next.eq_def, if_pos halive]
    exact h
  · intro cameraId first second hfirst hsecond
    rcases openOn_next halive hop hfirst with holdFirst | ⟨rfl, hclosed⟩
    · rcases openOn_next halive hop hsecond with holdSecond | ⟨-, hclosed⟩
      · exact h cameraId first second holdFirst holdSecond
      · exact absurd holdFirst.cameraOpen hclosed
    · rcases openOn_next halive hop hsecond with holdSecond | ⟨rfl, -⟩
      · exact absurd holdSecond.cameraOpen hclosed
      · rfl

end

/-- A camera has at most one open session, and an open of a camera in use says so, exactly as
long as a camera in use is opened on no other device object. -/
theorem atMostOneOpen_iff (lib : MetadataLib) (world : ProviderWorld) {ops : List ServiceOp}
    (h : ∀ op ∈ ops, op.HalOpens) :
    Throughout (next lib world) AtMostOneOpen (constructing world) ops ∧
        Admits (next lib world) Excludes (constructing world) ops ↔
      Admits (next lib world) OpensOwn (constructing world) ops := by
  have hexcludes : Admits (next lib world) Excludes (constructing world) ops ↔
      Admits (next lib world) OpensOwn (constructing world) ops := by
    apply Admits.congr Inv
    · exact fun s op hinv _ => hinv.next lib world op
    · exact fun s op hinv hop => excludes_iff hinv hop
    · exact inv_constructing world
    · exact Admits.of_forall h
  rw [← hexcludes]
  refine ⟨And.right, fun hexcluded => ⟨?_, hexcluded⟩⟩
  apply hexcluded.throughout AtMostOneOpen
  · exact fun s op hone hop => hone.next hop
  · exact fun _ hone => hone
  · rintro cameraId first second ⟨o, ho, -⟩
    cases ho

/-- A provider of two cameras, and a device object of each. -/
def twoCameras : List ServiceOp :=
  List.replicate 5 (.provider .construct) ++
    [.getCameraDeviceInterface (fun _ => 0x303) "device@1.1/internal/0",
      .getCameraDeviceInterface (fun _ => 0x303) "device@1.1/internal/1"]

def openWorld : OpenWorld := { device := { deviceVersion := cameraDeviceApiVersion35 } }

/-- Both cameras are opened, the first a second time in vain and again after it is closed. -/
def openClosed : List ServiceOp :=
  twoCameras ++ [.openSession 0 true openWorld, .openSession 1 true openWorld,
    .openSession 0 true openWorld, .session 0 ⟨.close, nofun⟩, .openSession 0 true openWorld]

theorem atMostOneOpen_openClosed :
    Throughout (next .ofPairs { getNumberOfCameras := 2 }) AtMostOneOpen
        (constructing { getNumberOfCameras := 2 }) openClosed ∧
      Admits (next .ofPairs { getNumberOfCameras := 2 }) Excludes
        (constructing { getNumberOfCameras := 2 }) openClosed :=
  (atMostOneOpen_iff .ofPairs _
    (by simp [openClosed, twoCameras, openWorld, ServiceOp.HalOpens])).mpr (by decide +kernel)

/-- The framework asks twice for the same camera, and opens both objects it gets. -/
def openTwice : List ServiceOp :=
  List.replicate 4 (.provider .construct) ++
    [.getCameraDeviceInterface (fun _ => 0x303) "device@1.1/internal/0",
      .getCameraDeviceInterface (fun _ => 0x303) "device@1.1/internal/0",
      .openSession 0 true openWorld, .openSession 1 true openWorld]

theorem openTwice_openedTwice :
    ¬(Throughout (next .ofPairs { getNumberOfCameras := 1 }) AtMostOneOpen
        (constructing { getNumberOfCameras := 1 }) openTwice ∧
      Admits (next .ofPairs { getNumberOfCameras := 1 }) Excludes
        (constructing { getNumberOfCameras := 1 }) openTwice) := by
  rintro ⟨hone, -⟩
  have hsame := hone.run "0" 0 1 (by decide +kernel) (by decide +kernel)
  cases hsame

end ServiceState

end LgeHardware.Provider
