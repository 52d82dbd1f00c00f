import LgeHardware.Provider.OneSession

/-! # Unplugging a camera

The provider forgets the name of a camera that is gone. It does not know the devices that
it made, so it never calls `setConnectionStatus` on one, and an open session goes on as if
the camera were there.
-/

namespace LgeHardware.Provider

open LgeHardware.Foundation LgeHardware.Camera

namespace ServiceState

/-- From one state to the other, the open sessions of the camera were closed as disconnected,
and its devices were told so. -/
structure Disconnects (s s' : ServiceState) (cameraId : String) : Prop where
  closed : ∀ number, s.OpenOn cameraId number → ∃ o ∈ s'.sessions[number]?,
    o.state.session.mClosed = true ∧ o.state.session.initStatus = .cameraDisconnected
  refused : ∀ d ∈ s'.devices, d.mCameraId = cameraId → ∀ world,
    (d.openSession s'.sessions true world).status = .cameraDisconnected

/-- When the HAL has reported that the camera is gone, and the callback has returned, the
sessions of the camera are disconnected. -/
def UnplugReaches (lib : MetadataLib) (world : ProviderWorld) (s : ServiceState) (id : Int32) :
    Prop :=
  let s' := s.next lib world (.provider (.cameraDeviceStatusChange id .notPresent))
  ¬s'.Aborted → s.Disconnects s' (toStr id)

section

variable (lib : MetadataLib) (world : ProviderWorld) {s : ServiceState}

/-- A report of the HAL to a provider with open sessions returns, and changes nothing but the
provider. -/
theorem next_report (h : s.Inv) (halive : ¬s.Aborted) {cameraId : String}
    (hopen : s.CameraOpen cameraId) (id : Int32) (status : CameraDeviceStatus) :
    let s' := s.next lib world (.provider (.cameraDeviceStatusChange id status))
    ¬s'.Aborted ∧ s'.devices = s.devices ∧ s'.sessions = s.sessions := by
  obtain ⟨o, ho, -⟩ := hopen
  have hdevices := h.opened (List.ne_nil_of_mem ho)
  have hloaded := (h.loaded hdevices).resolve_left fun haborted => halive (.inl haborted)
  have hphase : (s.provider.next world (.cameraDeviceStatusChange id status)).phase =
      s.provider.phase := by
    rw [ProviderState.next]
    split
    next =>
      obtain ⟨c, hc, -⟩ := ProviderState.perform_of_ends
        (sCameraDeviceStatusChange_spec id status hloaded.mModule)
      rw [hc]
    next => rfl
  rw [next.eq_def, if_neg halive]
  refine ⟨?_, rfl, rfl⟩
  rintro (hprovider | hsession)
  · exact halive (.inl (hphase.symm.trans hprovider))
  · exact halive (.inr hsession)

/-- Unplugging a camera leaves its open sessions open, and the devices of all cameras
connected. -/
theorem unplug_unnoticed (h : s.Inv) (halive : ¬s.Aborted) {cameraId : String}
    (hopen : s.CameraOpen cameraId) (id : Int32) :
    let s' := s.next lib world (.provider (.cameraDeviceStatusChange id .notPresent))
    (∀ o ∈ s'.sessions, o.state.Open → o.state.session.initStatus = .ok) ∧
      (∀ other number, s'.OpenOn other number ↔ s.OpenOn other number) ∧
      ∀ d ∈ s'.devices, ∀ callback world,
        (d.openSession s'.sessions callback world).status ≠ .cameraDisconnected := by
  obtain ⟨-, hdevices, hsessions⟩ :=
    next_report lib world h halive hopen id .notPresent
  refine ⟨?_, ?_, ?_⟩
  · rw [hsessions]
    exact fun o ho hopened => (h.attached o ho).initStatus hopened
  · intro other number
    rw [OpenOn, hsessions]
    rfl
  · rw [hdevices, hsessions]
    intro d hd callback world
    exact CameraDevice.openSession_ne_disconnected (h.connected d hd) s.sessions callback world

end

/-- The invariant holds in every run of the service. -/
theorem inv_run (lib : MetadataLib) (world : ProviderWorld) (ops : List ServiceOp) :
    (run (next lib world) (constructing world) ops).Inv :=
  (Admits.always _ ops).invariant Inv (fun _ op h _ => h.next lib world op)
    (inv_constructing world)

/-- In no run does unplugging a camera reach its open sessions. -/
theorem not_unplugReaches (lib : MetadataLib) (world : ProviderWorld) (ops : List ServiceOp)
    (id : Int32) (halive : ¬(run (next lib world) (constructing world) ops).Aborted)
    (hopen : (run (next lib world) (constructing world) ops).CameraOpen (toStr id)) :
    ¬(run (next lib world) (constructing world) ops).UnplugReaches lib world id := by
  intro hreaches
  have hinv := inv_run lib world ops
  obtain ⟨hreturned, -, hsessions⟩ := next_report lib world hinv halive hopen id .notPresent
  obtain ⟨o, ho, hcamera, hopened⟩ := hopen
  obtain ⟨number, hnumber⟩ := List.mem_iff_getElem?.mp ho
  obtain ⟨after, hafter, hclosed, -⟩ :=
    (hreaches hreturned).closed number ⟨o, hnumber, hcamera, hopened⟩
  rw [hsessions, Option.mem_def, hnumber] at hafter
  cases hafter
  exact Bool.false_ne_true (hopened.2.symm.trans hclosed)

/-- One camera is opened. -/
def openOne : List ServiceOp :=
  List.replicate 4 (.provider .construct) ++
    [.provider (.setCallback true),
      .getCameraDeviceInterface (fun _ => 0x303) "device@1.1/internal/0",
      .openSession 0 true openWorld]

theorem not_unplugReaches_openOne :
    ¬(run (next .ofPairs { getNumberOfCameras := 1 }) (constructing { getNumberOfCameras := 1 })
      openOne).UnplugReaches .ofPairs { getNumberOfCameras := 1 } 0 :=
  not_unplugReaches .ofPairs _ openOne 0 (by decide +kernel) (by decide +kernel)

/-- An external camera is plugged in and opened. -/
def openExternal : List ServiceOp :=
  List.replicate 3 (.provider .construct) ++
    [.provider (.setCallback true), .provider (.cameraDeviceStatusChange 5 .present),
      .getCameraDeviceInterface (fun _ => 0x303) "device@1.1/internal/5",
      .openSession 0 true openWorld]

theorem openExternal_unplugUnnoticed :
    ¬(run (next .ofPairs {}) (constructing {}) openExternal).UnplugReaches .ofPairs {} 5 := by
  intro hreaches
  have hdisconnects := hreaches (by decide +kernel)
  obtain ⟨o, ho, hclosed, -⟩ := hdisconnects.closed 0 (by decide +kernel)
  have hopen : ∀ o ∈ ((run (next .ofPairs {}) (constructing {}) openExternal).next .ofPairs {}
      (.provider (.cameraDeviceStatusChange 5 .notPresent))).sessions[0]?,
      o.state.session.mClosed = false := by
    decide +kernel
  exact Bool.false_ne_true ((hopen o ho).symm.trans hclosed)

end ServiceState

end LgeHardware.Provider
