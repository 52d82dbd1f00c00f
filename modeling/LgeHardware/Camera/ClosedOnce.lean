import LgeHardware.Camera.CameraDevice
import LgeHardware.Camera.DeviceClosed

/-! # The device is closed once

The duty to close the device that the module opened passes from `open` to the session, and
there to whichever of `initialize`, `disconnect`, `close` and the destructor comes first.
The flag of the session says whether it is still due.
-/

namespace LgeHardware.Camera

open LgeHardware.Foundation

/-! ## One session -/

namespace Session

/-- How often the device of the session has been closed. -/
def timesClosed (s : Session) : Nat := if s.mClosed then 1 else 0

theorem count_closeDevice_disconnect (s : Session) :
    s.timesClosed + s.disconnect.1.count .closeDevice = s.disconnect.2.timesClosed := by
  rw [timesClosed, timesClosed, disconnect]
  cases s.mClosed with
  | true => rfl
  | false => rfl

theorem count_closeDevice_freeBuffers (caches : List (Int × CirculatingBuffers)) :
    (caches.flatMap fun entry => freeBuffers entry.2).count .closeDevice = 0 := by
  apply List.count_eq_zero.mpr
  intro hmem
  obtain ⟨entry, -, hfree⟩ := List.mem_flatMap.mp hmem
  exact (quiet_freeBuffers entry.2 _ hfree).2 rfl

theorem count_closeDevice_close (s : Session) :
    s.timesClosed + s.close.1.count .closeDevice = s.close.2.timesClosed := by
  rw [timesClosed, timesClosed, close]
  cases hclosed : s.mClosed with
  | true => simp [hclosed]
  | false =>
      rw [if_neg Bool.false_ne_true, if_neg Bool.false_ne_true, List.count_cons_self,
        count_closeDevice_freeBuffers]
      rfl

theorem count_closeDevice_destroy (s : Session) :
    s.timesClosed + s.destroy.1.count .closeDevice = s.destroy.2.timesClosed := by
  rw [destroy]
  split
  · rfl
  · exact s.count_closeDevice_close

end Session

/-- A call closes the device only if it was not closed, and then once. -/
theorem SessionCall.count_closeDevice {lib : MetadataLib} {s s' : Session} {op : SessionOp}
    {events : List SessionEvent} (h : SessionCall lib s op events s') :
    s.timesClosed + events.count .closeDevice = s'.timesClosed := by
  rcases h.closing with ⟨hnot, hsame⟩ | hdisconnect | hclose
  · rw [List.count_eq_zero.mpr hnot, Session.timesClosed, Session.timesClosed, hsame, add_zero]
  · cases hdisconnect
    exact s.count_closeDevice_disconnect
  · have hevents : events = s.close.1 := congrArg Prod.fst hclose
    have hsession : s' = s.close.2 := congrArg Prod.snd hclose
    rw [hevents, hsession]
    exact s.count_closeDevice_close

namespace SessionState

/-- The log of the session closes the device as often as its flag says. -/
def CloseCounted (s : SessionState) : Prop := s.events.count .closeDevice = s.session.timesClosed

theorem closeCounted_constructed (device : DeviceInfo) (world : SessionWorld) :
    (constructed device world).CloseCounted := by
  simp only [CloseCounted, constructed, Session.construct, Session.initializeSession]
  by_cases hhal : world.initializeHal = statusOk
  · rw [if_neg (not_not_intro hhal)]
    cases world.requestQueueValid with
    | true => rfl
    | false => rfl
  · rw [if_pos hhal]
    rfl

/-- After every call the log closes the device as often as the flag says. -/
theorem CloseCounted.next (lib : MetadataLib) {s : SessionState} (h : s.CloseCounted)
    (op : SessionOp) : (s.next lib op).CloseCounted := by
  obtain ⟨events, hevents, hcall⟩ := s.next_call lib op
  rw [CloseCounted, hevents, List.count_append, h]
  exact hcall.count_closeDevice

theorem CloseCounted.destroy {s : SessionState} (h : s.CloseCounted) : s.destroy.CloseCounted := by
  have hevents : s.destroy.events = s.events ++ s.session.destroy.1 := rfl
  rw [CloseCounted, hevents, List.count_append, h]
  exact s.session.count_closeDevice_destroy

/-- The session is gone only after it closed the device. -/
def ClosedAtEnd (s : SessionState) : Prop :=
  s.stage = .live ∨ s.stage = .destroyed ∧ s.session.mClosed = true

theorem mClosed_destroy (s : Session) : s.destroy.2.mClosed = true := by
  rw [Session.destroy]
  split
  next hclosed => exact hclosed
  next hopened =>
    rw [Session.close, if_neg hopened]

/-- Neither of the two calls destroys the session. -/
theorem ClosedAtEnd.next (lib : MetadataLib) {s : SessionState} (h : s.ClosedAtEnd)
    {op : SessionOp} (hop : op = .close ∨ op = .disconnect) : (s.next lib op).ClosedAtEnd := by
  rw [SessionState.next]
  split
  next hlive =>
    left
    rcases hop with rfl | rfl
    · exact hlive
    · exact hlive
  next => exact h

theorem ClosedAtEnd.mClosed_destroyed (lib : MetadataLib) {s : SessionState}
    (h : s.ClosedAtEnd) : (s.next lib .destroy).session.mClosed = true := by
  rw [SessionState.next]
  split
  next => exact mClosed_destroy s.session
  next hgone => exact (h.resolve_left hgone).2

end SessionState

/-! ## The device that `open` got -/

namespace OpenResult

/-- How often the device was closed, by `open` itself and by the session. -/
def closes (r : OpenResult) : Nat :=
  (r.handle.getD []).count .closeDevice +
    r.session.elim 0 fun s => s.events.count .closeDevice

/-- A call of the session, if there is one. -/
def next (lib : MetadataLib) (r : OpenResult) (op : SessionOp) : OpenResult :=
  { r with session := r.session.map fun s => s.next lib op }

/-- Either `open` closed the device itself, or the session answers for it. -/
def Entrusted (r : OpenResult) : Prop :=
  match r.session with
  | none => r.handle = some [.closeDevice]
  | some s => r.handle = some [] ∧ s.CloseCounted

/-- Whoever answers for the device still does after a call. -/
theorem Entrusted.next (lib : MetadataLib) {r : OpenResult} (h : r.Entrusted) (op : SessionOp) :
    (r.next lib op).Entrusted := by
  rw [Entrusted] at h
  rw [Entrusted, OpenResult.next]
  cases hsession : r.session with
  | none =>
      rw [hsession] at h
      exact h
  | some s =>
      rw [hsession] at h
      exact ⟨h.1, h.2.next lib op⟩

theorem Entrusted.closes_le_one {r : OpenResult} (h : r.Entrusted) : r.closes ≤ 1 := by
  rw [Entrusted] at h
  rw [closes]
  cases hsession : r.session with
  | none =>
      rw [hsession] at h
      rw [h]
      exact le_rfl
  | some s =>
      rw [hsession] at h
      have hcounted : s.events.count .closeDevice = s.session.timesClosed := h.2
      rw [h.1, Option.elim_some, hcounted, Session.timesClosed]
      split
      · exact le_rfl
      · exact Nat.zero_le 1

/-- The session, if there is one, closed the device before it went. -/
def ClosedAtEnd (r : OpenResult) : Prop := ∀ s ∈ r.session, s.ClosedAtEnd

/-- The same for the session of an open device. -/
theorem ClosedAtEnd.next (lib : MetadataLib) {r : OpenResult} (h : r.ClosedAtEnd)
    {op : SessionOp} (hop : op = .close ∨ op = .disconnect) : (r.next lib op).ClosedAtEnd := by
  intro t ht
  obtain ⟨s, hs, rfl⟩ := Option.map_eq_some_iff.mp ht
  exact (h s hs).next lib hop

theorem closes_destroyed (lib : MetadataLib) {r : OpenResult} (h : r.Entrusted)
    (hend : r.ClosedAtEnd) : (r.next lib .destroy).closes = 1 := by
  rw [Entrusted] at h
  rw [closes, OpenResult.next]
  cases hsession : r.session with
  | none =>
      rw [hsession] at h
      rw [h]
      rfl
  | some s =>
      rw [hsession] at h
      have hcounted : (s.next lib .destroy).events.count .closeDevice =
          (s.next lib .destroy).session.timesClosed := h.2.next lib .destroy
      have hclosed := (hend s hsession).mClosed_destroyed lib
      rw [h.1, Option.map_some, Option.elim_some, hcounted, Session.timesClosed, if_pos hclosed]
      rfl

end OpenResult

namespace CameraDevice

/-- What becomes of a device that the module opened. -/
theorem startSession_entrusted {world : OpenWorld} (hcreate : world.createSession = true) :
    (startSession world).Entrusted ∧ (startSession world).ClosedAtEnd := by
  have hcounted := SessionState.closeCounted_constructed world.device world.session
  rw [startSession]
  split
  · exact ⟨rfl, by simp [OpenResult.ClosedAtEnd]⟩
  · split
    · exact ⟨rfl, by simp [OpenResult.ClosedAtEnd]⟩
    · rw [if_neg (by simp [hcreate])]
      dsimp only
      split
      · refine ⟨⟨rfl, hcounted.destroy⟩, ?_⟩
        intro s hs
        cases hs
        exact .inr ⟨rfl, SessionState.mClosed_destroy _⟩
      · refine ⟨⟨rfl, hcounted⟩, ?_⟩
        intro s hs
        cases hs
        exact .inl rfl

theorem openSession_of_handle {d : CameraDevice} {sessions : List OpenedSession}
    {callback : Bool} {world : OpenWorld} {handle : List SessionEvent}
    (h : (d.openSession sessions callback world).handle = some handle) :
    d.openSession sessions callback world = startSession world := by
  rcases d.openSession_cases sessions callback world with hnone | hstart
  · rw [hnone.1] at h
    cases h
  · exact hstart

/-- Whatever is called on the session, the device is closed at most once. Once the session
was closed, disconnected or left alone and is destroyed, the device is closed once. -/
theorem device_closed_once (lib : MetadataLib) {d : CameraDevice}
    {sessions : List OpenedSession} {callback : Bool} {world : OpenWorld}
    (hcreate : world.createSession = true) {handle : List SessionEvent}
    (hhandle : (d.openSession sessions callback world).handle = some handle) :
    (∀ ops : List SessionOp, Throughout (OpenResult.next lib) (fun r => r.closes ≤ 1)
      (d.openSession sessions callback world) ops) ∧
    ∀ ops : List SessionOp, (∀ op ∈ ops, op = .close ∨ op = .disconnect) →
      (run (OpenResult.next lib) (d.openSession sessions callback world)
        (ops ++ [.destroy])).closes = 1 := by
  rw [openSession_of_handle hhandle]
  obtain ⟨hentrusted, hend⟩ := startSession_entrusted hcreate
  constructor
  · intro ops
    apply (Admits.always (startSession world) ops).throughout OpenResult.Entrusted
    · exact fun r op hr _ => hr.next lib op
    · exact fun r hr => hr.closes_le_one
    · exact hentrusted
  · intro ops hops
    have hboth : ∀ r op, r.Entrusted ∧ r.ClosedAtEnd → op = .close ∨ op = .disconnect →
        (OpenResult.next lib r op).Entrusted ∧ (OpenResult.next lib r op).ClosedAtEnd :=
      fun r op hr hop => ⟨hr.1.next lib op, hr.2.next lib hop⟩
    have hadmits : Admits (OpenResult.next lib) (fun _ op => op = .close ∨ op = .disconnect)
        (startSession world) ops := Admits.of_forall hops
    have hrun := hadmits.invariant _ hboth ⟨hentrusted, hend⟩
    rw [run, List.foldl_append]
    exact OpenResult.closes_destroyed lib hrun.1 hrun.2

/-- A camera whose module, HAL and queues all do their part. -/
def openableWorld : OpenWorld where
  device := { deviceVersion := cameraDeviceApiVersion35 }

theorem device_closed_once_disconnected :
    (run (OpenResult.next .ofPairs) (({ mCameraId := "0" } : CameraDevice).openSession [] true
      openableWorld) ([.disconnect, .close, .close] ++ [.destroy])).closes = 1 :=
  have hhandle : (({ mCameraId := "0" } : CameraDevice).openSession [] true
      openableWorld).handle = some [] := by decide
  (device_closed_once .ofPairs rfl hhandle).2 [.disconnect, .close, .close] (by simp)

end CameraDevice

end LgeHardware.Camera
