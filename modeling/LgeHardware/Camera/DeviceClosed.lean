import LgeHardware.Foundation.Run
import LgeHardware.Camera.SessionCalls

/-! # The device is left alone once it is closed

A session reaches its device through `mDevice->ops` and closes it once, whichever of
its three routes it is closed by. What a call asks of the device, and whether the
session is closed already, decide whether the device is used after it was closed.
-/

namespace LgeHardware.Camera

open LgeHardware.Foundation

/-- The session reads `mDevice->ops` for it. -/
def SessionEvent.UsesOps : SessionEvent → Bool
  | .initializeHal | .processCaptureRequest _ | .configureStreams _
  | .constructDefaultRequestSettings _ | .flush | .readSignalStreamFlush
  | .signalStreamFlush _ => true
  | _ => false

/-- No operation of the device is used after the device is closed. -/
def NoUseAfterClose (events : List SessionEvent) : Prop :=
  events.Pairwise fun first second => first = .closeDevice → second.UsesOps = false

instance (events : List SessionEvent) : Decidable (NoUseAfterClose events) :=
  inferInstanceAs (Decidable (List.Pairwise _ events))

theorem noUseAfterClose_append {first second : List SessionEvent} :
    NoUseAfterClose (first ++ second) ↔ NoUseAfterClose first ∧ NoUseAfterClose second ∧
      (.closeDevice ∈ first → ∀ event ∈ second, event.UsesOps = false) := by
  rw [NoUseAfterClose, List.pairwise_append]
  constructor
  · rintro ⟨hfirst, hsecond, hboth⟩
    exact ⟨hfirst, hsecond, fun hclose event hevent => hboth _ hclose event hevent rfl⟩
  · rintro ⟨hfirst, hsecond, hboth⟩
    refine ⟨hfirst, hsecond, fun event hevent other hother hclose => ?_⟩
    subst hclose
    exact hboth hevent other hother

theorem noUseAfterClose_of_not_mem {events : List SessionEvent}
    (h : .closeDevice ∉ events) : NoUseAfterClose events := by
  apply List.Pairwise.imp_of_mem (R := fun _ _ => True)
  · intro first second hfirst _ _ hclose
    exact absurd (hclose ▸ hfirst) h
  · exact List.pairwise_of_forall fun _ _ => trivial

theorem noUseAfterClose_cons {event : SessionEvent} {events : List SessionEvent} :
    NoUseAfterClose (event :: events) ↔
      (event = .closeDevice → ∀ later ∈ events, later.UsesOps = false) ∧
        NoUseAfterClose events := by
  rw [NoUseAfterClose, List.pairwise_cons]
  constructor
  · rintro ⟨hhead, htail⟩
    exact ⟨fun hclose later hlater => hhead later hlater hclose, htail⟩
  · rintro ⟨hhead, htail⟩
    exact ⟨fun later hlater hclose => hhead hclose later hlater, htail⟩

/-! ## What each call does with the device -/

/-- What a call does with the device of the session: an open session may use it and close
it, a closed one does neither. -/
structure UsesDevice (s : Session) (events : List SessionEvent) (s' : Session) : Prop where
  opened : s.mClosed = false →
    NoUseAfterClose events ∧ (.closeDevice ∈ events ↔ s'.mClosed = true)
  closed : s.mClosed = true →
    s'.mClosed = true ∧ ∀ event ∈ events, event.UsesOps = false ∧ event ≠ .closeDevice

namespace UsesDevice

/-- A call that does not close the device. -/
theorem of_open {s s' : Session} {events : List SessionEvent} (hsame : s'.mClosed = s.mClosed)
    (hclose : .closeDevice ∉ events)
    (hclosed : s.mClosed = true → ∀ event ∈ events, event.UsesOps = false) :
    UsesDevice s events s' where
  opened hopened := by
    refine ⟨noUseAfterClose_of_not_mem hclose, ?_⟩
    rw [hsame, hopened]
    exact iff_of_false hclose Bool.false_ne_true
  closed h := by
    refine ⟨hsame.trans h, fun event hevent => ⟨hclosed h event hevent, ?_⟩⟩
    rintro rfl
    exact hclose hevent

end UsesDevice

theorem quiet_batcher (effects : List Effect) :
    ∀ event ∈ effects.map SessionEvent.batcher, event.UsesOps = false ∧ event ≠ .closeDevice := by
  intro event hevent
  obtain ⟨effect, -, rfl⟩ := List.mem_map.mp hevent
  exact ⟨rfl, nofun⟩

theorem quiet_freeBuffers (cbs : CirculatingBuffers) :
    ∀ event ∈ Session.freeBuffers cbs, event.UsesOps = false ∧ event ≠ .closeDevice := by
  intro event hevent
  obtain ⟨entry, -, rfl⟩ := List.mem_map.mp hevent
  exact ⟨rfl, nofun⟩

/-- No step of a request or a configuration closes the device. -/
theorem Call.Path.closeDevice_not_mem {c c' : Call} (h : c.Path c')
    (hstart : .closeDevice ∉ c.events) : .closeDevice ∉ c'.events := by
  induction h with
  | refl => exact hstart
  | tail _ hstep ih =>
      cases hstep with
      | reads hreads =>
          obtain ⟨queue, events, rfl, hevents⟩ := hreads
          intro hclose
          rcases List.mem_append.mp hclose with hold | hnew
          · exact ih hold
          · exact hevents _ hnew
      | importBuffer imported hcache hnew => simpa using ih
      | fences hevents =>
          intro hclose
          rcases List.mem_append.mp hclose with hold | hnew
          · exact ih hold
          · exact hevents _ hnew
      | submit halRequest => simpa using ih
      | _ => exact ih

theorem Call.Configures.closeDevice_not_mem {c c' : Call} (h : c.Configures c')
    (hstart : .closeDevice ∉ c.events) : .closeDevice ∉ c'.events := by
  induction h with
  | refl => exact hstart
  | tail _ hstep ih =>
      cases hstep with
      | @cleanup id cbs hcache =>
          intro hclose
          rcases List.mem_append.mp hclose with hold | hnew
          · exact ih hold
          · exact (quiet_freeBuffers cbs _ hnew).2 rfl
      | askHal streams => simpa using ih
      | _ => exact ih

namespace Session

theorem updateBufferCaches_quiet (s : Session) (caches : List BufferCache) :
    ∀ event ∈ (s.updateBufferCaches caches).1,
      event.UsesOps = false ∧ event ≠ .closeDevice := by
  induction caches generalizing s with
  | nil => exact fun event hevent => absurd hevent List.not_mem_nil
  | cons cache rest ih =>
      intro event hevent
      rw [updateBufferCaches_cons] at hevent
      rcases List.mem_append.mp hevent with hfirst | hrest
      · rcases s.removeCached_cases cache with hnone | ⟨cbs, buffer, -, -, hone⟩
        · rw [hnone] at hfirst
          exact absurd hfirst List.not_mem_nil
        · rw [hone] at hfirst
          rw [List.mem_singleton.mp hfirst]
          exact ⟨rfl, nofun⟩
      · exact ih _ event hrest

theorem disconnect_usesDevice (s : Session) :
    UsesDevice s s.disconnect.1 s.disconnect.2 where
  opened hopened := by
    rw [disconnect, hopened]
    exact ⟨List.pairwise_singleton _ _, by simp⟩
  closed hclosed := by
    rw [disconnect, hclosed]
    exact ⟨rfl, fun event hevent => absurd hevent List.not_mem_nil⟩

theorem close_usesDevice (s : Session) : UsesDevice s s.close.1 s.close.2 where
  opened hopened := by
    have hfreed : ∀ event ∈ s.mCirculatingBuffers.toList.flatMap fun entry =>
        freeBuffers entry.2, event.UsesOps = false ∧ event ≠ .closeDevice := by
      intro event hevent
      obtain ⟨entry, -, hfree⟩ := List.mem_flatMap.mp hevent
      exact quiet_freeBuffers entry.2 event hfree
    rw [close, hopened]
    refine ⟨noUseAfterClose_cons.mpr ⟨fun _ event hevent => (hfreed event hevent).1, ?_⟩, ?_⟩
    · exact noUseAfterClose_of_not_mem fun hclose => (hfreed _ hclose).2 rfl
    · simp
  closed hclosed := by
    rw [close, hclosed]
    exact ⟨hclosed, fun event hevent => absurd hevent List.not_mem_nil⟩

end Session

/-- No call closes the device but as `disconnect` or `close` does. -/
theorem SessionCall.closing {lib : MetadataLib} {s s' : Session} {op : SessionOp}
    {events : List SessionEvent} (h : SessionCall lib s op events s') :
    (.closeDevice ∉ events ∧ s'.mClosed = s.mClosed) ∨ (events, s') = s.disconnect ∨
      (events, s') = s.close := by
  cases h with
  | refused => exact .inl ⟨List.not_mem_nil, rfl⟩
  | callback op effects hsame =>
      left
      exact ⟨fun hmem => (quiet_batcher effects _ hmem).2 rfl,
        (Session.sameStanding_of_withoutResults hsame).closed⟩
  | configures hstatus hpath =>
      exact .inl ⟨hpath.closeDevice_not_mem List.not_mem_nil, hpath.sameStanding.closed⟩
  | removesCaches requests cachesToRemove =>
      left
      exact ⟨fun hmem => (s.updateBufferCaches_quiet cachesToRemove _ hmem).2 rfl,
        (s.updateBufferCaches_sameStanding cachesToRemove).closed⟩
  | @requests _ cachesToRemove _ _ c hstatus hpath =>
      have hremoved := s.updateBufferCaches_sameStanding cachesToRemove
      refine .inl ⟨?_, hpath.sameStanding.closed.trans hremoved.closed⟩
      apply hpath.closeDevice_not_mem
      exact fun hmem => (s.updateBufferCaches_quiet cachesToRemove _ hmem).2 rfl
  | flushes | constructs => exact .inl ⟨by simp, rfl⟩
  | signals streamIds streamConfigCounter supported =>
      left
      rcases s.signalStreamFlush_cases streamIds streamConfigCounter supported with hread | hcall
      · rw [hread]
        exact ⟨by simp, rfl⟩
      · rw [hcall]
        exact ⟨by simp, rfl⟩
  | disconnects => exact .inr (.inl rfl)
  | closes => exact .inr (.inr rfl)

/-- On a closed device no call but one touches the operations. -/
theorem SessionCall.quiet {lib : MetadataLib} {s s' : Session} {op : SessionOp}
    {events : List SessionEvent} (h : SessionCall lib s op events s')
    (hop : ∀ streamIds counter supported, op = .signalStreamFlush streamIds counter supported →
      s.mClosed = false) (hclosed : s.mClosed = true) :
    ∀ event ∈ events, event.UsesOps = false := by
  have hnot : ∀ s₀ : Session, s₀.mClosed = s.mClosed → ¬s₀.initStatus = .ok :=
    fun s₀ hsame => Session.initStatus_of_closed (hsame.trans hclosed)
  cases h with
  | refused => exact fun event hevent => absurd hevent List.not_mem_nil
  | callback op effects hsame => exact fun event hevent => (quiet_batcher effects event hevent).1
  | removesCaches requests cachesToRemove =>
      exact fun event hevent => (s.updateBufferCaches_quiet cachesToRemove event hevent).1
  | @requests _ cachesToRemove _ _ c hstatus hpath =>
      exact absurd hstatus (hnot _ (s.updateBufferCaches_sameStanding cachesToRemove).closed)
  | configures hstatus hpath => exact absurd hstatus (hnot s rfl)
  | flushes ret hstatus => exact absurd hstatus (hnot s rfl)
  | constructs type rawRequest hstatus => exact absurd hstatus (hnot s rfl)
  | signals streamIds streamConfigCounter supported =>
      have hopen := hop streamIds streamConfigCounter supported rfl
      exact absurd (hopen.symm.trans hclosed) Bool.false_ne_true
  | disconnects =>
      intro event hevent
      exact ((s.disconnect_usesDevice.closed hclosed).2 event hevent).1
  | closes =>
      intro event hevent
      exact ((s.close_usesDevice.closed hclosed).2 event hevent).1

/-- Every call but one uses the device as it should. -/
theorem SessionCall.usesDevice {lib : MetadataLib} {s s' : Session} {op : SessionOp}
    {events : List SessionEvent} (h : SessionCall lib s op events s')
    (hop : ∀ streamIds counter supported, op = .signalStreamFlush streamIds counter supported →
      s.mClosed = false) : UsesDevice s events s' := by
  rcases h.closing with ⟨hnot, hsame⟩ | hdisconnect | hclose
  · exact .of_open hsame hnot (h.quiet hop)
  · have hevents : events = s.disconnect.1 := congrArg Prod.fst hdisconnect
    have hsession : s' = s.disconnect.2 := congrArg Prod.snd hdisconnect
    rw [hevents, hsession]
    exact s.disconnect_usesDevice
  · have hevents : events = s.close.1 := congrArg Prod.fst hclose
    have hsession : s' = s.close.2 := congrArg Prod.snd hclose
    rw [hevents, hsession]
    exact s.close_usesDevice

/-! ## Runs -/

namespace SessionState

/-- The call does not look into the operations of a device that is closed. -/
def LeavesClosedDevice (s : SessionState) : SessionOp → Prop
  | .signalStreamFlush .. => s.stage = .live → s.session.mClosed = false
  | _ => True

instance (s : SessionState) (op : SessionOp) : Decidable (s.LeavesClosedDevice op) :=
  match op with
  | .signalStreamFlush .. => inferInstanceAs (Decidable (_ → _))
  | .configureStreams .. | .processCaptureRequest .. | .processCaptureResult _ | .notifyShutter ..
  | .notifyError .. | .flush _ | .constructDefaultRequestSettings .. | .disconnect | .close
  | .destroy => isTrue trivial

/-- The log shows whether the device is closed. -/
def ClosedInLog (s : SessionState) : Prop :=
  .closeDevice ∈ s.events ↔ s.session.mClosed = true

theorem closedInLog_constructed (device : DeviceInfo) (world : SessionWorld) :
    (constructed device world).ClosedInLog ∧ NoUseAfterClose (constructed device world).events := by
  simp only [ClosedInLog, constructed, Session.construct, Session.initializeSession]
  by_cases hhal : world.initializeHal = statusOk
  · rw [if_neg (not_not_intro hhal)]
    cases world.requestQueueValid <;> simp [NoUseAfterClose]
  · rw [if_pos hhal]
    simp [NoUseAfterClose, SessionEvent.UsesOps]

/-- A call that uses the device as it should keeps the log in order. -/
theorem ClosedInLog.after {s s' : SessionState} (h : s.ClosedInLog) {events : List SessionEvent}
    (hevents : s'.events = s.events ++ events) (huse : UsesDevice s.session events s'.session) :
    s'.ClosedInLog ∧ (NoUseAfterClose s.events → NoUseAfterClose s'.events) := by
  rw [ClosedInLog, hevents, List.mem_append, noUseAfterClose_append]
  cases hclosed : s.session.mClosed with
  | false =>
      obtain ⟨hordered, hclose⟩ := huse.opened hclosed
      rw [ClosedInLog, hclosed] at h
      have hnot : .closeDevice ∉ s.events := fun hmem => Bool.false_ne_true (h.mp hmem)
      refine ⟨?_, fun hgood => ⟨hgood, hordered, fun hmem => absurd hmem hnot⟩⟩
      rw [← hclose]
      exact or_iff_right hnot
  | true =>
      obtain ⟨hstill, hquiet⟩ := huse.closed hclosed
      have hmem := h.mpr hclosed
      refine ⟨iff_of_true (.inl hmem) hstill, fun hgood => ⟨hgood, ?_, ?_⟩⟩
      · exact noUseAfterClose_of_not_mem fun hclose => (hquiet _ hclose).2 rfl
      · exact fun _ event hevent => (hquiet event hevent).1

theorem next_usesDevice (lib : MetadataLib) {s : SessionState} {op : SessionOp}
    (hop : s.LeavesClosedDevice op) :
    ∃ events, (s.next lib op).events = s.events ++ events ∧
      UsesDevice s.session events (s.next lib op).session := by
  by_cases hlive : s.stage = .live
  · obtain ⟨events, hevents, hcall⟩ := s.next_call lib op
    refine ⟨events, hevents, hcall.usesDevice ?_⟩
    rintro streamIds counter supported rfl
    exact hop hlive
  · rw [next, if_neg hlive]
    refine ⟨[], (List.append_nil _).symm, ?_⟩
    apply UsesDevice.of_open rfl List.not_mem_nil
    exact fun _ event hevent => absurd hevent List.not_mem_nil

/-- The one call that does not leave a closed device alone reads its operations. -/
theorem next_of_not_leavesClosedDevice (lib : MetadataLib) {s : SessionState} {op : SessionOp}
    (hop : ¬s.LeavesClosedDevice op) :
    s.session.mClosed = true ∧ ∃ events, .readSignalStreamFlush ∈ events ∧
      s.next lib op = s.after events s.session := by
  cases op with
  | signalStreamFlush streamIds streamConfigCounter supported =>
      obtain ⟨hlive, hopened⟩ := Classical.not_imp.mp hop
      refine ⟨eq_true_of_ne_false hopened, _, ?_, if_pos hlive⟩
      rcases s.session.signalStreamFlush_cases streamIds streamConfigCounter supported
        with hread | hcall
      · simp [hread]
      · simp [hcall]
  | _ => exact absurd trivial hop

/-- Every call leaves the log to show whether the device is closed. -/
theorem ClosedInLog.next (lib : MetadataLib) {s : SessionState} (h : s.ClosedInLog)
    (op : SessionOp) : (s.next lib op).ClosedInLog := by
  by_cases hop : s.LeavesClosedDevice op
  · obtain ⟨events, hevents, huse⟩ := next_usesDevice lib hop
    exact (h.after hevents huse).1
  · obtain ⟨hclosed, events, -, hnext⟩ := next_of_not_leavesClosedDevice lib hop
    rw [hnext]
    exact iff_of_true (List.mem_append_left _ (h.mpr hclosed)) hclosed

/-- The log of a session is in order. -/
def LeavesDeviceAlone (s : SessionState) : Prop := NoUseAfterClose s.events

instance (s : SessionState) : Decidable s.LeavesDeviceAlone :=
  inferInstanceAs (Decidable (NoUseAfterClose _))

/-- One call leaves a closed device alone exactly if it does not look into its operations. -/
theorem leavesDeviceAlone_next_iff (lib : MetadataLib) {s : SessionState} (h : s.ClosedInLog)
    (hgood : s.LeavesDeviceAlone) (op : SessionOp) :
    (s.next lib op).LeavesDeviceAlone ↔ s.LeavesClosedDevice op := by
  by_cases hop : s.LeavesClosedDevice op
  · obtain ⟨events, hevents, huse⟩ := next_usesDevice lib hop
    exact iff_of_true ((h.after hevents huse).2 hgood) hop
  · obtain ⟨hclosed, events, hread, hnext⟩ := next_of_not_leavesClosedDevice lib hop
    refine iff_of_false (fun hall => ?_) hop
    rw [hnext, LeavesDeviceAlone, after, noUseAfterClose_append] at hall
    have hunused := hall.2.2 (h.mpr hclosed) _ hread
    cases hunused

/-- The device is left alone as long as `signalStreamFlush` is not called on a closed
session. -/
theorem leavesDeviceAlone_iff (lib : MetadataLib) (device : DeviceInfo) (world : SessionWorld)
    (ops : List SessionOp) :
    (run (next lib) (constructed device world) ops).LeavesDeviceAlone ↔
      Admits (next lib) LeavesClosedDevice (constructed device world) ops := by
  obtain ⟨hlog, hgood⟩ := closedInLog_constructed device world
  refine Admits.good_iff ClosedInLog ?_ ?_ ?_ hlog hgood (Admits.always _ _)
  · exact fun s op h _ => h.next lib op
  · intro s op hnext
    obtain ⟨events, hevents, -⟩ := s.next_call lib op
    rw [LeavesDeviceAlone, hevents, noUseAfterClose_append] at hnext
    exact hnext.1
  · exact fun s op h _ hgood => leavesDeviceAlone_next_iff lib h hgood op

/-- A client closes the session and then signals a flush. -/
def signalAfterClose : List SessionOp := [.close, .signalStreamFlush [] 1 true]

theorem signalAfterClose_usesDevice :
    ¬(run (next .ofPairs) (constructed { deviceVersion := cameraDeviceApiVersion35 } {})
      signalAfterClose).LeavesDeviceAlone := by
  decide

end SessionState

end LgeHardware.Camera
