import Mathlib.Algebra.BigOperators.Group.Multiset.Basic
import LgeHardware.Foundation.Custody
import LgeHardware.Foundation.Run
import LgeHardware.Camera.DeviceClosed

/-! # Imported buffers are in the custody of the caches

A session holds the graphic buffers that it imported and did not free yet. They are
the buffers in `mCirculatingBuffers`: a buffer is cached when it is imported, and
leaves the cache when it is freed.
-/

namespace LgeHardware.Camera

open LgeHardware.Foundation

/-- The imports and frees of buffers in a log. -/
def custodyLog (events : List SessionEvent) : List (CustodyEvent BufferHandle) :=
  events.filterMap fun
    | .importBuffer buffer => some (.acquire buffer)
    | .freeBuffer buffer => some (.release buffer)
    | _ => none

/-- The event imports or frees a buffer. -/
def SessionEvent.IsCustody : SessionEvent → Bool
  | .importBuffer _ | .freeBuffer _ => true
  | _ => false

@[simp] theorem custodyLog_nil : custodyLog [] = [] := rfl

@[simp] theorem custodyLog_append (first second : List SessionEvent) :
    custodyLog (first ++ second) = custodyLog first ++ custodyLog second :=
  List.filterMap_append

theorem custodyLog_eq_nil {events : List SessionEvent}
    (h : ∀ event ∈ events, event.IsCustody = false) : custodyLog events = [] := by
  rw [custodyLog, List.filterMap_eq_nil_iff]
  intro event hevent
  have hnone := h event hevent
  cases event <;> first | rfl | cases hnone

/-! ## What the caches hold -/

/-- The buffers in the cache of one stream. -/
def handlesIn (cbs : CirculatingBuffers) : Multiset BufferHandle :=
  (cbs.toList.map Prod.snd : List BufferHandle)

theorem custodyLog_freeBuffers (cbs : CirculatingBuffers) :
    custodyLog (Session.freeBuffers cbs) = (cbs.toList.map Prod.snd).map .release := by
  simp [custodyLog, Session.freeBuffers, List.filterMap_map, Function.comp_def]

theorem handlesIn_insert {cbs : CirculatingBuffers} {bufId : Nat} (hnew : bufId ∉ cbs)
    (buffer : BufferHandle) : handlesIn (cbs.insert bufId buffer) = buffer ::ₘ handlesIn cbs := by
  have hperm := (cbs.toList_insert_perm bufId buffer).map Prod.snd
  rw [Std.ExtTreeMap.erase_of_notMem cbs hnew] at hperm
  exact Multiset.coe_eq_coe.mpr hperm

theorem handlesIn_erase {cbs : CirculatingBuffers} {bufId : Nat} {buffer : BufferHandle}
    (hbuffer : cbs[bufId]? = some buffer) :
    handlesIn cbs = buffer ::ₘ handlesIn (cbs.erase bufId) :=
  Multiset.coe_eq_coe.mpr ((cbs.toList_perm_cons_erase hbuffer).map Prod.snd)

/-- The buffers in all caches. -/
def cachedIn (caches : Std.ExtTreeMap Int CirculatingBuffers) : Multiset BufferHandle :=
  (caches.toList.map fun entry => handlesIn entry.2).sum

theorem cachedIn_erase {caches : Std.ExtTreeMap Int CirculatingBuffers} {id : Int}
    {cbs : CirculatingBuffers} (hcache : caches[id]? = some cbs) :
    cachedIn caches = handlesIn cbs + cachedIn (caches.erase id) := by
  have hperm := (caches.toList_perm_cons_erase hcache).map fun entry => handlesIn entry.2
  exact hperm.sum_eq

theorem cachedIn_insert (caches : Std.ExtTreeMap Int CirculatingBuffers) (id : Int)
    (cbs : CirculatingBuffers) :
    cachedIn (caches.insert id cbs) = handlesIn cbs + cachedIn (caches.erase id) := by
  have hperm := (caches.toList_insert_perm id cbs).map fun entry => handlesIn entry.2
  exact hperm.sum_eq

/-- Opening a cache changes nothing: it is there already, or empty. -/
theorem cachedIn_insertIfNew (caches : Std.ExtTreeMap Int CirculatingBuffers) (id : Int) :
    cachedIn (caches.insertIfNew id ∅) = cachedIn caches := by
  by_cases hmem : id ∈ caches
  · rw [(caches.insertIfNew_eq_self_iff id ∅).mpr hmem]
  · have hnew : (caches.insertIfNew id ∅)[id]? = some ∅ := by
      rw [Std.ExtTreeMap.getElem?_insertIfNew, if_pos ⟨Std.ReflCmp.compare_self, hmem⟩]
    rw [cachedIn_erase hnew, Std.ExtTreeMap.erase_insertIfNew_self,
      Std.ExtTreeMap.erase_of_notMem caches hmem]
    exact zero_add _

/-! ## What a call does to the caches -/

/-- From a given stock, the buffers imported and not freed at this point of a call are
those in the caches. -/
def Call.Custodial (c : Call) (stock : Multiset BufferHandle) : Prop :=
  hold stock (custodyLog c.events) = some (cachedIn c.session.mCirculatingBuffers)

theorem Call.Custodial.append {c : Call} {stock : Multiset BufferHandle} (h : c.Custodial stock)
    {s : Session} {events : List SessionEvent}
    (hevents : hold (cachedIn c.session.mCirculatingBuffers) (custodyLog events) =
      some (cachedIn s.mCirculatingBuffers)) :
    ({ session := s, events := c.events ++ events } : Call).Custodial stock := by
  rw [Custodial] at h ⊢
  rw [custodyLog_append, hold_append, h]
  exact hevents

/-- Events about other things leave the custody as it is. -/
theorem Call.Custodial.silent {c : Call} {stock : Multiset BufferHandle} (h : c.Custodial stock)
    {s : Session} {events : List SessionEvent}
    (hsilent : ∀ event ∈ events, event.IsCustody = false)
    (hsame : cachedIn s.mCirculatingBuffers = cachedIn c.session.mCirculatingBuffers) :
    ({ session := s, events := c.events ++ events } : Call).Custodial stock := by
  apply h.append
  rw [custodyLog_eq_nil hsilent, hsame]
  exact hold_nil _

theorem Call.Custodial.freeCache {c : Call} {stock : Multiset BufferHandle}
    (h : c.Custodial stock) {id : Int} {cbs : CirculatingBuffers}
    (hcache : c.session.mCirculatingBuffers[id]? = some cbs) :
    ({ session := { c.session with
        mCirculatingBuffers := c.session.mCirculatingBuffers.erase id }
       events := c.events ++ Session.freeBuffers cbs } : Call).Custodial stock := by
  apply h.append
  rw [cachedIn_erase hcache, custodyLog_freeBuffers]
  exact hold_release _ _

theorem RequestStep.custodial {c c' : Call} {stock : Multiset BufferHandle}
    (h : RequestStep c c') (hcustody : c.Custodial stock) : c'.Custodial stock := by
  cases h with
  | reads hreads =>
      obtain ⟨queue, events, rfl, hevents⟩ := hreads
      apply hcustody.silent _ rfl
      intro event hevent
      have hread := hevents event hevent
      cases event <;> first | exact hread.elim | rfl
  | openCache streamId =>
      rw [Call.Custodial] at hcustody ⊢
      rw [cachedIn_insertIfNew]
      exact hcustody
  | @importBuffer streamId cbs bufId imported hcache hnew =>
      apply hcustody.append
      rw [cachedIn_insert, handlesIn_insert hnew, Multiset.cons_add, ← cachedIn_erase hcache]
      rfl
  | fences hevents =>
      apply hcustody.silent _ rfl
      intro event hevent
      have hfence := hevents event hevent
      cases event <;> first | rfl | exact hfence.elim
  | setOverride frameNumber override => cases override <;> exact hcustody
  | submit halRequest =>
      apply hcustody.silent _ rfl
      intro event hevent
      rw [List.mem_singleton.mp hevent]
      rfl
  | _ => exact hcustody

theorem ConfigureStep.custodial {c c' : Call} {stock : Multiset BufferHandle}
    (h : ConfigureStep c c') (hcustody : c.Custodial stock) : c'.Custodial stock := by
  cases h with
  | newStream stream hnew =>
      rw [Call.Custodial] at hcustody ⊢
      rw [cachedIn_insertIfNew]
      exact hcustody
  | cleanup hcache => exact hcustody.freeCache hcache
  | askHal streams =>
      apply hcustody.silent _ rfl
      intro event hevent
      rw [List.mem_singleton.mp hevent]
      rfl
  | reopenCache id =>
      rw [Call.Custodial] at hcustody ⊢
      rw [cachedIn_insertIfNew]
      exact hcustody
  | _ => exact hcustody

theorem Call.Path.custodial {c c' : Call} {stock : Multiset BufferHandle} (h : c.Path c')
    (hcustody : c.Custodial stock) : c'.Custodial stock := by
  induction h with
  | refl => exact hcustody
  | tail _ hstep ih => exact hstep.custodial ih

theorem Call.Configures.custodial {c c' : Call} {stock : Multiset BufferHandle}
    (h : c.Configures c') (hcustody : c.Custodial stock) : c'.Custodial stock := by
  induction h with
  | refl => exact hcustody
  | tail _ hstep ih => exact hstep.custodial ih

namespace Session

theorem updateBufferCaches_custodial (caches : List BufferCache) {s : Session}
    {events : List SessionEvent} {stock : Multiset BufferHandle}
    (h : ({ session := s, events } : Call).Custodial stock) :
    ({ session := (s.updateBufferCaches caches).2
       events := events ++ (s.updateBufferCaches caches).1 } : Call).Custodial stock := by
  induction caches generalizing s events with
  | nil => rwa [updateBufferCaches, List.append_nil]
  | cons cache rest ih =>
      rw [updateBufferCaches_cons, ← List.append_assoc]
      apply ih
      rcases s.removeCached_cases cache with hnone | ⟨cbs, buffer, hcache, hbuffer, hsome⟩
      · rw [hnone, List.append_nil]
        exact h
      · rw [hsome]
        apply h.append
        -- the freed buffer is the one that its cache loses
        have hmem : buffer ∈ cachedIn s.mCirculatingBuffers := by
          rw [cachedIn_erase hcache, handlesIn_erase hbuffer]
          simp
        have hrest : cachedIn (s.mCirculatingBuffers.insert cache.streamId
            (cbs.erase cache.bufferId)) = (cachedIn s.mCirculatingBuffers).erase buffer := by
          rw [cachedIn_insert, cachedIn_erase hcache, handlesIn_erase hbuffer,
            Multiset.cons_add, Multiset.erase_cons_head]
        rw [hrest]
        exact if_pos hmem

/-- All caches together are the list that `close` walks. -/
theorem cachedIn_eq_flatMap (caches : Std.ExtTreeMap Int CirculatingBuffers) :
    cachedIn caches =
      (caches.toList.flatMap fun entry => entry.2.toList.map Prod.snd : List BufferHandle) := by
  rw [cachedIn]
  induction caches.toList with
  | nil => rfl
  | cons entry rest ih =>
      rw [List.map_cons, List.sum_cons, List.flatMap_cons, ← Multiset.coe_add, ih]
      rfl

theorem close_custodial (s : Session) :
    ({ session := s.close.2, events := s.close.1 } : Call).Custodial
      (cachedIn s.mCirculatingBuffers) := by
  rw [close]
  split
  next => exact hold_nil _
  next =>
    have hlog : custodyLog (.closeDevice ::
        s.mCirculatingBuffers.toList.flatMap fun entry => freeBuffers entry.2) =
        (s.mCirculatingBuffers.toList.flatMap fun entry =>
          entry.2.toList.map Prod.snd).map .release := by
      rw [List.map_flatMap]
      induction s.mCirculatingBuffers.toList with
      | nil => rfl
      | cons entry rest ih =>
          have hhead := custodyLog_freeBuffers entry.2
          rw [List.flatMap_cons, List.flatMap_cons, ← hhead, ← ih]
          simp [custodyLog]
    rw [Call.Custodial, hlog, cachedIn_eq_flatMap]
    have hreleased := hold_release (s.mCirculatingBuffers.toList.flatMap fun entry =>
      entry.2.toList.map Prod.snd) 0
    rwa [add_zero] at hreleased

/-- A closed session has no caches. -/
def EmptyIfClosed (s : Session) : Prop := s.mClosed = true → s.mCirculatingBuffers = ∅

theorem updateBufferCaches_empty {s : Session} (h : s.mCirculatingBuffers = ∅)
    (caches : List BufferCache) : (s.updateBufferCaches caches).2.mCirculatingBuffers = ∅ := by
  induction caches with
  | nil => exact h
  | cons cache rest ih =>
      rw [updateBufferCaches_cons]
      rcases s.removeCached_cases cache with hnone | ⟨cbs, buffer, hcache, -, -⟩
      · rw [hnone]
        exact ih
      · rw [h] at hcache
        simp at hcache

theorem EmptyIfClosed.of_same {s s' : Session} (h : s.EmptyIfClosed)
    (hclosed : s'.mClosed = s.mClosed) (hcaches : s.mCirculatingBuffers = ∅ →
      s'.mCirculatingBuffers = ∅) : s'.EmptyIfClosed := by
  intro hclosed'
  exact hcaches (h (hclosed.symm.trans hclosed'))

end Session

/-- Every call keeps the buffers held in the caches. -/
theorem SessionCall.custodial {lib : MetadataLib} {s s' : Session} {op : SessionOp}
    {events : List SessionEvent} (h : SessionCall lib s op events s') :
    ({ session := s', events } : Call).Custodial (cachedIn s.mCirculatingBuffers) := by
  have hstart : ({ session := s, events := [] } : Call).Custodial
      (cachedIn s.mCirculatingBuffers) := hold_nil _
  cases h with
  | refused => exact hstart
  | callback op effects hsame =>
      have hcaches : s'.mCirculatingBuffers = s.mCirculatingBuffers := by
        have hfield := congrArg Session.mCirculatingBuffers hsame
        exact hfield
      apply hstart.silent
      · intro event hevent
        obtain ⟨effect, -, rfl⟩ := List.mem_map.mp hevent
        rfl
      · rw [hcaches]
  | configures hstatus hpath => exact hpath.custodial hstart
  | removesCaches requests cachesToRemove =>
      exact Session.updateBufferCaches_custodial cachesToRemove hstart
  | @requests _ cachesToRemove _ _ c hstatus hpath =>
      exact hpath.custodial (Session.updateBufferCaches_custodial cachesToRemove hstart)
  | flushes ret hstatus => exact hstart.silent (by simp [SessionEvent.IsCustody]) rfl
  | constructs type rawRequest hstatus =>
      exact hstart.silent (by simp [SessionEvent.IsCustody]) rfl
  | signals streamIds streamConfigCounter supported =>
      have hsilent : ∀ event ∈ s.signalStreamFlush streamIds streamConfigCounter supported,
          event.IsCustody = false := by
        rcases s.signalStreamFlush_cases streamIds streamConfigCounter supported
          with hread | hcall
        · simp [hread, SessionEvent.IsCustody]
        · simp [hcall, SessionEvent.IsCustody]
      exact hstart.silent hsilent rfl
  | disconnects =>
      have hsilent : ∀ event ∈ s.disconnect.1, event.IsCustody = false := by
        rw [Session.disconnect]
        cases s.mClosed <;> simp [SessionEvent.IsCustody]
      exact hstart.silent hsilent rfl
  | closes => exact s.close_custodial

/-- Every call but one leaves no caches in a session that is closed. -/
theorem SessionCall.emptyIfClosed {lib : MetadataLib} {s s' : Session} {op : SessionOp}
    {events : List SessionEvent} (h : SessionCall lib s op events s') (hempty : s.EmptyIfClosed)
    (hop : op = .disconnect → s.mClosed = false → s.mCirculatingBuffers = ∅) :
    s'.EmptyIfClosed := by
  -- a session that is open before a guarded call is open after it
  have hstillOpen : ∀ {c : Call}, c.session.initStatus = .ok →
      c.session.SameStanding s' → s'.EmptyIfClosed := by
    intro c hstatus hsame hclosed
    exact absurd hstatus (Session.initStatus_of_closed (hsame.closed.symm.trans hclosed))
  cases h with
  | refused => exact hempty
  | callback op effects hsame =>
      apply hempty.of_same (Session.sameStanding_of_withoutResults hsame).closed
      have hfield := congrArg Session.mCirculatingBuffers hsame
      exact fun hnone => hfield.trans hnone
  | configures hstatus hpath => exact hstillOpen hstatus hpath.sameStanding
  | removesCaches requests cachesToRemove =>
      apply hempty.of_same (s.updateBufferCaches_sameStanding cachesToRemove).closed
      exact fun hnone => Session.updateBufferCaches_empty hnone cachesToRemove
  | requests hstatus hpath => exact hstillOpen hstatus hpath.sameStanding
  | flushes | constructs | signals => exact hempty
  | disconnects =>
      intro _
      cases hclosed : s.mClosed with
      | false => exact hop rfl hclosed
      | true => exact hempty hclosed
  | closes =>
      intro _
      rw [Session.close]
      split
      next hclosed => exact hempty hclosed
      next => rfl

/-! ## Runs -/

namespace SessionState

/-- No buffer is freed that is not held, so that each import is freed at
most once, and a closed session has freed them all. -/
structure FreesImports (s : SessionState) : Prop where
  once : hold 0 (custodyLog s.events) ≠ none
  closed : s.session.mClosed = true →
    hold 0 (custodyLog s.events) = some 0 ∧ s.session.mCirculatingBuffers = ∅

/-- The buffers that were imported and not freed are those in the caches. -/
def InCustody (s : SessionState) : Prop :=
  hold 0 (custodyLog s.events) = some (cachedIn s.session.mCirculatingBuffers)

/-- With the imports in the caches, all are freed exactly if a closed session has no caches. -/
theorem InCustody.frees_iff {s : SessionState} (h : s.InCustody) :
    s.FreesImports ↔ s.session.EmptyIfClosed := by
  constructor
  · exact fun hfrees hclosed => (hfrees.closed hclosed).2
  · intro hempty
    refine ⟨by rw [h]; nofun, fun hclosed => ⟨?_, hempty hclosed⟩⟩
    rw [h, hempty hclosed]
    rfl

theorem InCustody.after {s s' : SessionState} (h : s.InCustody) {events : List SessionEvent}
    (hevents : s'.events = s.events ++ events)
    (hcustody : ({ session := s'.session, events } : Call).Custodial
      (cachedIn s.session.mCirculatingBuffers)) : s'.InCustody := by
  rw [InCustody, hevents, custodyLog_append, hold_append, h]
  exact hcustody

/-- The call does not disconnect an open session that has caches. -/
def DisconnectsEmpty (s : SessionState) : SessionOp → Prop
  | .disconnect => s.stage = .live → s.session.mClosed = false → s.session.mCirculatingBuffers = ∅
  | _ => True

/-- After every call the imports that were not freed are those in the caches. -/
theorem InCustody.next (lib : MetadataLib) {s : SessionState} (h : s.InCustody)
    (op : SessionOp) : (s.next lib op).InCustody := by
  obtain ⟨events, hevents, hcall⟩ := s.next_call lib op
  exact h.after hevents hcall.custodial

/-- One call keeps the property exactly if it does not disconnect an open session that has
caches. -/
theorem freesImports_next_iff (lib : MetadataLib) {s : SessionState} (h : s.InCustody)
    (hfrees : s.FreesImports) (op : SessionOp) :
    (s.next lib op).FreesImports ↔ s.DisconnectsEmpty op := by
  have hempty := h.frees_iff.mp hfrees
  rw [(h.next lib op).frees_iff]
  constructor
  · intro hafter
    cases op with
    | disconnect =>
        intro hlive hopened
        rw [SessionState.next, if_pos hlive] at hafter
        exact hafter rfl
    | _ => trivial
  · intro hop
    by_cases hlive : s.stage = .live
    · obtain ⟨events, -, hcall⟩ := s.next_call lib op
      apply hcall.emptyIfClosed hempty
      rintro rfl
      exact hop hlive
    · rw [SessionState.next, if_neg hlive]
      exact hempty

theorem inCustody_constructed (device : DeviceInfo) (world : SessionWorld) :
    (constructed device world).InCustody ∧ (constructed device world).FreesImports := by
  have hstart : custodyLog (constructed device world).events = [] ∧
      (constructed device world).session.mCirculatingBuffers = ∅ := by
    simp only [constructed, Session.construct, Session.initializeSession]
    split
    · exact ⟨rfl, rfl⟩
    · split <;> exact ⟨rfl, rfl⟩
  have hcustody : (constructed device world).InCustody := by
    rw [InCustody, hstart.1, hstart.2]
    rfl
  exact ⟨hcustody, hcustody.frees_iff.mpr fun _ => hstart.2⟩

/-- Imported buffers are freed exactly once by the time the session is closed, as long as
it is not disconnected while it has caches. -/
theorem freesImports_iff (lib : MetadataLib) (device : DeviceInfo) (world : SessionWorld)
    (ops : List SessionOp) :
    Throughout (next lib) FreesImports (constructed device world) ops ↔
      Admits (next lib) DisconnectsEmpty (constructed device world) ops := by
  obtain ⟨hcustody, hfrees⟩ := inCustody_constructed device world
  apply Throughout.iff_admits InCustody
  · exact fun s op h _ => h.next lib op
  · exact fun s op h hgood => freesImports_next_iff lib h hgood op
  · exact hcustody
  · exact hfrees

/-- A stream is configured, a request brings a buffer, and the camera is unplugged. -/
def disconnectAfterRequest : List SessionOp :=
  let buffer : StreamBuffer := { streamId := 1, bufferId := 5, buffer := some 7 }
  let request : CaptureRequest :=
    { frameNumber := 1, settings := [0, 1], outputBuffers := [buffer] }
  [.configureStreams { streams := [{ id := 1 }] } { ret := statusOk },
    .processCaptureRequest [(.obliging statusOk, request)] [],
    .disconnect]

/-- The buffer is imported and never freed, though the session is closed. -/
theorem disconnectAfterRequest_leaks :
    ¬(run (next .ofPairs) (constructed { deviceVersion := cameraDeviceApiVersion35 } {})
      disconnectAfterRequest).FreesImports := by
  intro hfrees
  have hclosed := (hfrees.closed (by decide +kernel)).1
  have hheld : hold 0 (custodyLog (run (next .ofPairs)
      (constructed { deviceVersion := cameraDeviceApiVersion35 } {})
      disconnectAfterRequest).events) = some {7} := by
    decide +kernel
  rw [hheld] at hclosed
  simp at hclosed

end SessionState

end LgeHardware.Camera
