import LgeHardware.Camera.CaptureRequest

/-! # What each stage of a request can do

One specification for each stage of `processOneCaptureRequest`: when it accepts,
in terms of the session before it, and what it changes whether it accepts or not.
-/

namespace LgeHardware.Camera

open LgeHardware.Foundation RequestM

/-! ## Traces -/

/-- The acquire fences imported in a trace. -/
def importedFences (events : List SessionEvent) : List Int :=
  events.filterMap fun
    | .importFence fd => some fd
    | _ => none

/-- The acquire fences closed in a trace. -/
def closedFences (events : List SessionEvent) : List Int :=
  events.filterMap fun
    | .closeFence fd => some fd
    | _ => none

@[simp] theorem importedFences_append (first second : List SessionEvent) :
    importedFences (first ++ second) = importedFences first ++ importedFences second :=
  List.filterMap_append

@[simp] theorem closedFences_append (first second : List SessionEvent) :
    closedFences (first ++ second) = closedFences first ++ closedFences second :=
  List.filterMap_append

@[simp] theorem importedFences_map_importFence (fds : List Int) :
    importedFences (fds.map .importFence) = fds := by
  simp [importedFences, List.filterMap_map]

@[simp] theorem closedFences_map_importFence (fds : List Int) :
    closedFences (fds.map .importFence) = [] := by
  simp [closedFences, List.filterMap_map]

@[simp] theorem importedFences_map_closeFence (fds : List Int) :
    importedFences (fds.map .closeFence) = [] := by
  simp [importedFences, List.filterMap_map]

@[simp] theorem closedFences_map_closeFence (fds : List Int) :
    closedFences (fds.map .closeFence) = fds := by
  simp [closedFences, List.filterMap_map]

/-- The event is about settings read from the queue. -/
def SessionEvent.IsRead : SessionEvent → Prop
  | .readSettings .. => True
  | _ => False

/-- The event is about an imported buffer. -/
def SessionEvent.IsImport : SessionEvent → Prop
  | .importBuffer _ => True
  | _ => False

/-- Neither a fence import nor a close. -/
def SessionEvent.Fenceless : SessionEvent → Prop
  | .importFence _ => False
  | .closeFence _ => False
  | _ => True

theorem SessionEvent.IsRead.fenceless {event : SessionEvent} (h : event.IsRead) :
    event.Fenceless := by
  cases event <;> first | exact h.elim | trivial

theorem SessionEvent.IsImport.fenceless {event : SessionEvent} (h : event.IsImport) :
    event.Fenceless := by
  cases event <;> first | exact h.elim | trivial

theorem importedFences_of_fenceless {events : List SessionEvent}
    (h : ∀ event ∈ events, event.Fenceless) : importedFences events = [] := by
  rw [importedFences, List.filterMap_eq_nil_iff]
  intro event hevent
  cases event <;> first | rfl | exact (h _ hevent).elim

theorem closedFences_of_fenceless {events : List SessionEvent}
    (h : ∀ event ∈ events, event.Fenceless) : closedFences events = [] := by
  rw [closedFences, List.filterMap_eq_nil_iff]
  intro event hevent
  cases event <;> first | rfl | exact (h _ hevent).elim

/-! ## Settings -/

/-- What a look for settings finds, and what it leaves of the queue. -/
structure Fetched where
  bytes : Option Blob
  queue : BoundedQueue UInt8
  events : List SessionEvent

/-- Settings come from the queue if a size is given, and inline otherwise. -/
def fetch (queue : BoundedQueue UInt8) (frameNumber : Nat) (camera : Option Nat) (size : Int)
    (inline : Blob) : Fetched :=
  if 0 < size then
    match queue.read size.toNat with
    | none => ⟨none, queue, []⟩
    | some (settings, queue) =>
        ⟨some settings, queue, [.readSettings frameNumber camera settings]⟩
  else ⟨some inline, queue, []⟩

/-- The settings convert, and are not null for a first request. -/
def settingsOk (lib : MetadataLib) (first : Bool) (bytes : Option Blob) : Bool :=
  match bytes.bind lib.convertFromAidl with
  | none => false
  | some none => !first
  | some (some _) => true

def Call.fetched (c : Call) (found : Fetched) : Call :=
  { session := { c.session with mRequestMetadataQueue := found.queue }
    events := c.events ++ found.events }

theorem isRead_of_mem_fetch {queue : BoundedQueue UInt8} {frameNumber : Nat}
    {camera : Option Nat} {size : Int} {inline : Blob} {event : SessionEvent}
    (h : event ∈ (fetch queue frameNumber camera size inline).events) : event.IsRead := by
  rw [fetch] at h
  split at h
  · split at h
    · simp at h
    · rw [List.mem_singleton] at h
      subst h
      trivial
  · simp at h

theorem ends_getSession {c : Call} {post : Session → Call → Prop}
    {stop : RequestExit → Call → Prop} :
    Ends getSession c post stop ↔ post c.session c := Iff.rfl

theorem ends_update {c : Call} (f : Session → Session) {post : PUnit → Call → Prop}
    {stop : RequestExit → Call → Prop} :
    Ends (update f) c post stop ↔ post ⟨⟩ { c with session := f c.session } := Iff.rfl

theorem ends_emit {c : Call} (events : List SessionEvent) {post : PUnit → Call → Prop}
    {stop : RequestExit → Call → Prop} :
    Ends (emit events) c post stop ↔ post ⟨⟩ { c with events := c.events ++ events } := Iff.rfl

theorem ends_refuse {α : Type} {c : Call} (status : Status) {post : α → Call → Prop}
    {stop : RequestExit → Call → Prop} :
    Ends (refuse status) c post stop ↔ stop (.status status) c := Iff.rfl

theorem ends_check {c : Call} (condition : Prop) [Decidable condition] (status : Status)
    {post : PUnit → Call → Prop} {stop : RequestExit → Call → Prop} :
    Ends (check condition status) c post stop ↔
      (condition → post ⟨⟩ c) ∧ (¬condition → stop (.status status) c) :=
  ends_ite condition _ _

attribute [simp] ends_getSession ends_update ends_emit ends_refuse ends_check

theorem ends_checkSettings (lib : MetadataLib) (bytes : Option Blob) (c : Call)
    {post : Option Blob → Call → Prop} {stop : RequestExit → Call → Prop}
    (haccept : ∀ settings, bytes.bind lib.convertFromAidl = some settings →
      settingsOk lib c.session.mFirstRequest bytes = true → post settings c)
    (hrefuse : settingsOk lib c.session.mFirstRequest bytes = false →
      stop (.status .illegalArgument) c) :
    Ends (checkSettings (bytes.bind lib.convertFromAidl)) c post stop := by
  simp only [settingsOk] at haccept hrefuse
  rcases hconverted : bytes.bind lib.convertFromAidl with _ | settings
  · exact hrefuse (by rw [hconverted])
  · rw [hconverted] at haccept hrefuse
    simp only [checkSettings, ends_bind, ends_getSession, ends_check, ends_pure]
    cases settings with
    | none =>
        cases hfirst : c.session.mFirstRequest with
        | true => exact ⟨fun h => absurd ⟨rfl, rfl⟩ h, fun _ => hrefuse (by simp [hfirst])⟩
        | false =>
            exact ⟨fun _ => haccept none rfl (by simp [hfirst]), fun h => absurd (by simp) h⟩
    | some packet =>
        exact ⟨fun _ => haccept (some packet) rfl rfl, fun h => absurd (by simp) h⟩

/-- A read of the queue, followed by a use of what was read. -/
theorem ends_readRequestQueue_bind {α : Type} (frameNumber : Nat) (camera : Option Nat)
    {size : Int} (hsize : 0 < size) (inline : Blob) (f : Option Blob → RequestM α) (c : Call)
    {post : α → Call → Prop} {stop : RequestExit → Call → Prop} :
    Ends (readRequestQueue frameNumber camera size.toNat >>= f) c post stop ↔
      Ends (f (fetch c.session.mRequestMetadataQueue frameNumber camera size inline).bytes)
        (c.fetched (fetch c.session.mRequestMetadataQueue frameNumber camera size inline))
        post stop := by
  simp only [ends_bind, readRequestQueue, ends_getSession, fetch, if_pos hsize]
  cases c.session.mRequestMetadataQueue.read size.toNat with
  | none => simp [Call.fetched]
  | some found => simp [Call.fetched]

/-- The settings of a request are read from the queue or the request itself, and checked. -/
theorem readSettings_spec (lib : MetadataLib) (request : CaptureRequest) (c : Call) :
    let found := fetch c.session.mRequestMetadataQueue request.frameNumber none
      request.fmqSettingsSize request.settings
    Ends (readSettings lib request) c
      (fun settings c' => found.bytes.bind lib.convertFromAidl = some settings ∧
        settingsOk lib c.session.mFirstRequest found.bytes = true ∧ c' = c.fetched found)
      (fun e c' => settingsOk lib c.session.mFirstRequest found.bytes = false ∧
        e = .status .illegalArgument ∧ c' = c.fetched found) := by
  intro found
  rw [readSettings]
  by_cases hsize : 0 < request.fmqSettingsSize
  · simp only [if_pos hsize, pure_bind]
    rw [ends_readRequestQueue_bind _ _ hsize request.settings]
    apply ends_checkSettings
    · exact fun _ hsettings hok => ⟨hsettings, hok, rfl⟩
    · exact fun hok => ⟨hok, rfl, rfl⟩
  · have hfound : found = ⟨some request.settings, c.session.mRequestMetadataQueue, []⟩ :=
      if_neg hsize
    have hsame : c.fetched found = c := by simp [hfound, Call.fetched]
    simp only [if_neg hsize, pure_bind]
    apply ends_checkSettings lib (some request.settings)
    · intro settings hsettings hok
      rw [hfound]
      exact ⟨hsettings, hok, (hfound ▸ hsame).symm⟩
    · exact fun hok => ⟨by rw [hfound]; exact hok, rfl, hsame.symm⟩

/-- The `i`-th physical settings are inline, or `physicalFmq[i]` exists for them. -/
def PhysicalCameraSetting.Addressable (setting : PhysicalCameraSetting) (i numFmq : Nat) : Prop :=
  setting.fmqSettingsSize = 0 ∨ 0 < setting.fmqSettingsSize ∧ numFmq = i

instance (setting : PhysicalCameraSetting) (i numFmq : Nat) :
    Decidable (setting.Addressable i numFmq) :=
  inferInstanceAs (Decidable (_ ∨ _))

/-- The physical camera settings from the `i`-th on are addressable and pass the checks. -/
def physicalAccepted (lib : MetadataLib) (first : Bool) (frameNumber : Nat) :
    BoundedQueue UInt8 → Nat → Nat → List PhysicalCameraSetting → Bool
  | _, _, _, [] => true
  | queue, i, numFmq, setting :: rest =>
      let found := fetch queue frameNumber (some i) setting.fmqSettingsSize setting.settings
      decide (setting.Addressable i numFmq) && settingsOk lib first found.bytes &&
        physicalAccepted lib first frameNumber found.queue (i + 1)
          (if setting.fmqSettingsSize = 0 then numFmq else numFmq + 1) rest

/-- The same for the settings of a physical camera. Where its index is out of range the read is
undefined. -/
theorem readPhysicalSetting_spec (lib : MetadataLib) (frameNumber i numFmq : Nat)
    (setting : PhysicalCameraSetting) (c : Call) :
    let found := fetch c.session.mRequestMetadataQueue frameNumber (some i)
      setting.fmqSettingsSize setting.settings
    Ends (readPhysicalSetting lib frameNumber i numFmq setting) c
      (fun _ c' => setting.Addressable i numFmq ∧
        settingsOk lib c.session.mFirstRequest found.bytes = true ∧ c' = c.fetched found)
      (fun e c' =>
        (setting.Addressable i numFmq ∧
          settingsOk lib c.session.mFirstRequest found.bytes = false ∧
          e = .status .illegalArgument ∧ c' = c.fetched found) ∨
        (¬setting.Addressable i numFmq ∧ e = .undefined ∧ c' = c)) := by
  intro found
  rw [readPhysicalSetting]
  by_cases hinline : setting.fmqSettingsSize = 0
  · have hfound : found = ⟨some setting.settings, c.session.mRequestMetadataQueue, []⟩ :=
      if_neg (by omega)
    have hsame : c.fetched found = c := by simp [hfound, Call.fetched]
    simp only [if_pos hinline, pure_bind]
    apply ends_checkSettings lib (some setting.settings)
    · exact fun _ _ hok => ⟨.inl hinline, by rw [hfound]; exact hok, hsame.symm⟩
    · exact fun hok => .inl ⟨.inl hinline, by rw [hfound]; exact hok, rfl, hsame.symm⟩
  · simp only [if_neg hinline]
    by_cases hbad : setting.fmqSettingsSize < 0 ∨ numFmq ≠ i
    · have hnot : ¬setting.Addressable i numFmq := by
        simp only [PhysicalCameraSetting.Addressable]
        omega
      simp only [if_pos hbad, ends_bind, ends_throw]
      exact .inr ⟨hnot, trivial, trivial⟩
    · have hsize : 0 < setting.fmqSettingsSize := by omega
      have haddressable : setting.Addressable i numFmq := .inr ⟨hsize, by omega⟩
      simp only [if_neg hbad, pure_bind]
      rw [ends_readRequestQueue_bind _ _ hsize setting.settings]
      apply ends_checkSettings
      · exact fun _ _ hok => ⟨haddressable, hok, rfl⟩
      · exact fun hok => .inl ⟨haddressable, hok, rfl, rfl⟩

/-- All that happened between two points of a call are reads of the request queue. -/
def Call.Reads (c c' : Call) : Prop :=
  ∃ queue events, c' = c.fetched ⟨none, queue, events⟩ ∧ ∀ event ∈ events, event.IsRead

theorem Call.Reads.refl (c : Call) : c.Reads c :=
  ⟨c.session.mRequestMetadataQueue, [], by simp [Call.fetched], by simp⟩

theorem Call.Reads.trans {c c' c'' : Call} (h : c.Reads c') (h' : c'.Reads c'') :
    c.Reads c'' := by
  obtain ⟨_, events, rfl, hevents⟩ := h
  obtain ⟨queue, events', rfl, hevents'⟩ := h'
  refine ⟨queue, events ++ events', by simp [Call.fetched], ?_⟩
  intro event hevent
  rcases List.mem_append.mp hevent with hfirst | hsecond
  · exact hevents event hfirst
  · exact hevents' event hsecond

theorem Call.reads_fetched (c : Call) (queue : BoundedQueue UInt8) (frameNumber : Nat)
    (camera : Option Nat) (size : Int) (inline : Blob) :
    c.Reads (c.fetched (fetch queue frameNumber camera size inline)) :=
  ⟨_, _, rfl, fun _ => isRead_of_mem_fetch⟩

/-- The loop over the physical camera settings reads, and passes exactly if all settings
are accepted. -/
theorem readPhysicalSettings_spec (lib : MetadataLib) (frameNumber : Nat)
    (settings : List PhysicalCameraSetting) (i numFmq : Nat) (c : Call) :
    Ends (readPhysicalSettings lib frameNumber i numFmq settings) c
      (fun _ c' => physicalAccepted lib c.session.mFirstRequest frameNumber
        c.session.mRequestMetadataQueue i numFmq settings = true ∧ c.Reads c')
      (fun _ c' => physicalAccepted lib c.session.mFirstRequest frameNumber
        c.session.mRequestMetadataQueue i numFmq settings = false ∧ c.Reads c') := by
  induction settings generalizing i numFmq c with
  | nil => exact ⟨rfl, .refl c⟩
  | cons setting rest ih =>
      simp only [readPhysicalSettings, ends_bind, ends_pure, physicalAccepted]
      refine (readPhysicalSetting_spec lib frameNumber i numFmq setting c).mono ?_ ?_
      · rintro _ c' ⟨haddressable, hok, rfl⟩
        refine (ih (i + 1) _ _).mono ?_ ?_
        · rintro _ c'' ⟨hrest, hreads⟩
          refine ⟨?_, (c.reads_fetched _ _ _ _ _).trans hreads⟩
          simpa [Call.fetched, haddressable, hok] using hrest
        · rintro _ c'' ⟨hrest, hreads⟩
          refine ⟨?_, (c.reads_fetched _ _ _ _ _).trans hreads⟩
          simpa [Call.fetched, haddressable, hok] using hrest
      · rintro e c' (⟨haddressable, hok, _, rfl⟩ | ⟨hnot, _, rfl⟩)
        · exact ⟨by simp [hok], c.reads_fetched _ _ _ _ _⟩
        · exact ⟨by simp [hnot], .refl _⟩

/-! ## Buffers and fences -/

theorem forall_getElem?_cons {α : Type} (P : Nat → α → Prop) (i : Nat) (a : α) (l : List α) :
    (∀ j b, (a :: l)[j]? = some b → P (i + j) b) ↔
      P i a ∧ ∀ j b, l[j]? = some b → P (i + 1 + j) b := by
  constructor
  · refine fun h => ⟨h 0 a rfl, fun j b hj => ?_⟩
    have hsucc := h (j + 1) b (by simpa using hj)
    rwa [show i + (j + 1) = i + 1 + j by omega] at hsucc
  · rintro ⟨hhead, htail⟩ (_ | j) b hj
    · cases hj
      exact hhead
    · have hsucc := htail j b (by simpa using hj)
      rwa [show i + 1 + j = i + (j + 1) by omega] at hsucc

/-- A buffer that `importBuffer` takes: an empty one, one in the cache of its stream, or
one that the importer takes. -/
def Session.Importable (s : Session) (world : RequestWorld) (i : Nat) (buffer : StreamBuffer) :
    Prop :=
  (buffer.buffer = none ∧ buffer.bufferId = bufferIdNoBuffer) ∨
    buffer.bufferId ∈ s.mCirculatingBuffers.getD buffer.streamId ∅ ∨
    (world.importBuffer i buffer.buffer).isSome

instance (s : Session) (world : RequestWorld) (i : Nat) (buffer : StreamBuffer) :
    Decidable (s.Importable world i buffer) :=
  inferInstanceAs (Decidable (_ ∨ _ ∨ _))

/-- All that happened between two points of a call are imports of buffers. -/
structure Call.Imports (c c' : Call) (streamIds : List Int) : Prop where
  session : c'.session = { c.session with mCirculatingBuffers := c'.session.mCirculatingBuffers }
  others : ∀ streamId ∉ streamIds,
    c'.session.mCirculatingBuffers[streamId]? = c.session.mCirculatingBuffers[streamId]?
  grows : ∀ streamId, ∀ bufferId ∈ c.session.mCirculatingBuffers.getD streamId ∅,
    bufferId ∈ c'.session.mCirculatingBuffers.getD streamId ∅
  events : ∃ events, c'.events = c.events ++ events ∧ ∀ event ∈ events, event.IsImport

theorem Call.Imports.refl (c : Call) (streamIds : List Int) : c.Imports c streamIds :=
  ⟨rfl, fun _ _ => rfl, fun _ _ h => h, [], by simp, by simp⟩

theorem Call.Imports.trans {c c' c'' : Call} {first second : List Int}
    (h : c.Imports c' first) (h' : c'.Imports c'' second) : c.Imports c'' (first ++ second) := by
  obtain ⟨events, hevents, hall⟩ := h.events
  obtain ⟨events', hevents', hall'⟩ := h'.events
  refine ⟨?_, ?_, ?_, events ++ events', by rw [hevents', hevents, List.append_assoc], ?_⟩
  · rw [h'.session, h.session]
  · intro streamId hnot
    rw [List.mem_append, not_or] at hnot
    rw [h'.others _ hnot.2, h.others _ hnot.1]
  · exact fun streamId bufferId hmem => h'.grows _ _ (h.grows _ _ hmem)
  · intro event hevent
    rcases List.mem_append.mp hevent with hfirst | hsecond
    · exact hall event hfirst
    · exact hall' event hsecond

/-- A buffer is imported if it can be, and either way only the cache of its stream grows. -/
theorem importBuffer_spec (world : RequestWorld) (i : Nat) (buffer : StreamBuffer)
    (allowEmptyBuf : Bool) (hallow : allowEmptyBuf = false → buffer.bufferId ≠ bufferIdNoBuffer)
    (c : Call) :
    Ends (importBuffer world i buffer.streamId buffer.bufferId buffer.buffer allowEmptyBuf) c
      (fun _ c' => c.session.Importable world i buffer ∧ c.Imports c' [buffer.streamId])
      (fun e c' => ¬c.session.Importable world i buffer ∧ e = .status .internalError ∧
        c.Imports c' [buffer.streamId]) := by
  rw [importBuffer]
  by_cases hempty : buffer.buffer = none ∧ buffer.bufferId = bufferIdNoBuffer
  · rw [if_pos hempty]
    cases allowEmptyBuf with
    | true => exact ⟨.inl hempty, .refl _ _⟩
    | false => exact absurd hempty.2 (hallow rfl)
  · simp only [if_neg hempty, ends_bind, ends_update, ends_getSession]
    -- the lookup with `operator[]` creates the cache of the stream, an empty one
    have hcaches := fun id =>
      c.session.mCirculatingBuffers.getD_insertIfNew_default buffer.streamId id ∅
    have hgrows : ∀ streamId, ∀ bufferId ∈ c.session.mCirculatingBuffers.getD streamId ∅,
        bufferId ∈
          (c.session.mCirculatingBuffers.insertIfNew buffer.streamId ∅).getD streamId ∅ := by
      intro streamId bufferId hmem
      rwa [hcaches]
    have hothers : ∀ streamId ∉ [buffer.streamId],
        (c.session.mCirculatingBuffers.insertIfNew buffer.streamId ∅)[streamId]? =
          c.session.mCirculatingBuffers[streamId]? := by
      intro streamId hnot
      rw [Std.ExtTreeMap.getElem?_insertIfNew, if_neg]
      rintro ⟨heq, -⟩
      exact hnot (by simp [Std.LawfulEqCmp.compare_eq_iff_eq.mp heq])
    rw [hcaches]
    rcases hcached : (c.session.mCirculatingBuffers.getD buffer.streamId ∅)[buffer.bufferId]?
      with _ | imported
    · have hnot : buffer.bufferId ∉ c.session.mCirculatingBuffers.getD buffer.streamId ∅ :=
        Std.ExtTreeMap.notMem_of_getElem? hcached
      rcases himport : world.importBuffer i buffer.buffer with _ | imported
      · refine ⟨?_, rfl, rfl, hothers, hgrows, [], by simp, by simp⟩
        simp [Session.Importable, hempty, hnot, himport]
      · refine ⟨.inr (.inr (by simp [himport])), rfl, ?_, ?_, [.importBuffer imported], rfl, ?_⟩
        · intro streamId hother
          rw [Std.ExtTreeMap.getElem?_insert_of_eq, if_neg]
          · exact hothers streamId hother
          · rintro rfl
            simp at hother
        · intro streamId bufferId hmem
          rw [Std.ExtTreeMap.getD_insert]
          split
          next heq =>
            rw [← Std.LawfulEqCmp.compare_eq_iff_eq.mp heq] at hmem
            exact Std.ExtTreeMap.mem_insert.mpr (.inr hmem)
          next => exact hgrows streamId bufferId hmem
        · simp [SessionEvent.IsImport]
    · have hmem : buffer.bufferId ∈ c.session.mCirculatingBuffers.getD buffer.streamId ∅ :=
        Std.ExtTreeMap.mem_of_getElem? hcached
      exact ⟨.inr (.inl hmem), rfl, hothers, hgrows, [], by simp, by simp⟩

/-- Imports on other streams do not matter to whether a buffer can be imported. -/
theorem Call.Imports.importable_iff {c c' : Call} {streamIds : List Int}
    (h : c.Imports c' streamIds) {world : RequestWorld} {i : Nat} {buffer : StreamBuffer}
    (hother : buffer.streamId ∉ streamIds) :
    c'.session.Importable world i buffer ↔ c.session.Importable world i buffer := by
  simp only [Session.Importable, Std.ExtTreeMap.getD_eq_getD_getElem?, h.others _ hother]

/-- What could be imported before can be imported after. -/
theorem Call.Imports.importable {c c' : Call} {streamIds : List Int} (h : c.Imports c' streamIds)
    {world : RequestWorld} {i : Nat} {buffer : StreamBuffer}
    (himportable : c.session.Importable world i buffer) :
    c'.session.Importable world i buffer := by
  rcases himportable with hempty | hcached | himport
  · exact .inl hempty
  · exact .inr (.inl (h.grows _ _ hcached))
  · exact .inr (.inr himport)

/-- The loop over the buffers fails only if some buffer cannot be imported. If it passes
and the buffers are on different streams, all of them can. -/
theorem importBuffers_spec (world : RequestWorld) (numOutputBufs i : Nat)
    (buffers : List StreamBuffer)
    (hinput : ∀ j buffer, buffers[j]? = some buffer → i + j = numOutputBufs →
      buffer.bufferId ≠ bufferIdNoBuffer) (c : Call) :
    Ends (importBuffers world numOutputBufs true i buffers) c
      (fun bufPtrs c' => bufPtrs.length = buffers.length ∧
        ((buffers.map (·.streamId)).Nodup →
          ∀ j buffer, buffers[j]? = some buffer → c.session.Importable world (i + j) buffer) ∧
        c.Imports c' (buffers.map (·.streamId)))
      (fun e c' =>
        (¬∀ j buffer, buffers[j]? = some buffer → c.session.Importable world (i + j) buffer) ∧
        e = .status .internalError ∧ c.Imports c' (buffers.map (·.streamId))) := by
  induction buffers generalizing i c with
  | nil => exact ⟨rfl, by simp, .refl c _⟩
  | cons buffer rest ih =>
      simp only [importBuffers, ends_bind, ends_pure]
      refine (importBuffer_spec world i buffer _ ?_ c).mono ?_ ?_
      · split
        next heq => exact fun _ => hinput 0 buffer rfl heq
        next => simp
      · rintro bufPtr c' ⟨hfirst, himports⟩
        rw [forall_getElem?_cons (c.session.Importable world)]
        refine (ih (i + 1) (fun j b hj heq => ?_) c').mono ?_ ?_
        · exact hinput (j + 1) b (by simpa using hj) (by omega)
        · rintro bufPtrs c'' ⟨hlength, himportable, himports'⟩
          refine ⟨by simp [hlength], fun hstreams => ⟨hfirst, fun j b hj => ?_⟩,
            himports.trans himports'⟩
          rw [List.map_cons, List.nodup_cons] at hstreams
          rw [← himports.importable_iff]
          · exact himportable hstreams.2 j b hj
          · rw [List.mem_singleton]
            exact fun heq => hstreams.1 (heq ▸ List.mem_map_of_mem (List.mem_of_getElem? hj))
        · rintro e c'' ⟨hnot, he, himports'⟩
          refine ⟨fun h => hnot fun j b hj => ?_, he, himports.trans himports'⟩
          exact himports.importable (h.2 j b hj)
      · rintro e c' ⟨hnot, he, himports⟩
        refine ⟨fun h => hnot (h 0 buffer rfl), he, ?_⟩
        exact himports.trans (Call.Imports.refl c' (rest.map (·.streamId)))

/-- The fences of the buffers from the `i`-th on can be imported. -/
def FencesImportable (world : RequestWorld) (i : Nat) (buffers : List StreamBuffer) : Prop :=
  ∀ j buffer, buffers[j]? = some buffer →
    (world.importFence (i + j) buffer.acquireFence).isSome = true

/-- The fences are imported in order, up to the first that cannot be. -/
theorem importFences_spec (world : RequestWorld) (buffers : List StreamBuffer)
    (done : List Int) (c : Call) :
    Ends (importFences world done buffers) c
      (fun allFences c' => FencesImportable world done.length buffers ∧
        ∃ fds, allFences = done ++ fds ∧ fds.length = buffers.length ∧
          c' = { c with events := c.events ++ fds.map .importFence })
      (fun e c' => ¬FencesImportable world done.length buffers ∧
        e = .status .internalError ∧
        ∃ fds, c' = { c with events :=
          c.events ++ fds.map .importFence ++ (done ++ fds).map .closeFence }) := by
  induction buffers generalizing done c with
  | nil => exact ⟨by simp [FencesImportable], [], by simp, rfl, by simp⟩
  | cons buffer rest ih =>
      rw [importFences, FencesImportable, forall_getElem?_cons fun i (b : StreamBuffer) =>
        (world.importFence i b.acquireFence).isSome = true]
      rcases hfence : world.importFence done.length buffer.acquireFence with _ | fd
      · simp only [cleanupInflightFences, ends_bind, ends_emit, ends_refuse]
        exact ⟨by simp, trivial, [], by simp⟩
      · simp only [ends_bind, ends_emit]
        have hlength : (done ++ [fd]).length = done.length + 1 := by simp
        refine (ih (done ++ [fd]) _).mono ?_ ?_
        · rintro allFences c' ⟨hall, fds, rfl, hfds, rfl⟩
          rw [hlength] at hall
          exact ⟨⟨by simp, hall⟩, fd :: fds, by simp, by simp [hfds], by simp⟩
        · rintro e c' ⟨hnot, he, fds, rfl⟩
          rw [hlength] at hnot
          exact ⟨fun h => hnot h.2, he, fd :: fds, by simp⟩

/-! ## The whole request -/

/-- The main settings of a request, as the session finds them. -/
def Session.mainSettings (s : Session) (request : CaptureRequest) : Fetched :=
  fetch s.mRequestMetadataQueue request.frameNumber none request.fmqSettingsSize request.settings

/-- All buffers of the request can be imported. -/
def BuffersImportable (s : Session) (world : RequestWorld) (request : CaptureRequest) : Prop :=
  ∀ j buffer, request.buffers[j]? = some buffer → s.Importable world (0 + j) buffer

/-- The request passes all checks before its buffers are recorded as in flight. -/
structure RequestAdmitted (lib : MetadataLib) (s : Session) (world : RequestWorld)
    (request : CaptureRequest) : Prop where
  opened : s.initStatus = .ok
  settings : settingsOk lib s.mFirstRequest (s.mainSettings request).bytes = true
  outputs : request.outputBuffers ≠ []
  buffers : BuffersImportable s world request
  fences : FencesImportable world 0 request.buffers

instance (s : Session) (world : RequestWorld) (request : CaptureRequest) :
    Decidable (BuffersImportable s world request) :=
  decidable_of_iff
    (∀ j (h : j < request.buffers.length), s.Importable world (0 + j) request.buffers[j])
    ⟨fun hall j buffer hj => by
        obtain ⟨hlt, rfl⟩ := List.getElem?_eq_some_iff.mp hj
        exact hall j hlt,
      fun hall j hlt => hall j _ (List.getElem?_eq_getElem hlt)⟩

instance (world : RequestWorld) (i : Nat) (buffers : List StreamBuffer) :
    Decidable (FencesImportable world i buffers) :=
  decidable_of_iff
    (∀ j (h : j < buffers.length),
      (world.importFence (i + j) buffers[j].acquireFence).isSome = true)
    ⟨fun hall j buffer hj => by
        obtain ⟨hlt, rfl⟩ := List.getElem?_eq_some_iff.mp hj
        exact hall j hlt,
      fun hall j hlt => hall j _ (List.getElem?_eq_getElem hlt)⟩

instance (lib : MetadataLib) (s : Session) (world : RequestWorld) (request : CaptureRequest) :
    Decidable (RequestAdmitted lib s world request) :=
  decidable_of_iff
    (s.initStatus = .ok ∧ settingsOk lib s.mFirstRequest (s.mainSettings request).bytes = true ∧
      request.outputBuffers ≠ [] ∧ BuffersImportable s world request ∧
      FencesImportable world 0 request.buffers)
    ⟨fun ⟨hopened, hsettings, houtputs, hbuffers, hfences⟩ =>
        ⟨hopened, hsettings, houtputs, hbuffers, hfences⟩,
      fun h => ⟨h.opened, h.settings, h.outputs, h.buffers, h.fences⟩⟩

/-- The physical camera settings of the request are accepted, once the main ones are read. -/
def PhysicalAccepted (lib : MetadataLib) (s : Session) (request : CaptureRequest) : Prop :=
  physicalAccepted lib s.mFirstRequest request.frameNumber (s.mainSettings request).queue 0 0
    request.physicalCameraSettings = true

instance (lib : MetadataLib) (s : Session) (request : CaptureRequest) :
    Decidable (PhysicalAccepted lib s request) :=
  inferInstanceAs (Decidable (_ = true))

/-- Nothing but the request queue and the buffer caches differs. -/
def Session.SameRecords (s s' : Session) : Prop :=
  s' = { s with
    mRequestMetadataQueue := s'.mRequestMetadataQueue
    mCirculatingBuffers := s'.mCirculatingBuffers }

theorem Session.SameRecords.trans {s s' s'' : Session} (h : s.SameRecords s')
    (h' : s'.SameRecords s'') : s.SameRecords s'' := by
  rw [SameRecords] at h h' ⊢
  rw [h', h]

theorem Session.SameRecords.mFirstRequest {s s' : Session} (h : s.SameRecords s') :
    s'.mFirstRequest = s.mFirstRequest := by
  rw [SameRecords] at h
  rw [h]

/-- The fences that a part of a call adds to the trace. -/
structure Call.AddsFences (c c' : Call) (imported closed : List Int) : Prop where
  imported : importedFences c'.events = importedFences c.events ++ imported
  closed : closedFences c'.events = closedFences c.events ++ closed

theorem Call.AddsFences.trans {c c' c'' : Call} {imported closed imported' closed' : List Int}
    (h : c.AddsFences c' imported closed) (h' : c'.AddsFences c'' imported' closed') :
    c.AddsFences c'' (imported ++ imported') (closed ++ closed') :=
  ⟨by rw [h'.imported, h.imported, List.append_assoc],
    by rw [h'.closed, h.closed, List.append_assoc]⟩

theorem Call.addsFences_of_fenceless {c c' : Call} {events : List SessionEvent}
    (h : c'.events = c.events ++ events) (hall : ∀ event ∈ events, event.Fenceless) :
    c.AddsFences c' [] [] :=
  ⟨by rw [h, importedFences_append, importedFences_of_fenceless hall],
    by rw [h, closedFences_append, closedFences_of_fenceless hall]⟩

theorem Call.Reads.sameRecords {c c' : Call} (h : c.Reads c') :
    c.session.SameRecords c'.session := by
  obtain ⟨queue, events, rfl, -⟩ := h
  rfl

theorem Call.Reads.addsFences {c c' : Call} (h : c.Reads c') : c.AddsFences c' [] [] := by
  obtain ⟨queue, events, rfl, hevents⟩ := h
  exact Call.addsFences_of_fenceless rfl fun event hevent => (hevents event hevent).fenceless

theorem Call.Imports.sameRecords {c c' : Call} {streamIds : List Int}
    (h : c.Imports c' streamIds) : c.session.SameRecords c'.session := by
  rw [Session.SameRecords, h.session]

theorem Call.Imports.addsFences {c c' : Call} {streamIds : List Int}
    (h : c.Imports c' streamIds) : c.AddsFences c' [] [] := by
  obtain ⟨events, hevents, hall⟩ := h.events
  exact Call.addsFences_of_fenceless hevents fun event hevent => (hall event hevent).fenceless

namespace Session

theorem addInflightBuffers_mInflightBuffers (s : Session) (frameNumber : Nat)
    (buffers : List Camera3StreamBuffer) :
    (s.addInflightBuffers frameNumber buffers).mInflightBuffers =
      s.mInflightBuffers.insertAll
        (buffers.map fun buffer => ((buffer.stream, frameNumber), buffer)) := by
  induction buffers generalizing s with
  | nil => rfl
  | cons buffer rest ih => exact ih (s.addInflightBuffer frameNumber buffer)

/-- The session with the parts cleared that preparing a request touches. -/
def withoutRecords (s : Session) : Session :=
  { s with
    mRequestMetadataQueue := .empty 0
    mCirculatingBuffers := ∅
    mInflightBuffers := ∅
    mInflightAETriggerOverrides := ∅
    mStreamMap := ∅
    mPhysicalCameraIdMap := ∅ }

@[simp] theorem addInflightBuffers_withoutRecords (s : Session) (frameNumber : Nat)
    (buffers : List Camera3StreamBuffer) :
    (s.addInflightBuffers frameNumber buffers).withoutRecords = s.withoutRecords := by
  induction buffers generalizing s with
  | nil => rfl
  | cons buffer rest ih => exact ih (s.addInflightBuffer frameNumber buffer)

@[simp] theorem addInflightBuffers_mInflightAETriggerOverrides (s : Session)
    (frameNumber : Nat) (buffers : List Camera3StreamBuffer) :
    (s.addInflightBuffers frameNumber buffers).mInflightAETriggerOverrides =
      s.mInflightAETriggerOverrides := by
  induction buffers generalizing s with
  | nil => rfl
  | cons buffer rest ih => exact ih (s.addInflightBuffer frameNumber buffer)

@[simp] theorem addInflightBuffers_mRequestMetadataQueue (s : Session) (frameNumber : Nat)
    (buffers : List Camera3StreamBuffer) :
    (s.addInflightBuffers frameNumber buffers).mRequestMetadataQueue =
      s.mRequestMetadataQueue := by
  induction buffers generalizing s with
  | nil => rfl
  | cons buffer rest ih => exact ih (s.addInflightBuffer frameNumber buffer)

@[simp] theorem setOverride_mRequestMetadataQueue (s : Session) (frameNumber : Nat)
    (override : Option (Blob × AETriggerCancelOverride)) :
    (s.setOverride frameNumber override).mRequestMetadataQueue = s.mRequestMetadataQueue := by
  cases override <;> rfl

@[simp] theorem setOverride_withoutRecords (s : Session) (frameNumber : Nat)
    (override : Option (Blob × AETriggerCancelOverride)) :
    (s.setOverride frameNumber override).withoutRecords = s.withoutRecords := by
  cases override <;> rfl

@[simp] theorem setOverride_mInflightBuffers (s : Session) (frameNumber : Nat)
    (override : Option (Blob × AETriggerCancelOverride)) :
    (s.setOverride frameNumber override).mInflightBuffers = s.mInflightBuffers := by
  cases override <;> rfl

@[simp] theorem setOverride_mStreamMap (s : Session) (frameNumber : Nat)
    (override : Option (Blob × AETriggerCancelOverride)) :
    (s.setOverride frameNumber override).mStreamMap = s.mStreamMap := by
  cases override <;> rfl

/-- Recording a buffer makes the entry of a new stream with the id it is read with. -/
theorem addInflightBuffer_streamId (s : Session) (frameNumber : Nat)
    (buffer : Camera3StreamBuffer) (id : Int) :
    (s.addInflightBuffer frameNumber buffer).streamId id = s.streamId id := by
  simp only [streamId, addInflightBuffer, Std.ExtTreeMap.getD_insert,
    Std.LawfulEqCmp.compare_eq_iff_eq]
  split
  next heq => rw [heq]
  next => rfl

theorem addInflightBuffers_streamId (s : Session) (frameNumber : Nat)
    (buffers : List Camera3StreamBuffer) (id : Int) :
    (s.addInflightBuffers frameNumber buffers).streamId id = s.streamId id := by
  induction buffers generalizing s with
  | nil => rfl
  | cons buffer rest ih =>
      exact (ih (s.addInflightBuffer frameNumber buffer)).trans
        (s.addInflightBuffer_streamId frameNumber buffer id)

theorem mem_addInflightBuffers_mStreamMap (s : Session) (frameNumber : Nat)
    (buffers : List Camera3StreamBuffer) (id : Int) :
    id ∈ (s.addInflightBuffers frameNumber buffers).mStreamMap ↔
      id ∈ s.mStreamMap ∨ id ∈ buffers.map (·.stream) := by
  induction buffers generalizing s with
  | nil => simp [addInflightBuffers]
  | cons buffer rest ih =>
      have hrest := ih (s.addInflightBuffer frameNumber buffer)
      have hone : id ∈ (s.addInflightBuffer frameNumber buffer).mStreamMap ↔
          id ∈ s.mStreamMap ∨ id = buffer.stream := Std.ExtTreeMap.mem_insert_iff
      rw [List.map_cons, List.mem_cons, ← or_assoc, ← hone]
      exact hrest

end Session

theorem CaptureRequest.frame_of_mem_inflightKeys {request : CaptureRequest} {key : Int × Nat}
    (h : key ∈ request.inflightKeys) : key.2 = request.frameNumber := by
  obtain ⟨buffer, -, rfl⟩ := List.mem_map.mp h
  rfl

/-- What recording a request changes. -/
structure Registered (request : CaptureRequest) (s s' : Session) (pending : PendingRequest) :
    Prop where
  sameRequest : pending.request = request
  buffers : ∃ entries, s'.mInflightBuffers = s.mInflightBuffers.insertAll entries ∧
    ∀ key, key ∈ entries.map Prod.fst ↔ key ∈ request.inflightKeys
  overrides : ∃ override, s'.mInflightAETriggerOverrides =
    if pending.aeCancelTriggerNeeded then
      s.mInflightAETriggerOverrides.insert request.frameNumber override
    else s.mInflightAETriggerOverrides
  streamIds : ∀ id, s'.streamId id = s.streamId id
  streams : ∀ id, id ∈ s'.mStreamMap ↔
    id ∈ s.mStreamMap ∨ id ∈ request.buffers.map (·.streamId)
  others : s'.withoutRecords = s.withoutRecords

theorem Registered.mFirstRequest {request : CaptureRequest} {s s' : Session}
    {pending : PendingRequest} (h : Registered request s s' pending) :
    s'.mFirstRequest = s.mFirstRequest := by
  have hfirst := congrArg Session.mFirstRequest h.others
  exact hfirst

theorem Registered.boosts {request : CaptureRequest} {s s' : Session} {pending : PendingRequest}
    (h : Registered request s s' pending) :
    s'.mInflightRawBoostPresent = s.mInflightRawBoostPresent := by
  have hsame := congrArg Session.mInflightRawBoostPresent h.others
  exact hsame

theorem Registered.derives {request : CaptureRequest} {s s' : Session} {pending : PendingRequest}
    (h : Registered request s s' pending) :
    s'.mDerivePostRawSensKey = s.mDerivePostRawSensKey := by
  have hsame := congrArg Session.mDerivePostRawSensKey h.others
  exact hsame

theorem Registered.mem_buffers {request : CaptureRequest} {s s' : Session}
    {pending : PendingRequest} (h : Registered request s s' pending) (key : Int × Nat) :
    key ∈ s'.mInflightBuffers ↔ key ∈ s.mInflightBuffers ∨ key ∈ request.inflightKeys := by
  obtain ⟨entries, hentries, hkeys⟩ := h.buffers
  rw [hentries, Std.ExtTreeMap.mem_insertAll, hkeys]

theorem Registered.mem_overrides {request : CaptureRequest} {s s' : Session}
    {pending : PendingRequest} (h : Registered request s s' pending) (frameNumber : Nat) :
    frameNumber ∈ s'.mInflightAETriggerOverrides ↔ frameNumber ∈ s.mInflightAETriggerOverrides ∨
      pending.aeCancelTriggerNeeded = true ∧ frameNumber = request.frameNumber := by
  obtain ⟨override, hoverride⟩ := h.overrides
  rw [hoverride]
  split
  next hneeded =>
    rw [Std.ExtTreeMap.mem_insert_iff, hneeded]
    simp
  next hneeded => simp [hneeded]

/-- An override is recorded under its frame, if there is one. -/
theorem setOverride_spec (s : Session) (frameNumber : Nat)
    (override : Option (Blob × AETriggerCancelOverride)) :
    ∃ value, (s.setOverride frameNumber override).mInflightAETriggerOverrides =
      if override.isSome then s.mInflightAETriggerOverrides.insert frameNumber value
      else s.mInflightAETriggerOverrides := by
  cases override with
  | none => exact ⟨⟨false, 0, false, 0⟩, rfl⟩
  | some override => exact ⟨override.2, rfl⟩

/-- A map that forgets the second list of a zip. -/
theorem map_zipWith_left {α β γ δ : Type} {f : α → β → γ} {g : γ → δ} {h : α → δ}
    (hg : ∀ a b, g (f a b) = h a) {l : List α} {l' : List β} (hlength : l.length ≤ l'.length) :
    (List.zipWith f l l').map g = l.map h := by
  induction l generalizing l' with
  | nil => rfl
  | cons a rest ih =>
      cases l' with
      | nil => simp at hlength
      | cons b rest' =>
          simp only [List.zipWith_cons_cons, List.map_cons, hg]
          rw [ih (by simpa using hlength)]

theorem CaptureRequest.map_stream_halBuffers (request : CaptureRequest)
    {allBufPtrs : List (Option BufferHandle)} {allFences : List Int}
    (hptrs : allBufPtrs.length = request.buffers.length)
    (hfences : allFences.length = request.buffers.length) :
    (request.halBuffers allBufPtrs allFences).map (·.stream) =
      request.buffers.map (·.streamId) := by
  apply map_zipWith_left
  · exact fun _ _ => rfl
  · rw [List.length_zip, hptrs, hfences, Nat.min_self]

/-- A request that was imported is recorded, which cannot fail. -/
theorem registerInflight_spec (lib : MetadataLib) (request : CaptureRequest)
    (settings : Option Blob) (allBufPtrs : List (Option BufferHandle)) (allFences : List Int)
    (hptrs : allBufPtrs.length = request.buffers.length)
    (hfences : allFences.length = request.buffers.length) (c : Call) :
    Ends (registerInflight lib request settings allBufPtrs allFences) c
      (fun pending c' => pending.allFences = allFences ∧ c'.events = c.events ∧
        c'.session.mRequestMetadataQueue = c.session.mRequestMetadataQueue ∧
        Registered request c.session c'.session pending)
      (fun _ _ => False) := by
  simp only [registerInflight, ends_bind, ends_update, ends_getSession, ends_pure]
  generalize hbuffers : request.halBuffers allBufPtrs allFences = halBuffers
  have hstreams := request.map_stream_halBuffers hptrs hfences
  rw [hbuffers] at hstreams
  have hkeys : halBuffers.map (fun buffer => (buffer.stream, request.frameNumber)) =
      request.inflightKeys := by
    have hpairs := congrArg (List.map fun streamId => (streamId, request.frameNumber)) hstreams
    rwa [List.map_map, List.map_map] at hpairs
  generalize hsplit : halBuffers.drop request.outputBuffers.length ++
    halBuffers.take request.outputBuffers.length = ordered
  have hordered : ∀ buffer, buffer ∈ ordered ↔ buffer ∈ halBuffers := by
    intro buffer
    rw [← hsplit, List.mem_append, or_comm, ← List.mem_append, List.take_append_drop]
  generalize hs : c.session.addInflightBuffers request.frameNumber ordered = s
  generalize s.handleAePrecaptureCancelRequestLocked lib settings = override
  have hqueue := congrArg Session.mRequestMetadataQueue hs
  rw [Session.addInflightBuffers_mRequestMetadataQueue] at hqueue
  refine ⟨trivial, trivial, ?_, ?_⟩
  · rw [Session.setOverride_mRequestMetadataQueue, ← hqueue]
  constructor
  · rfl
  · refine ⟨ordered.map fun buffer => ((buffer.stream, request.frameNumber), buffer), ?_, ?_⟩
    · rw [Session.setOverride_mInflightBuffers, ← hs,
        Session.addInflightBuffers_mInflightBuffers]
    · intro key
      rw [← hkeys]
      simp [hordered]
  · obtain ⟨value, hvalue⟩ := setOverride_spec s request.frameNumber override
    refine ⟨value, hvalue.trans ?_⟩
    rw [← hs, Session.addInflightBuffers_mInflightAETriggerOverrides]
  · intro id
    rw [Session.streamId, Session.setOverride_mStreamMap, ← hs]
    exact Session.addInflightBuffers_streamId _ _ _ id
  · intro id
    rw [Session.setOverride_mStreamMap, ← hs, Session.mem_addInflightBuffers_mStreamMap,
      ← hstreams]
    simp only [List.mem_map, hordered]
  · rw [Session.setOverride_withoutRecords, ← hs, Session.addInflightBuffers_withoutRecords]

theorem Registered.of_sameRecords {request : CaptureRequest} {s s₁ s₂ s' : Session}
    {pending : PendingRequest} (hbefore : s.SameRecords s₁)
    (h : Registered request s₁ s₂ pending) (hafter : s₂.SameRecords s') :
    Registered request s s' pending := by
  rw [Session.SameRecords] at hbefore hafter
  have hhead : Registered request s s₂ pending := by
    rw [hbefore] at h
    exact ⟨h.sameRequest, h.buffers, h.overrides, h.streamIds, h.streams, h.others⟩
  rw [hafter]
  exact ⟨hhead.sameRequest, hhead.buffers, hhead.overrides, hhead.streamIds, hhead.streams,
    hhead.others⟩

/-- An input buffer has a buffer id. -/
theorem CaptureRequest.input_bufferId (request : CaptureRequest) {j : Nat} {buffer : StreamBuffer}
    (hbuffer : request.buffers[j]? = some buffer) (hj : 0 + j = request.outputBuffers.length) :
    buffer.bufferId ≠ bufferIdNoBuffer := by
  rw [CaptureRequest.buffers, List.getElem?_append_right (by omega)] at hbuffer
  split at hbuffer
  next hinput =>
    have heq : request.inputBuffer = buffer := by
      simpa [show j - request.outputBuffers.length = 0 by omega] using hbuffer
    rw [CaptureRequest.hasInputBuf, Bool.and_eq_true] at hinput
    rw [← heq, bufferIdNoBuffer]
    simpa using hinput.2
  next => simp at hbuffer

/-- A request is imported as a whole, or fails and gives back the fences that it has imported. -/
theorem importRequest_spec (world : RequestWorld) (request : CaptureRequest) (c : Call) :
    Ends (importRequest world request) c
      (fun (allBufPtrs, allFences) c' =>
        ((request.buffers.map (·.streamId)).Nodup →
          BuffersImportable c.session world request ∧ FencesImportable world 0 request.buffers) ∧
        (allBufPtrs.length = request.buffers.length ∧
          allFences.length = request.buffers.length) ∧
        c'.session.mRequestMetadataQueue = c.session.mRequestMetadataQueue ∧
        c.session.SameRecords c'.session ∧ c.AddsFences c' allFences [])
      (fun e c' =>
        ¬(BuffersImportable c.session world request ∧ FencesImportable world 0 request.buffers) ∧
        e = .status .internalError ∧ c.session.SameRecords c'.session ∧
        ∃ fds, c.AddsFences c' fds fds) := by
  simp only [importRequest, importRequestImpl, ends_bind, ends_pure]
  have hinput := fun j buffer => @CaptureRequest.input_bufferId request j buffer
  refine (importBuffers_spec world _ 0 request.buffers hinput c).mono ?_ ?_
  · rintro allBufPtrs c' ⟨hptrs, hbuffers, himports⟩
    refine (importFences_spec world request.buffers [] c').mono ?_ ?_
    · rintro allFences _ ⟨hfences, fds, hall, hfds, rfl⟩
      obtain rfl : allFences = fds := hall
      refine ⟨fun hstreams => ⟨hbuffers hstreams, hfences⟩, ⟨hptrs, hfds⟩, ?_,
        himports.sameRecords, ?_⟩
      · have hqueue : c'.session.mRequestMetadataQueue = c.session.mRequestMetadataQueue := by
          rw [himports.session]
        exact hqueue
      · have hadds : c'.AddsFences { c' with
            events := c'.events ++ allFences.map .importFence } allFences [] :=
          ⟨by simp, by simp⟩
        exact himports.addsFences.trans hadds
    · rintro e _ ⟨hnot, he, fds, rfl⟩
      refine ⟨fun h => hnot h.2, he, himports.sameRecords, fds, ?_⟩
      have hadds : c'.AddsFences { c' with
          events := c'.events ++ fds.map .importFence ++ ([] ++ fds).map .closeFence } fds fds :=
        ⟨by simp, by simp⟩
      exact himports.addsFences.trans hadds
  · rintro e c' ⟨hnot, he, himports⟩
    exact ⟨fun h => hnot h.1, he, himports.sameRecords, [], himports.addsFences⟩

/-- What becomes of a call that has recorded its request. -/
structure Call.Recorded (c c' : Call) (request : CaptureRequest) (pending : PendingRequest) :
    Prop where
  registered : Registered request c.session c'.session pending
  fences : c.AddsFences c' pending.allFences []

/-- A request that is not admitted leaves the records alone and closes its fences. One
that is recorded goes on to the HAL or is refused for its physical camera settings. -/
theorem prepareRequest_spec (lib : MetadataLib) (world : RequestWorld) (request : CaptureRequest)
    (c : Call) :
    Ends (prepareRequest lib world request) c
      (fun pending c' =>
        ((request.buffers.map (·.streamId)).Nodup →
          RequestAdmitted lib c.session world request) ∧
        PhysicalAccepted lib c.session request ∧ c.Recorded c' request pending)
      (fun e c' =>
        (¬RequestAdmitted lib c.session world request ∧ (∃ status, e = .status status) ∧
          c.session.SameRecords c'.session ∧ ∃ fds, c.AddsFences c' fds fds) ∨
        (((request.buffers.map (·.streamId)).Nodup →
            RequestAdmitted lib c.session world request) ∧
          ¬PhysicalAccepted lib c.session request ∧
          ∃ pending, c.Recorded c' request pending)) := by
  simp only [prepareRequest, ends_bind, ends_getSession, ends_check]
  refine ⟨fun hopened => ?_, fun hnot => .inl ⟨fun h => hnot h.opened, ⟨_, rfl⟩, rfl, [], ?_⟩⟩
  · refine (readSettings_spec lib request c).mono ?_ ?_
    · rintro settings _ ⟨-, hsettings, rfl⟩
      have hread := c.reads_fetched c.session.mRequestMetadataQueue request.frameNumber none
        request.fmqSettingsSize request.settings
      refine ⟨fun houtputs => ?_, fun hnot => .inl ⟨fun h => hnot h.outputs, ⟨_, rfl⟩, ?_, [], ?_⟩⟩
      · refine (importRequest_spec world request _).mono ?_ ?_
        · rintro ⟨allBufPtrs, allFences⟩ c₁
            ⟨himportable, ⟨hptrs, hfences⟩, hqueue₁, hsame₁, hadds₁⟩
          have hadmitted : (request.buffers.map (·.streamId)).Nodup →
              RequestAdmitted lib c.session world request := fun hstreams =>
            ⟨hopened, hsettings, houtputs, (himportable hstreams).1, (himportable hstreams).2⟩
          refine (registerInflight_spec lib request settings _ _ hptrs hfences c₁).mono ?_
            fun _ _ h => h.elim
          rintro pending c₂ ⟨rfl, hevents, hqueue₂, hregistered⟩
          have hqueue : c₂.session.mRequestMetadataQueue = (c.session.mainSettings request).queue :=
            hqueue₂.trans hqueue₁
          have hfirst : c₂.session.mFirstRequest = c.session.mFirstRequest :=
            hregistered.mFirstRequest.trans hsame₁.mFirstRequest
          have hbefore := hread.sameRecords.trans hsame₁
          have hadds₂ : c.AddsFences c₂ pending.allFences [] := by
            have hadds := hread.addsFences.trans hadds₁
            exact ⟨by rw [hevents]; exact hadds.imported, by rw [hevents]; exact hadds.closed⟩
          have hphysical := readPhysicalSettings_spec lib request.frameNumber
            request.physicalCameraSettings 0 0 c₂
          rw [hqueue, hfirst] at hphysical
          refine hphysical.mono ?_ ?_
          · rintro physicalCameraSettings c₃ ⟨haccepted, hreads⟩
            simp only [ends_emit, ends_pure]
            have h := hregistered.of_sameRecords hbefore hreads.sameRecords
            have hadds₃ := hadds₂.trans hreads.addsFences
            refine ⟨hadmitted, haccepted, ⟨h.sameRequest, h.buffers, h.overrides, h.streamIds,
              h.streams, h.others⟩, ?_⟩
            exact ⟨by simpa [importedFences] using hadds₃.imported,
              by simpa [closedFences] using hadds₃.closed⟩
          -- a refused physical setting comes after the request has been recorded
          · rintro e c₃ ⟨hrefused, hreads⟩
            refine .inr ⟨hadmitted, ?_, pending, ?_, ?_⟩
            · exact fun h => Bool.false_ne_true (hrefused.symm.trans h)
            · exact hregistered.of_sameRecords hbefore hreads.sameRecords
            · simpa using hadds₂.trans hreads.addsFences
        · rintro e c' ⟨hnot, rfl, hsame, fds, hadds⟩
          refine .inl ⟨fun h => hnot ⟨h.buffers, h.fences⟩, ⟨_, rfl⟩, ?_, fds, ?_⟩
          · exact hread.sameRecords.trans hsame
          · exact hread.addsFences.trans hadds
      · exact hread.sameRecords
      · exact hread.addsFences
    · rintro e _ ⟨hbad, rfl, rfl⟩
      have hread := c.reads_fetched c.session.mRequestMetadataQueue request.frameNumber none
        request.fmqSettingsSize request.settings
      refine .inl ⟨fun h => ?_, ⟨_, rfl⟩, hread.sameRecords, [], hread.addsFences⟩
      exact Bool.false_ne_true (hbad.symm.trans h.settings)
  · exact ⟨by simp, by simp⟩

end LgeHardware.Camera
