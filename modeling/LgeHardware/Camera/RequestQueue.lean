import LgeHardware.Foundation.Run
import LgeHardware.Camera.Configure
import LgeHardware.Camera.RequestLaws

/-! # The request metadata queue

The client writes the settings of all requests of a call into the queue before the
call, and the session reads them request by request. The queue has no framing, so
that the two stay in step only if a call reads all that was written for it, also
when it ends early.
-/

namespace LgeHardware.Camera

open LgeHardware.Foundation

/-! ## What the client writes -/

/-- The physical camera settings from the `i`-th on that are announced in the queue. -/
def announcedPhysical : Nat → List PhysicalCameraSetting → List (Option Nat × Int)
  | _, [] => []
  | i, setting :: rest =>
      (if 0 < setting.fmqSettingsSize then [(some i, setting.fmqSettingsSize)] else []) ++
        announcedPhysical (i + 1) rest

/-- The settings that a request announces in the queue, with their sizes. -/
def CaptureRequest.announced (request : CaptureRequest) : List (Option Nat × Int) :=
  (if 0 < request.fmqSettingsSize then [(none, request.fmqSettingsSize)] else []) ++
    announcedPhysical 0 request.physicalCameraSettings

/-- The sizes of written settings. -/
def sizes (writes : List (Option Nat × Blob)) : List (Option Nat × Int) :=
  writes.map fun write => (write.1, (write.2.length : Int))

/-- A request with the settings that the client writes into the queue for it, and the
answers of the environment to it. -/
structure ClientRequest where
  request : CaptureRequest
  world : RequestWorld
  writes : List (Option Nat × Blob) := []
  announced : sizes writes = request.announced

/-- Settings together with the frame and the camera they are for. -/
abbrev SettingsItem := Nat × Option Nat × Blob

def settingsItems (frameNumber : Nat) (writes : List (Option Nat × Blob)) : List SettingsItem :=
  writes.map fun write => (frameNumber, write.1, write.2)

def ClientRequest.items (r : ClientRequest) : List SettingsItem :=
  settingsItems r.request.frameNumber r.writes

def ClientRequest.blobs (r : ClientRequest) : List Blob := r.writes.map (·.2)

/-- The settings a trace reads from the queue. -/
def settingsReads (events : List SessionEvent) : List SettingsItem :=
  events.filterMap fun
    | .readSettings frameNumber camera settings => some (frameNumber, camera, settings)
    | _ => none

@[simp] theorem settingsReads_append (first second : List SessionEvent) :
    settingsReads (first ++ second) = settingsReads first ++ settingsReads second :=
  List.filterMap_append

/-! ## Reading in step -/

/-- Between two points of a call exactly these settings are read, and these blobs are left. -/
structure Call.ReadsThrough (c c' : Call) (items : List SettingsItem) (left : List Blob) :
    Prop where
  reads : settingsReads c'.events = settingsReads c.events ++ items
  left : c'.session.mRequestMetadataQueue.Holds left

/-- Between two points of a call the first of these settings are read, and nothing is left. -/
def Call.StopsShort (c c' : Call) (items : List SettingsItem) : Prop :=
  ∃ read, read <+: items ∧ c.ReadsThrough c' read []

theorem Call.ReadsThrough.trans {c c' c'' : Call} {first second : List SettingsItem}
    {left left' : List Blob} (h : c.ReadsThrough c' first left)
    (h' : c'.ReadsThrough c'' second left') : c.ReadsThrough c'' (first ++ second) left' :=
  ⟨by rw [h'.reads, h.reads, List.append_assoc], h'.left⟩

theorem Call.ReadsThrough.stopsShort {c c' c'' : Call} {first second : List SettingsItem}
    {left : List Blob} (h : c.ReadsThrough c' first left) (h' : c'.StopsShort c'' second) :
    c.StopsShort c'' (first ++ second) := by
  obtain ⟨read, hinitial, hreads⟩ := h'
  exact ⟨first ++ read, (List.prefix_append_right_inj first).mpr hinitial, h.trans hreads⟩

theorem Call.ReadsThrough.stop {c c' : Call} {items : List SettingsItem}
    (h : c.ReadsThrough c' items []) : c.StopsShort c' items :=
  ⟨items, List.prefix_rfl, h⟩

theorem Call.StopsShort.append {c c' : Call} {first : List SettingsItem}
    (h : c.StopsShort c' first) (second : List SettingsItem) :
    c.StopsShort c' (first ++ second) := by
  obtain ⟨read, hinitial, hreads⟩ := h
  exact ⟨read, hinitial.trans (List.prefix_append first second), hreads⟩

/-- Settings found where they were written. -/
theorem fetch_of_holds {queue : BoundedQueue UInt8} {settings : Blob} {left : List Blob}
    (h : queue.Holds (settings :: left)) {size : Int} (hsize : 0 < size)
    (hlength : (settings.length : Int) = size) (frameNumber : Nat) (camera : Option Nat)
    (inline : Blob) :
    ∃ queue', fetch queue frameNumber camera size inline =
        ⟨some settings, queue', [.readSettings frameNumber camera settings]⟩ ∧
      queue'.Holds left := by
  obtain ⟨queue', hread, hleft⟩ := h.read
  refine ⟨queue', ?_, hleft⟩
  rw [fetch, if_pos hsize, show size.toNat = settings.length by omega, hread]

theorem fetch_inline {queue : BoundedQueue UInt8} {size : Int} (hsize : ¬0 < size)
    (frameNumber : Nat) (camera : Option Nat) (inline : Blob) :
    fetch queue frameNumber camera size inline = ⟨some inline, queue, []⟩ := if_neg hsize

/-- Settings that are announced are the first of those written. -/
theorem fetched_readsThrough {c : Call} {size : Int} {camera : Option Nat}
    {writes : List (Option Nat × Blob)} {more : List (Option Nat × Int)}
    (hsizes : sizes writes = (if 0 < size then [(camera, size)] else []) ++ more)
    {later : List Blob}
    (hholds : c.session.mRequestMetadataQueue.Holds (writes.map (·.2) ++ later))
    (frameNumber : Nat) (inline : Blob) :
    ∃ first rest, writes = first ++ rest ∧ sizes rest = more ∧
      c.ReadsThrough (c.fetched
        (fetch c.session.mRequestMetadataQueue frameNumber camera size inline))
        (settingsItems frameNumber first) (rest.map (·.2) ++ later) := by
  by_cases hsize : 0 < size
  · rw [if_pos hsize] at hsizes
    cases writes with
    | nil => simp [sizes] at hsizes
    | cons write rest =>
        simp only [sizes, List.map_cons, List.cons_append, List.nil_append, List.cons.injEq,
          Prod.mk.injEq] at hsizes
        obtain ⟨⟨rfl, hlength⟩, hrest⟩ := hsizes
        obtain ⟨queue', hfetch, hleft⟩ :=
          fetch_of_holds hholds hsize hlength frameNumber write.1 inline
        refine ⟨[write], rest, rfl, hrest, ?_, ?_⟩
        · rw [hfetch]
          simp [Call.fetched, settingsReads, settingsItems]
        · rw [hfetch]
          exact hleft
  · rw [if_neg hsize] at hsizes
    refine ⟨[], writes, rfl, hsizes, ?_, ?_⟩
    · rw [fetch_inline hsize]
      simp [Call.fetched, settingsItems]
    · rw [fetch_inline hsize]
      exact hholds

/-! ## One request -/

/-- A loop over the physical camera settings that stops at the `i`-th finds no later ones
in the queue. `last` says that no later request has any there. -/
def physicalLeavesNothing (lib : MetadataLib) (first : Bool) (frameNumber : Nat) (last : Bool) :
    BoundedQueue UInt8 → Nat → Nat → List PhysicalCameraSetting → Bool
  | _, _, _, [] => true
  | queue, i, numFmq, setting :: rest =>
      let found := fetch queue frameNumber (some i) setting.fmqSettingsSize setting.settings
      decide (setting.Addressable i numFmq) &&
        if settingsOk lib first found.bytes then
          physicalLeavesNothing lib first frameNumber last found.queue (i + 1)
            (if setting.fmqSettingsSize = 0 then numFmq else numFmq + 1) rest
        else last && rest.all (·.fmqSettingsSize == 0)

theorem announcedPhysical_of_inline {settings : List PhysicalCameraSetting}
    (h : ∀ setting ∈ settings, setting.fmqSettingsSize = 0) (i : Nat) :
    announcedPhysical i settings = [] := by
  induction settings generalizing i with
  | nil => rfl
  | cons setting rest ih =>
      rw [announcedPhysical, h setting List.mem_cons_self, if_neg (by decide), List.nil_append]
      exact ih (fun setting hmem => h setting (List.mem_cons_of_mem _ hmem)) _

/-- Inline settings leave nothing. -/
theorem physicalLeavesNothing_of_inline (lib : MetadataLib) (first : Bool) (frameNumber : Nat)
    {settings : List PhysicalCameraSetting}
    (h : ∀ setting ∈ settings, setting.fmqSettingsSize = 0) (queue : BoundedQueue UInt8)
    (i numFmq : Nat) :
    physicalLeavesNothing lib first frameNumber true queue i numFmq settings = true := by
  induction settings generalizing queue i numFmq with
  | nil => rfl
  | cons setting rest ih =>
      have hsetting := h setting List.mem_cons_self
      have hrest : ∀ setting ∈ rest, setting.fmqSettingsSize = 0 :=
        fun setting hmem => h setting (List.mem_cons_of_mem _ hmem)
      simp only [physicalLeavesNothing, Bool.and_eq_true, decide_eq_true_eq, Bool.true_and]
      refine ⟨.inl hsetting, ?_⟩
      split
      next => exact ih hrest _ _ _
      next => simpa using hrest

theorem eq_nil_of_sizes {writes : List (Option Nat × Blob)} (h : sizes writes = []) :
    writes = [] := List.map_eq_nil_iff.mp h

theorem readPhysicalSettings_inStep (lib : MetadataLib) (frameNumber : Nat) {last : Bool}
    {later : List Blob} (hlast : last = true → later = [])
    (settings : List PhysicalCameraSetting) (i numFmq : Nat)
    (writes : List (Option Nat × Blob)) (hsizes : sizes writes = announcedPhysical i settings)
    (c : Call) (hholds : c.session.mRequestMetadataQueue.Holds (writes.map (·.2) ++ later))
    (hnothing : physicalLeavesNothing lib c.session.mFirstRequest frameNumber last
      c.session.mRequestMetadataQueue i numFmq settings = true) :
    Ends (readPhysicalSettings lib frameNumber i numFmq settings) c
      (fun _ c' => c.ReadsThrough c' (settingsItems frameNumber writes) later)
      (fun e c' => e ≠ .undefined ∧ c.StopsShort c' (settingsItems frameNumber writes)) := by
  induction settings generalizing i numFmq writes c with
  | nil =>
      obtain rfl := eq_nil_of_sizes hsizes
      exact ⟨by simp [settingsItems], hholds⟩
  | cons setting rest ih =>
      simp only [physicalLeavesNothing, Bool.and_eq_true, decide_eq_true_eq] at hnothing
      obtain ⟨haddressable, hnothing⟩ := hnothing
      obtain ⟨first, others, rfl, hothers, hthrough⟩ :=
        fetched_readsThrough hsizes hholds frameNumber setting.settings
      have hitems : settingsItems frameNumber (first ++ others) =
          settingsItems frameNumber first ++ settingsItems frameNumber others := List.map_append
      rw [hitems]
      simp only [readPhysicalSettings, ends_bind, ends_pure]
      refine (readPhysicalSetting_spec lib frameNumber i numFmq setting c).mono ?_ ?_
      · rintro _ _ ⟨-, hok, rfl⟩
        rw [if_pos hok] at hnothing
        refine (ih (i + 1) _ others hothers _ hthrough.left hnothing).mono ?_ ?_
        · exact fun _ c' hrest => hthrough.trans hrest
        · exact fun e c' hrest => ⟨hrest.1, hthrough.stopsShort hrest.2⟩
      -- the loop stops here, so nothing behind this setting may be in the queue
      · rintro e _ (⟨-, hbad, rfl, rfl⟩ | ⟨hnot, -⟩)
        · rw [if_neg (by rw [hbad]; decide), Bool.and_eq_true] at hnothing
          have hinline : ∀ setting ∈ rest, setting.fmqSettingsSize = 0 := by
            simpa using hnothing.2
          rw [announcedPhysical_of_inline hinline] at hothers
          have hleft := hthrough
          rw [hlast hnothing.1, eq_nil_of_sizes hothers] at hleft
          exact ⟨by simp, hleft.stop.append _⟩
        · exact absurd haddressable hnot

/-- The part of a call between two reads of the queue. -/
structure Call.Silent (c c' : Call) : Prop where
  reads : settingsReads c'.events = settingsReads c.events
  queue : c'.session.mRequestMetadataQueue = c.session.mRequestMetadataQueue
  first : c'.session.mFirstRequest = c.session.mFirstRequest

theorem Call.Silent.trans {c c' c'' : Call} (h : c.Silent c') (h' : c'.Silent c'') :
    c.Silent c'' :=
  ⟨h'.reads.trans h.reads, h'.queue.trans h.queue, h'.first.trans h.first⟩

theorem Call.ReadsThrough.silent {c c' c'' : Call} {items : List SettingsItem} {left : List Blob}
    (h : c.ReadsThrough c' items left) (h' : c'.Silent c'') : c.ReadsThrough c'' items left :=
  ⟨h'.reads.trans h.reads, by rw [h'.queue]; exact h.left⟩

theorem Call.silent_emit (c : Call) (halRequest : Camera3CaptureRequest) :
    c.Silent { c with events := c.events ++ [.processCaptureRequest halRequest] } :=
  ⟨by simp [settingsReads], rfl, rfl⟩

theorem Call.Imports.silent {c c' : Call} {streamIds : List Int} (h : c.Imports c' streamIds) :
    c.Silent c' := by
  obtain ⟨events, hevents, hall⟩ := h.events
  refine ⟨?_, by rw [h.session], by rw [h.session]⟩
  have hnone : settingsReads events = [] := by
    rw [settingsReads, List.filterMap_eq_nil_iff]
    intro event hevent
    cases event <;> first | rfl | exact (hall _ hevent).elim
  rw [hevents, settingsReads_append, hnone, List.append_nil]

@[simp] theorem settingsReads_map_importFence (fds : List Int) :
    settingsReads (fds.map .importFence) = [] := by
  simp [settingsReads, List.filterMap_map]

@[simp] theorem settingsReads_map_closeFence (fds : List Int) :
    settingsReads (fds.map .closeFence) = [] := by
  simp [settingsReads, List.filterMap_map]

/-- Importing the buffers and fences reads no settings. It fails only for a request that
is not admitted. -/
theorem importRequest_inStep (world : RequestWorld) (request : CaptureRequest) (c : Call) :
    Ends (importRequest world request) c
      (fun (allBufPtrs, allFences) c' =>
        (allBufPtrs.length = request.buffers.length ∧
          allFences.length = request.buffers.length) ∧ c.Silent c')
      (fun e c' =>
        ¬(BuffersImportable c.session world request ∧ FencesImportable world 0 request.buffers) ∧
        e ≠ .undefined ∧ c.Silent c') := by
  simp only [importRequest, importRequestImpl, ends_bind, ends_pure]
  have hinput := fun j buffer => @CaptureRequest.input_bufferId request j buffer
  refine (importBuffers_spec world _ 0 request.buffers hinput c).mono ?_ ?_
  · rintro allBufPtrs c' ⟨hptrs, -, himports⟩
    refine (importFences_spec world request.buffers [] c').mono ?_ ?_
    · rintro allFences _ ⟨-, fds, hall, hfds, rfl⟩
      obtain rfl : allFences = fds := hall
      exact ⟨⟨hptrs, hfds⟩, himports.silent.trans ⟨by simp, rfl, rfl⟩⟩
    · rintro e _ ⟨hnot, rfl, fds, rfl⟩
      exact ⟨fun h => hnot h.2, by simp, himports.silent.trans ⟨by simp, rfl, rfl⟩⟩
  · rintro e c' ⟨hnot, rfl, himports⟩
    exact ⟨fun h => hnot h.1, by simp, himports.silent⟩

/-- Recording a request reads nothing of the queue. -/
theorem registerInflight_inStep (lib : MetadataLib) (request : CaptureRequest)
    (settings : Option Blob) {allBufPtrs : List (Option BufferHandle)} {allFences : List Int}
    (hptrs : allBufPtrs.length = request.buffers.length)
    (hfences : allFences.length = request.buffers.length) (c : Call) :
    Ends (registerInflight lib request settings allBufPtrs allFences) c
      (fun _ c' => c.Silent c') (fun _ _ => False) := by
  refine (registerInflight_spec lib request settings _ _ hptrs hfences c).mono ?_
    fun _ _ h => h.elim
  rintro pending c' ⟨-, hevents, hqueue, hregistered⟩
  exact ⟨by rw [hevents], hqueue, hregistered.mFirstRequest⟩

/-- No later request of a call announces settings in the queue. -/
def noneAnnounced (rest : List ClientRequest) : Bool :=
  rest.all fun r => r.request.announced.isEmpty

/-- Where a request stops the call, none of the settings after that point are in the
queue. The point is the session's status, a check before the request is recorded, one of
its physical camera settings, or the HAL. -/
structure RequestLeavesNothing (lib : MetadataLib) (s : Session) (r : ClientRequest)
    (rest : List ClientRequest) : Prop where
  closed : s.initStatus ≠ .ok → r.request.announced = [] ∧ noneAnnounced rest = true
  refused : s.initStatus = .ok → ¬RequestAdmitted lib s r.world r.request →
    (∀ setting ∈ r.request.physicalCameraSettings, setting.fmqSettingsSize = 0) ∧
      noneAnnounced rest = true
  physical : RequestAdmitted lib s r.world r.request →
    physicalLeavesNothing lib s.mFirstRequest r.request.frameNumber (noneAnnounced rest)
      (s.mainSettings r.request).queue 0 0 r.request.physicalCameraSettings = true
  failed : RequestAdmitted lib s r.world r.request → r.world.processCaptureRequest ≠ statusOk →
    PhysicalAccepted lib s r.request → noneAnnounced rest = true

instance (lib : MetadataLib) (s : Session) (r : ClientRequest) (rest : List ClientRequest) :
    Decidable (RequestLeavesNothing lib s r rest) :=
  decidable_of_iff
    ((s.initStatus ≠ .ok → r.request.announced = [] ∧ noneAnnounced rest = true) ∧
      (s.initStatus = .ok → ¬RequestAdmitted lib s r.world r.request →
        (∀ setting ∈ r.request.physicalCameraSettings, setting.fmqSettingsSize = 0) ∧
          noneAnnounced rest = true) ∧
      (RequestAdmitted lib s r.world r.request →
        physicalLeavesNothing lib s.mFirstRequest r.request.frameNumber (noneAnnounced rest)
          (s.mainSettings r.request).queue 0 0 r.request.physicalCameraSettings = true) ∧
      (RequestAdmitted lib s r.world r.request → r.world.processCaptureRequest ≠ statusOk →
        PhysicalAccepted lib s r.request → noneAnnounced rest = true))
    ⟨fun ⟨hclosed, hrefused, hphysical, hfailed⟩ => ⟨hclosed, hrefused, hphysical, hfailed⟩,
      fun h => ⟨h.closed, h.refused, h.physical, h.failed⟩⟩

theorem blobs_of_noneAnnounced {rest : List ClientRequest} (h : noneAnnounced rest = true) :
    rest.flatMap ClientRequest.blobs = [] := by
  rw [List.flatMap_eq_nil_iff]
  intro r hr
  have hempty : r.request.announced = [] := by
    simpa using List.all_eq_true.mp h r hr
  rw [ClientRequest.blobs, eq_nil_of_sizes (r.announced.trans hempty), List.map_nil]

theorem RequestLeavesNothing.loop {lib : MetadataLib} {s : Session} {r : ClientRequest}
    {rest : List ClientRequest} (h : RequestLeavesNothing lib s r rest)
    (hopened : s.initStatus = .ok) :
    physicalLeavesNothing lib s.mFirstRequest r.request.frameNumber (noneAnnounced rest)
      (s.mainSettings r.request).queue 0 0 r.request.physicalCameraSettings = true := by
  by_cases hadmitted : RequestAdmitted lib s r.world r.request
  · exact h.physical hadmitted
  · obtain ⟨hinline, hlast⟩ := h.refused hopened hadmitted
    rw [hlast]
    exact physicalLeavesNothing_of_inline _ _ _ hinline _ _ _

theorem RequestLeavesNothing.last {lib : MetadataLib} {s : Session} {r : ClientRequest}
    {rest : List ClientRequest} (h : RequestLeavesNothing lib s r rest)
    (hopened : s.initStatus = .ok) (hret : r.world.processCaptureRequest ≠ statusOk)
    (haccepted : PhysicalAccepted lib s r.request) : noneAnnounced rest = true := by
  by_cases hadmitted : RequestAdmitted lib s r.world r.request
  · exact h.failed hadmitted hret haccepted
  · exact (h.refused hopened hadmitted).2

theorem completeRequest_inStep (ret : Int) (pending : PendingRequest) (c : Call) :
    Ends (completeRequest ret pending) c
      (fun _ c' => settingsReads c'.events = settingsReads c.events ∧
        c'.session.mRequestMetadataQueue = c.session.mRequestMetadataQueue)
      (fun e c' => ret ≠ statusOk ∧ e ≠ .undefined ∧ c.Silent c') := by
  rw [completeRequest, ends_ite]
  refine ⟨fun _ => ⟨rfl, rfl⟩, fun hret => ?_⟩
  simp only [cleanupInflightFences, ends_bind, ends_emit, ends_update, ends_refuse]
  exact ⟨hret, by simp, by simp, rfl, rfl⟩

/-- A request reads what was written for it, and nothing if it leaves nothing behind. -/
theorem processOneCaptureRequest_inStep (lib : MetadataLib) (r : ClientRequest)
    (rest : List ClientRequest) (c : Call)
    (hholds : c.session.mRequestMetadataQueue.Holds (r.blobs ++ rest.flatMap ClientRequest.blobs))
    (hnothing : RequestLeavesNothing lib c.session r rest) :
    Ends (processOneCaptureRequest lib r.world r.request) c
      (fun _ c' => c.ReadsThrough c' r.items (rest.flatMap ClientRequest.blobs))
      (fun e c' => e ≠ .undefined ∧ c.StopsShort c' r.items) := by
  have hlast : noneAnnounced rest = true → rest.flatMap ClientRequest.blobs = [] :=
    blobs_of_noneAnnounced
  simp only [processOneCaptureRequest, prepareRequest, ends_bind, ends_getSession, ends_check]
  refine ⟨fun hopened => ?_, fun hclosed => ⟨by simp, ?_⟩⟩
  · obtain ⟨main, physical, hwrites, hphysical, hthrough⟩ := fetched_readsThrough r.announced hholds
      r.request.frameNumber r.request.settings
    have hitems : r.items = settingsItems r.request.frameNumber main ++
        settingsItems r.request.frameNumber physical := by
      rw [ClientRequest.items, hwrites]
      exact List.map_append
    -- in front of the physical settings: what they and later requests wrote stays unread
    have hrefused : ∀ c', (c.fetched (c.session.mainSettings r.request)).Silent c' →
        ¬RequestAdmitted lib c.session r.world r.request → c.StopsShort c' r.items := by
      intro c' hsilent hnot
      obtain ⟨hinline, hnone⟩ := hnothing.refused hopened hnot
      rw [announcedPhysical_of_inline hinline] at hphysical
      have hread := hthrough.silent hsilent
      rw [hlast hnone, eq_nil_of_sizes hphysical] at hread
      rw [hitems]
      exact hread.stop.append _
    refine (readSettings_spec lib r.request c).mono ?_ ?_
    · rintro settings _ ⟨-, hsettings, rfl⟩
      refine ⟨fun houtputs => ?_, fun hnot => ⟨by simp, ?_⟩⟩
      · refine (importRequest_inStep r.world r.request _).mono ?_ ?_
        · rintro ⟨allBufPtrs, allFences⟩ c₁ ⟨⟨hptrs, hfences⟩, hsilent₁⟩
          refine (registerInflight_inStep lib r.request settings hptrs hfences c₁).mono ?_
            fun _ _ h => h.elim
          intro pending c₂ hsilent₂
          have hsilent := hsilent₁.trans hsilent₂
          have hread := hthrough.silent hsilent
          have hqueue : c₂.session.mRequestMetadataQueue =
              (c.session.mainSettings r.request).queue := hsilent.queue
          have hfirst : c₂.session.mFirstRequest = c.session.mFirstRequest := hsilent.first
          have hloop := hnothing.loop hopened
          rw [← hqueue, ← hfirst] at hloop
          have hphysicalRead := (readPhysicalSettings_spec lib r.request.frameNumber
            r.request.physicalCameraSettings 0 0 c₂).and
            (readPhysicalSettings_inStep lib r.request.frameNumber hlast _ 0 0 physical hphysical
              c₂ hread.left hloop)
          rw [hqueue, hfirst] at hphysicalRead
          rw [hitems]
          -- the HAL is called with everything read; a refusal leaves later requests unread
          refine hphysicalRead.mono ?_ ?_
          · rintro physicalCameraSettings c₃ ⟨⟨haccepted, -⟩, hread₃⟩
            have hall := hread.trans hread₃
            simp only [ends_emit, ends_pure]
            refine (completeRequest_inStep _ _ _).mono ?_ ?_
            · rintro - c₄ ⟨hreads, hqueue₄⟩
              refine ⟨hreads.trans ?_, by rw [hqueue₄]; exact hall.left⟩
              exact (hall.silent (c₃.silent_emit _)).reads
            · rintro e c₄ ⟨hret, he, hsilent₄⟩
              refine ⟨he, ?_⟩
              have hnone := hnothing.last hopened hret haccepted
              rw [hlast hnone] at hall
              exact (hall.silent ((c₃.silent_emit _).trans hsilent₄)).stop
          · rintro e c₃ ⟨-, he, hstop⟩
            exact ⟨he, hread.stopsShort hstop⟩
        · rintro e c₁ ⟨hnot, he, hsilent⟩
          exact ⟨he, hrefused c₁ hsilent fun h => hnot ⟨h.buffers, h.fences⟩⟩
      · exact hrefused _ ⟨rfl, rfl, rfl⟩ fun h => hnot h.outputs
    · rintro e _ ⟨hbad, rfl, rfl⟩
      refine ⟨by simp, hrefused _ ⟨rfl, rfl, rfl⟩ fun h => ?_⟩
      exact Bool.false_ne_true (hbad.symm.trans h.settings)
  · obtain ⟨hannounced, hnone⟩ := hnothing.closed hclosed
    have hwrites := eq_nil_of_sizes (r.announced.trans hannounced)
    rw [hlast hnone, ClientRequest.blobs, hwrites] at hholds
    exact ⟨[], List.nil_prefix, by simp, hholds⟩

/-! ## Whole calls -/

/-- Where the loop of `processCaptureRequest` stops, it leaves nothing in the queue. -/
def LeavesNothing (lib : MetadataLib) (c : Call) : List ClientRequest → Prop
  | [] => True
  | r :: rest => RequestLeavesNothing lib c.session r rest ∧
      match processOneCaptureRequest lib r.world r.request c with
      | .ok _ c' => LeavesNothing lib c' rest
      | .error .. => True

instance decidableLeavesNothing (lib : MetadataLib) (c : Call) (requests : List ClientRequest) :
    Decidable (LeavesNothing lib c requests) :=
  match requests with
  | [] => isTrue trivial
  | r :: rest =>
      have : Decidable (match processOneCaptureRequest lib r.world r.request c with
          | .ok _ c' => LeavesNothing lib c' rest
          | .error .. => True) := by
        cases processOneCaptureRequest lib r.world r.request c with
        | ok a c' => exact decidableLeavesNothing lib c' rest
        | error e c' => exact isTrue trivial
      inferInstanceAs (Decidable (_ ∧ _))

theorem processRequests_inStep (lib : MetadataLib) (requests : List ClientRequest) (count : Nat)
    (c : Call)
    (hholds : c.session.mRequestMetadataQueue.Holds (requests.flatMap ClientRequest.blobs))
    (hnothing : LeavesNothing lib c requests) :
    ∃ status count' c', processRequests lib count c
        (requests.map fun r => (r.world, r.request)) = some (status, count', c') ∧
      c.StopsShort c' (requests.flatMap ClientRequest.items) := by
  induction requests generalizing count c with
  | nil => exact ⟨.ok, count, c, rfl, [], List.prefix_rfl, by simp, hholds⟩
  | cons r rest ih =>
      have hone := processOneCaptureRequest_inStep lib r rest c hholds hnothing.1
      have hrest := hnothing.2
      simp only [List.map_cons, processRequests, List.flatMap_cons]
      rw [Ends] at hone
      cases hresult : processOneCaptureRequest lib r.world r.request c with
      | ok a c₁ =>
          simp only [hresult] at hone hrest
          obtain ⟨status, count', c', hrun, hstop⟩ := ih (count + 1) c₁ hone.left hrest
          exact ⟨status, count', c', hrun, hone.stopsShort hstop⟩
      | error e c₁ =>
          simp only [hresult] at hone
          cases e with
          | status status => exact ⟨status, count, c₁, rfl, hone.2.append _⟩
          | undefined => exact absurd rfl hone.1

theorem updateBufferCaches_silent (caches : List BufferCache) (s : Session) :
    settingsReads (s.updateBufferCaches caches).1 = [] ∧
      (s.updateBufferCaches caches).2.mRequestMetadataQueue = s.mRequestMetadataQueue := by
  induction caches generalizing s with
  | nil => exact ⟨rfl, rfl⟩
  | cons cache rest ih =>
      have hone : settingsReads (s.removeCached cache).1 = [] ∧
          (s.removeCached cache).2.mRequestMetadataQueue = s.mRequestMetadataQueue := by
        rw [Session.removeCached]
        split
        next => exact ⟨rfl, rfl⟩
        next =>
          split
          next => exact ⟨rfl, rfl⟩
          next => exact ⟨rfl, rfl⟩
      have hrest := ih (s.removeCached cache).2
      simp only [Session.updateBufferCaches, settingsReads_append]
      exact ⟨by rw [hone.1, hrest.1, List.append_nil], hrest.2.trans hone.2⟩

/-- A whole call reads a prefix of what was written for it and leaves nothing. -/
theorem processCaptureRequest_inStep (lib : MetadataLib) (s : Session)
    (requests : List ClientRequest) (cachesToRemove : List BufferCache)
    (hholds : s.mRequestMetadataQueue.Holds (requests.flatMap ClientRequest.blobs))
    (hnothing : LeavesNothing lib
      { session := (s.updateBufferCaches cachesToRemove).2
        events := (s.updateBufferCaches cachesToRemove).1 } requests) :
    ∃ status count c, processCaptureRequest lib s (requests.map fun r => (r.world, r.request))
        cachesToRemove = some (status, count, c) ∧
      settingsReads c.events <+: requests.flatMap ClientRequest.items ∧
      c.session.mRequestMetadataQueue.Holds [] := by
  obtain ⟨hsilent, hkept⟩ := updateBufferCaches_silent cachesToRemove s
  rw [← hkept] at hholds
  obtain ⟨status, count, c, hrun, read, hinitial, hreads⟩ :=
    processRequests_inStep lib requests 0 _ hholds hnothing
  have hread : settingsReads c.events = read := by
    rw [hreads.reads, hsilent, List.nil_append]
  simp only [processCaptureRequest, hrun, Option.map_some]
  -- registering a batch touches neither the queue nor the trace
  split
  next =>
    split
    next => exact ⟨_, _, _, rfl, by rw [hread]; exact hinitial, hreads.left⟩
    next => exact ⟨_, _, _, rfl, by rw [hread]; exact hinitial, hreads.left⟩
  next => exact ⟨_, _, _, rfl, by rw [hread]; exact hinitial, hreads.left⟩

/-- What the client wrote for a call, and what the session read during it. -/
structure CallRecord where
  written : List SettingsItem
  read : List SettingsItem
  deriving DecidableEq, Repr

structure ClientState where
  session : Session
  calls : List CallRecord := []

/-- The client writes the settings of its requests and calls `processCaptureRequest`.
Whatever else happens to the session does not touch the request queue. -/
inductive ClientOp
  | processCaptureRequest (requests : List ClientRequest) (cachesToRemove : List BufferCache)
  | other (change : Session → Session)

namespace ClientState

/-- The session once the client has written the settings of its requests. -/
def written (s : ClientState) (requests : List ClientRequest) : Option Session :=
  (s.session.mRequestMetadataQueue.writeAll (requests.flatMap ClientRequest.blobs)).map
    fun queue => { s.session with mRequestMetadataQueue := queue }

def next (lib : MetadataLib) (s : ClientState) : ClientOp → ClientState
  | .processCaptureRequest requests cachesToRemove =>
      match s.written requests with
      | none => s
      | some session =>
          match processCaptureRequest lib session (requests.map fun r => (r.world, r.request))
              cachesToRemove with
          | none => { s with session }
          | some (_, _, c) =>
              { session := c.session
                calls := s.calls ++ [{
                  written := requests.flatMap ClientRequest.items
                  read := settingsReads c.events }] }
  | .other change => { s with session := change s.session }

/-- The client's writes fit into the queue, and nobody else touches it. -/
def Allowed (s : ClientState) : ClientOp → Prop
  | .processCaptureRequest requests _ => (s.written requests).isSome = true
  | .other change =>
      (change s.session).mRequestMetadataQueue = s.session.mRequestMetadataQueue

/-- A call does not end with settings of its requests unread. -/
def CallLeavesNothing (lib : MetadataLib) (s : ClientState) : ClientOp → Prop
  | .processCaptureRequest requests cachesToRemove => ∀ session ∈ s.written requests,
      LeavesNothing lib
        { session := (session.updateBufferCaches cachesToRemove).2
          events := (session.updateBufferCaches cachesToRemove).1 } requests
  | .other _ => True

/-- Every call read settings as they were written for it, in order, and between calls the
queue is empty. -/
structure InStep (s : ClientState) : Prop where
  reads : ∀ call ∈ s.calls, call.read <+: call.written
  left : s.session.mRequestMetadataQueue.Holds []

instance (s : ClientState) (op : ClientOp) : Decidable (s.Allowed op) :=
  match op with
  | .processCaptureRequest .. => inferInstanceAs (Decidable (_ = true))
  | .other _ => inferInstanceAs (Decidable (_ = _))

instance (lib : MetadataLib) (s : ClientState) (op : ClientOp) :
    Decidable (s.CallLeavesNothing lib op) :=
  match op with
  | .processCaptureRequest requests _ =>
      inferInstanceAs (Decidable (∀ session ∈ s.written requests, LeavesNothing lib _ requests))
  | .other _ => isTrue trivial

instance (s : ClientState) : Decidable s.InStep :=
  decidable_of_iff
    ((∀ call ∈ s.calls, call.read <+: call.written) ∧ s.session.mRequestMetadataQueue.items = [])
    ⟨fun ⟨hreads, hleft⟩ => ⟨hreads, BoundedQueue.Holds.nil_iff.mpr hleft⟩,
      fun h => ⟨h.reads, BoundedQueue.Holds.nil_iff.mp h.left⟩⟩

/-- A call that leaves nothing unread keeps the queue in step. -/
theorem InStep.next {lib : MetadataLib} {s : ClientState} (h : s.InStep) {op : ClientOp}
    (hallowed : s.Allowed op) (hnothing : s.CallLeavesNothing lib op) :
    (s.next lib op).InStep := by
  cases op with
  | other change =>
      exact ⟨h.reads, (congrArg (BoundedQueue.Holds · []) hallowed).mpr h.left⟩
  | processCaptureRequest requests cachesToRemove =>
      obtain ⟨session, hwritten⟩ := Option.isSome_iff_exists.mp hallowed
      have hholds : session.mRequestMetadataQueue.Holds
          (requests.flatMap ClientRequest.blobs) := by
        obtain ⟨queue, hqueue, rfl⟩ := Option.map_eq_some_iff.mp hwritten
        exact h.left.writeAll hqueue
      obtain ⟨status, count, c, hrun, hinitial, hleft⟩ := processCaptureRequest_inStep lib session
        requests cachesToRemove hholds (hnothing session hwritten)
      simp only [ClientState.next, hwritten, hrun]
      refine ⟨fun call hcall => ?_, hleft⟩
      rcases List.mem_append.mp hcall with hearlier | hnew
      · exact h.reads call hearlier
      · rw [List.mem_singleton.mp hnew]
        exact hinitial

/-- In every run in which no call ends with settings of its requests unread, all that was
read is what the client wrote for that request and camera, and no call leaves a byte. -/
theorem inStep_run (lib : MetadataLib) (s : Session) (hempty : s.mRequestMetadataQueue.items = [])
    (ops : List ClientOp)
    (hrun : Admits (next lib) (fun s op => s.Allowed op ∧ s.CallLeavesNothing lib op)
      { session := s } ops) :
    (run (next lib) { session := s } ops).InStep :=
  hrun.invariant InStep (fun _ _ h hop => h.next hop.1 hop.2)
    ⟨by simp, BoundedQueue.Holds.nil_iff.mpr hempty⟩

/-- A request with two bytes of settings in the queue, and the HAL's answer to it. -/
def queuedRequest (frameNumber : Nat) (first second : UInt8) (ret : Int) : ClientRequest :=
  { request :=
      { frameNumber
        fmqSettingsSize := 2
        outputBuffers := [{ streamId := 1, bufferId := 9, buffer := some 4 }] }
    world := .obliging ret
    writes := [(none, [first, second])]
    announced := rfl }

/-- The HAL fails the last request of the first call. -/
def failLast : List ClientOp :=
  [.processCaptureRequest [queuedRequest 1 3 7 statusOk, queuedRequest 2 4 8 badValue] [],
    .processCaptureRequest [queuedRequest 3 5 9 statusOk] []]

/-- The HAL fails the first request of the first call. -/
def failFirst : List ClientOp :=
  [.processCaptureRequest [queuedRequest 1 3 7 badValue, queuedRequest 2 4 8 statusOk] [],
    .processCaptureRequest [queuedRequest 3 5 9 statusOk] []]

theorem inStep_run_failLast :
    (run (next .ofPairs) { session := Session.withOneStream } failLast).InStep ∧
      (run (next .ofPairs) { session := Session.withOneStream } failLast).calls.length = 2 :=
  ⟨inStep_run .ofPairs Session.withOneStream (by decide) failLast
    ⟨⟨by decide, by decide⟩, ⟨by decide, by decide⟩, trivial⟩, by decide⟩

/-- After a call that ended at its first request, the next call reads the settings of the
second one for its own. -/
theorem failFirst_outOfStep :
    Admits (next .ofPairs) Allowed { session := Session.withOneStream } failFirst ∧
      (run (next .ofPairs) { session := Session.withOneStream } failFirst).calls.getLast? =
        some { written := [(3, none, [5, 9])], read := [(3, none, [4, 8])] } ∧
      ¬(run (next .ofPairs) { session := Session.withOneStream } failFirst).InStep :=
  ⟨⟨by decide, by decide, trivial⟩, by decide, by decide⟩

end ClientState

end LgeHardware.Camera
