import LgeHardware.Foundation.Obligations
import LgeHardware.Foundation.Run
import LgeHardware.Camera.InflightRecords

/-! # In-flight records drain

While a request is at the HAL, the HAL owes each of its buffers once, and metadata up
to a final result or an error of its frame. The in-flight records are the session's
books of these obligations. The HAL names a stream by the pointer it was given, which
leads to an entry of `mStreamMap`, and the session looks for the id it finds there.
-/

namespace LgeHardware.Camera

open LgeHardware.Foundation

/-- The HAL result as the session reads it: a pointer to the stream that `mStreamMap`
holds under a key is read as the id behind it. -/
def Session.resolve (s : Session) (hal : Camera3CaptureResult) : Camera3CaptureResult :=
  let read := fun buffer : HalStreamBuffer => { buffer with stream := s.streamId buffer.stream }
  { hal with
    inputBuffer := hal.inputBuffer.map read
    outputBuffers := hal.outputBuffers.map read }

/-- The `errorStreamId` of an error whose `error_stream` is a pointer, or null. -/
def Session.errorStreamId (s : Session) (errorStream : Option Int) : Int :=
  errorStream.elim (-1) s.streamId

/-- The frames whose metadata a request asks for. -/
def CaptureRequest.frames (request : CaptureRequest) : List Nat := [request.frameNumber]

/-- An error after which no more metadata comes for its frame. -/
def ErrorCode.endsMetadata : ErrorCode → Bool
  | .errorRequest | .errorResult => true
  | .errorDevice | .errorBuffer => false

/-- A session, the requests at its HAL, and what the HAL did: the frames submitted to it,
the buffers it returned, the frames whose metadata it ended, and those it called back for. -/
structure DrainState where
  session : Session
  pending : List PendingRequest := []
  accepted : List CaptureRequest := []
  submitted : List Nat := []
  returned : List (Int × Nat) := []
  finished : List Nat := []
  called : List Nat := []

/-- A HAL call and its return are two operations, with any others in between. The buffers
of a result and the stream of an error are given by the keys of their pointers. -/
inductive DrainOp
  | submit (world : RequestWorld) (request : CaptureRequest)
  | halReturned (pending : PendingRequest) (ret : Int)
  | registerBatch (frameNumber batchSize : Nat)
  | result (hal : Camera3CaptureResult)
  | notifyShutter (frameNumber : Nat) (timestamp : Int)
  | notifyError (frameNumber : Nat) (errorStream : Option Int) (errorCode : ErrorCode)
  | configureStreams (config : StreamConfiguration) (answer : ConfigureAnswer)
  | updateBufferCaches (cachesToRemove : List BufferCache)
  | disconnect
  | close

namespace DrainState

/-- The requests that were submitted to the HAL and not refused by it. -/
def atHal (s : DrainState) : List CaptureRequest := s.pending.map (·.request) ++ s.accepted

/-- The HAL has yet to return a buffer. -/
def OwesBuffer (s : DrainState) (key : Int × Nat) : Prop :=
  Owed CaptureRequest.inflightKeys s.atHal s.returned key

/-- The HAL has yet to end the metadata of a frame. -/
def OwesMetadata (s : DrainState) (frameNumber : Nat) : Prop :=
  Owed CaptureRequest.frames s.atHal s.finished frameNumber

instance (s : DrainState) (key : Int × Nat) : Decidable (s.OwesBuffer key) :=
  inferInstanceAs (Decidable (Owed ..))

instance (s : DrainState) (frameNumber : Nat) : Decidable (s.OwesMetadata frameNumber) :=
  inferInstanceAs (Decidable (Owed ..))

def next (lib : MetadataLib) (s : DrainState) : DrainOp → DrainState
  | .submit world request =>
      match prepareRequest lib world request { session := s.session } with
      | .ok pending c =>
          { s with
            session := c.session
            pending := pending :: s.pending
            submitted := request.frameNumber :: s.submitted }
      | .error _ c => { s with session := c.session }
  | .halReturned pending ret =>
      { s with
        session := (final (completeRequest ret pending) { session := s.session }).session
        pending := s.pending.erase pending
        accepted := if ret = statusOk then pending.request :: s.accepted else s.accepted }
  | .registerBatch frameNumber batchSize =>
      let batcher := s.session.mResultBatcher.registerBatch frameNumber batchSize
      { s with session := { s.session with mResultBatcher := batcher } }
  | .result hal =>
      let ended := if hal.Final s.session.mNumPartialResults then [hal.frameNumber] else []
      { s with
        session := (s.session.sProcessCaptureResult lib (s.session.resolve hal)).2
        returned := hal.inflightKeys ++ s.returned
        finished := ended ++ s.finished
        called := hal.frameNumber :: s.called }
  | .notifyShutter frameNumber timestamp =>
      match s.session.sNotify (.shutter frameNumber timestamp) with
      | none => s
      | some (_, session) => { s with session }
  | .notifyError frameNumber errorStream errorCode =>
      let errorStreamId := s.session.errorStreamId errorStream
      let ended := if errorCode.endsMetadata then [frameNumber] else []
      match s.session.sNotify (.error frameNumber errorStreamId errorCode) with
      | none => s
      | some (_, session) =>
          { s with session, finished := ended ++ s.finished, called := ended ++ s.called }
  | .configureStreams config answer =>
      match s.session.configureStreams config answer with
      | none => s
      | some (_, _, session) => { s with session }
  | .updateBufferCaches cachesToRemove =>
      { s with session := (s.session.updateBufferCaches cachesToRemove).2 }
  | .disconnect => { s with session := s.session.disconnect.2 }
  | .close => { s with session := s.session.close.2 }

/-- Requests use distinct frame numbers and streams and no physical camera settings. The HAL
calls back for requests it has, returns each of their buffers once, sends no metadata for
a frame whose metadata has ended, and does not refuse a request it called back for. -/
def Allowed (s : DrainState) : DrainOp → Prop
  | .submit _ request => request.physicalCameraSettings = [] ∧
      (request.buffers.map (·.streamId)).Nodup ∧ request.frameNumber ∉ s.submitted
  | .halReturned pending ret => pending ∈ s.pending ∧
      (ret ≠ statusOk → pending.request.frameNumber ∉ s.called)
  | .result hal => hal.frameNumber ∈ s.atHal.map (·.frameNumber) ∧
      (∀ key ∈ hal.inflightKeys, s.OwesBuffer key) ∧ hal.inflightKeys.Nodup ∧
      (hal.result.isSome = true → hal.frameNumber ∉ s.finished)
  | .notifyError frameNumber errorStream errorCode =>
      (∀ key ∈ errorStream, key ∈ s.session.mStreamMap) ∧
      (errorCode.endsMetadata = true → frameNumber ∈ s.atHal.map (·.frameNumber))
  | _ => True

/-- The stream pointers that the HAL passes lead to the ids they are kept under. -/
def PointersResolve (s : DrainState) : DrainOp → Prop
  | .result hal => ∀ key ∈ hal.inflightKeys, s.session.streamId key.1 = key.1
  | .notifyError _ errorStream _ => ∀ key ∈ errorStream, s.session.streamId key = key
  | _ => True

instance (s : DrainState) (op : DrainOp) : Decidable (s.Allowed op) :=
  match op with
  | .submit .. => inferInstanceAs (Decidable (_ ∧ _ ∧ _))
  | .halReturned .. => inferInstanceAs (Decidable (_ ∧ (_ → _)))
  | .result .. => inferInstanceAs (Decidable (_ ∧ (∀ key ∈ _, _) ∧ _ ∧ (_ → _)))
  | .notifyError .. => inferInstanceAs (Decidable ((∀ key ∈ _, _) ∧ (_ → _)))
  | .registerBatch .. | .notifyShutter .. | .configureStreams .. | .updateBufferCaches _
  | .disconnect | .close => isTrue trivial

instance (s : DrainState) (op : DrainOp) : Decidable (s.PointersResolve op) :=
  match op with
  | .result .. => inferInstanceAs (Decidable (∀ key ∈ _, _))
  | .notifyError .. => inferInstanceAs (Decidable (∀ key ∈ _, _))
  | .submit .. | .halReturned .. | .registerBatch .. | .notifyShutter .. | .configureStreams ..
  | .updateBufferCaches _ | .disconnect | .close => isTrue trivial

/-- Every request at the HAL has all its buffers back and its metadata at an end. -/
def Complete (s : DrainState) : Prop :=
  s.pending = [] ∧ ∀ request ∈ s.accepted,
    Settled CaptureRequest.inflightKeys s.returned request ∧
      Settled CaptureRequest.frames s.finished request

instance (s : DrainState) : Decidable s.Complete :=
  inferInstanceAs (Decidable (_ ∧ ∀ request ∈ s.accepted, _ ∧ _))

/-- The records hold what the HAL still owes and nothing else, so that they
do not stand in the way of a configuration once all requests are complete. -/
structure Drains (s : DrainState) : Prop where
  buffers : ∀ key ∈ s.session.mInflightBuffers, s.OwesBuffer key
  overrides : ∀ frameNumber ∈ s.session.mInflightAETriggerOverrides, s.OwesMetadata frameNumber
  boosts : ∀ frameNumber ∈ s.session.mInflightRawBoostPresent, s.OwesMetadata frameNumber
  idle : s.Complete → s.session.NothingInflight ∧ ∀ config answer,
    s.session.configureStreams config answer = s.session.configureIdle config answer

/-! ## What a step can do -/

section

variable (lib : MetadataLib) (s : DrainState)

/-- A request is recorded as a whole, or leaves the records as they are. -/
theorem next_submit_cases (world : RequestWorld) {request : CaptureRequest}
    (hphysical : request.physicalCameraSettings = []) :
    (∃ session pending, Registered request s.session session pending ∧
      s.next lib (.submit world request) = { s with
        session
        pending := pending :: s.pending
        submitted := request.frameNumber :: s.submitted }) ∨
      ∃ session, s.session.SameRecords session ∧
        s.next lib (.submit world request) = { s with session } := by
  have hends := prepareRequest_records lib world hphysical { session := s.session }
  rw [Ends] at hends
  simp only [next]
  cases hresult : prepareRequest lib world request { session := s.session } with
  | ok pending c =>
      rw [hresult] at hends
      exact .inl ⟨c.session, pending, hends, rfl⟩
  | error e c =>
      rw [hresult] at hends
      exact .inr ⟨c.session, hends, rfl⟩

/-- A shutter touches nothing but the batcher. -/
theorem next_notifyShutter (frameNumber : Nat) (timestamp : Int) :
    ∃ batcher, s.next lib (.notifyShutter frameNumber timestamp) =
      { s with session := { s.session with mResultBatcher := batcher } } := by
  obtain ⟨effects, batcher, hnotify⟩ := s.session.sNotify_shutter frameNumber timestamp
  refine ⟨batcher, ?_⟩
  simp only [next, hnotify]

/-- Streams are configured only while nothing is in flight, and the records are kept. -/
theorem next_configureStreams_cases (config : StreamConfiguration)
    (answer : ConfigureAnswer) :
    s.next lib (.configureStreams config answer) = s ∨ s.session.NothingInflight ∧
      ∃ session, s.session.KeepsRecords session ∧
        s.next lib (.configureStreams config answer) = { s with session } := by
  simp only [next]
  split
  next => exact .inl rfl
  next status events session hconfigure =>
    rcases Session.configureStreams_cases hconfigure with rfl | ⟨hidle, hkeeps⟩
    · exact .inl rfl
    · exact .inr ⟨hidle, session, hkeeps, rfl⟩

end

/-! ## The invariant -/

/-- The buffer records are exactly the buffers owed, and the records of overrides and boosts
are of frames with metadata owed. Boosts come with a callback, and an override with the
flag that makes a refusal by the HAL take it back. -/
structure Tracks (s : DrainState) : Prop where
  frames : (s.atHal.map (·.frameNumber)).Nodup
  submitted : ∀ request ∈ s.atHal, request.frameNumber ∈ s.submitted
  called : ∀ frameNumber ∈ s.called, frameNumber ∈ s.submitted
  returned : ∀ key ∈ s.returned, key.2 ∈ s.called
  finished : ∀ frameNumber ∈ s.finished, frameNumber ∈ s.called
  buffers : ∀ key, key ∈ s.session.mInflightBuffers ↔ s.OwesBuffer key
  overrides : ∀ frameNumber ∈ s.session.mInflightAETriggerOverrides, s.OwesMetadata frameNumber
  boosts : ∀ frameNumber ∈ s.session.mInflightRawBoostPresent,
    s.OwesMetadata frameNumber ∧ frameNumber ∈ s.called ∧ s.session.mDerivePostRawSensKey = true
  cancels : ∀ pending ∈ s.pending,
    pending.request.frameNumber ∈ s.session.mInflightAETriggerOverrides →
      pending.aeCancelTriggerNeeded = true

theorem Tracks.initial {session : Session} (hidle : session.NothingInflight) :
    ({ session } : DrainState).Tracks := by
  obtain ⟨hbuffers, hoverrides, hboosts⟩ := Session.nothingInflight_iff.mp hidle
  constructor <;> simp [atHal, OwesBuffer, Owed, hbuffers, hoverrides, hboosts]

theorem mem_frames {request : CaptureRequest} {frameNumber : Nat} :
    frameNumber ∈ request.frames ↔ frameNumber = request.frameNumber := List.mem_singleton

theorem OwesMetadata.exists_atHal {s : DrainState} {frameNumber : Nat}
    (h : s.OwesMetadata frameNumber) : ∃ request ∈ s.atHal, request.frameNumber = frameNumber := by
  obtain ⟨⟨request, hrequest, hframe⟩, -⟩ := h
  exact ⟨request, hrequest, (mem_frames.mp hframe).symm⟩

theorem Tracks.drains {s : DrainState} (h : s.Tracks) : s.Drains := by
  have hbuffers := fun key => (h.buffers key).mp
  have hboosts := fun frameNumber hmem => (h.boosts frameNumber hmem).1
  refine ⟨hbuffers, h.overrides, hboosts, fun ⟨hpending, hsettled⟩ => ?_⟩
  have hatHal : s.atHal = s.accepted := by rw [atHal, hpending, List.map_nil, List.nil_append]
  have hnobuffer : ∀ key, ¬s.OwesBuffer key := by
    intro key
    rw [OwesBuffer, hatHal]
    exact not_owed_of_settled fun request hrequest => (hsettled request hrequest).1
  have hnoframe : ∀ frameNumber, ¬s.OwesMetadata frameNumber := by
    intro frameNumber
    rw [OwesMetadata, hatHal]
    exact not_owed_of_settled fun request hrequest => (hsettled request hrequest).2
  have hidle : s.session.NothingInflight := Session.nothingInflight_iff.mpr
    ⟨fun key hkey => hnobuffer key (hbuffers key hkey),
      fun frameNumber hmem => hnoframe frameNumber (h.overrides frameNumber hmem),
      fun frameNumber hmem => hnoframe frameNumber (hboosts frameNumber hmem)⟩
  exact ⟨hidle, fun config answer => if_neg (not_not_intro hidle)⟩

/-- An operation that leaves the records and the HAL alone keeps the invariant. -/
theorem Tracks.keeps {s : DrainState} (h : s.Tracks) {session : Session}
    (hkeeps : s.session.KeepsRecords session) : ({ s with session } : DrainState).Tracks where
  frames := h.frames
  submitted := h.submitted
  called := h.called
  returned := h.returned
  finished := h.finished
  buffers key := by
    dsimp only
    rw [hkeeps.buffers]
    exact h.buffers key
  overrides frameNumber hmem := by
    dsimp only at hmem
    rw [hkeeps.overrides] at hmem
    exact h.overrides frameNumber hmem
  boosts frameNumber hmem := by
    dsimp only at hmem ⊢
    rw [hkeeps.boosts] at hmem
    rw [hkeeps.derives]
    exact h.boosts frameNumber hmem
  cancels pending hpending hmem := by
    dsimp only at hmem
    rw [hkeeps.overrides] at hmem
    exact h.cancels pending hpending hmem

/-! ## Requests -/

theorem Tracks.submit {s : DrainState} (h : s.Tracks) {request : CaptureRequest}
    (hfresh : request.frameNumber ∉ s.submitted) {session : Session} {pending : PendingRequest}
    (hregistered : Registered request s.session session pending) :
    ({ s with
      session
      pending := pending :: s.pending
      submitted := request.frameNumber :: s.submitted } : DrainState).Tracks := by
  obtain rfl := hregistered.sameRequest
  -- the frame number is fresh: no request at the HAL has it, and nothing came back for it
  have hnot : ∀ other ∈ s.atHal, other.frameNumber ≠ pending.request.frameNumber :=
    fun other hother heq => hfresh (heq ▸ h.submitted other hother)
  have howesBuffer : ∀ key, Owed CaptureRequest.inflightKeys (pending.request :: s.atHal)
      s.returned key ↔ s.OwesBuffer key ∨ key ∈ pending.request.inflightKeys := fun key =>
    owed_cons fun key hkey hreturned =>
      hfresh (CaptureRequest.frame_of_mem_inflightKeys hkey ▸ h.called _ (h.returned key hreturned))
  have howesMetadata : ∀ frameNumber, Owed CaptureRequest.frames (pending.request :: s.atHal)
      s.finished frameNumber ↔
        s.OwesMetadata frameNumber ∨ frameNumber ∈ pending.request.frames := fun frameNumber =>
    owed_cons fun frameNumber hframe hfinished =>
      hfresh (mem_frames.mp hframe ▸ h.called _ (h.finished frameNumber hfinished))
  have hnoOverride : pending.request.frameNumber ∉ s.session.mInflightAETriggerOverrides := by
    intro hmem
    obtain ⟨other, hother, heq⟩ := (h.overrides _ hmem).exists_atHal
    exact hnot other hother heq
  constructor
  · refine List.nodup_cons.mpr ⟨fun hmem => ?_, h.frames⟩
    obtain ⟨other, hother, heq⟩ := List.mem_map.mp hmem
    exact hnot other hother heq
  · intro other hother
    rcases List.mem_cons.mp hother with rfl | hother
    · exact List.mem_cons_self
    · exact List.mem_cons_of_mem _ (h.submitted other hother)
  · exact fun frameNumber hcalled => List.mem_cons_of_mem _ (h.called frameNumber hcalled)
  · exact h.returned
  · exact h.finished
  · intro key
    rw [hregistered.mem_buffers, h.buffers key]
    exact (howesBuffer key).symm
  · intro frameNumber hmem
    rcases (hregistered.mem_overrides frameNumber).mp hmem with hold | ⟨-, heq⟩
    · exact (howesMetadata frameNumber).mpr (.inl (h.overrides frameNumber hold))
    · exact (howesMetadata frameNumber).mpr (.inr (mem_frames.mpr heq))
  · intro frameNumber hmem
    dsimp only at hmem ⊢
    rw [hregistered.boosts] at hmem
    rw [hregistered.derives]
    obtain ⟨howes, hrest⟩ := h.boosts frameNumber hmem
    exact ⟨(howesMetadata frameNumber).mpr (.inl howes), hrest⟩
  · intro other hother hmem
    -- an override of the new frame is the one its own request has just set
    rcases (hregistered.mem_overrides _).mp hmem with hold | ⟨hneeded, heq⟩
    · rcases List.mem_cons.mp hother with rfl | hother
      · exact absurd hold hnoOverride
      · exact h.cancels other hother hold
    · rcases List.mem_cons.mp hother with rfl | hother
      · exact hneeded
      · exact absurd heq (hnot _ (List.mem_append_left _ (List.mem_map_of_mem hother)))

/-- The requests at the HAL, with a pending one in front. -/
theorem atHal_perm {s : DrainState} {pending : PendingRequest} (hpending : pending ∈ s.pending) :
    s.atHal.Perm (pending.request ::
      ((s.pending.erase pending).map (·.request) ++ s.accepted)) := by
  have hperm := (List.perm_cons_erase hpending).map PendingRequest.request
  exact hperm.append_right s.accepted

theorem Tracks.accept {s : DrainState} (h : s.Tracks) {pending : PendingRequest}
    (hpending : pending ∈ s.pending) :
    ({ s with
      pending := s.pending.erase pending
      accepted := pending.request :: s.accepted } : DrainState).Tracks := by
  have hperm : s.atHal.Perm
      ((s.pending.erase pending).map (·.request) ++ pending.request :: s.accepted) :=
    (atHal_perm hpending).trans List.perm_middle.symm
  constructor
  · exact (hperm.map _).nodup_iff.mp h.frames
  · exact fun request hrequest => h.submitted request (hperm.mem_iff.mpr hrequest)
  · exact h.called
  · exact h.returned
  · exact h.finished
  · exact fun key => (h.buffers key).trans (owed_perm hperm)
  · exact fun frameNumber hmem => (owed_perm hperm).mp (h.overrides frameNumber hmem)
  · exact fun frameNumber hmem => (h.boosts frameNumber hmem).imp_left (owed_perm hperm).mp
  · exact fun other hother => h.cancels other (List.mem_of_mem_erase hother)

/-- A request that the HAL refuses, without having called back for it, leaves no record. -/
theorem Tracks.refuse {s : DrainState} (h : s.Tracks) {pending : PendingRequest}
    (hpending : pending ∈ s.pending) (hcalled : pending.request.frameNumber ∉ s.called) :
    ({ s with
      session := s.session.dropRequest pending.request pending.aeCancelTriggerNeeded
      pending := s.pending.erase pending } : DrainState).Tracks := by
  have hperm := atHal_perm hpending
  have hframes := (hperm.map CaptureRequest.frameNumber).nodup_iff.mp h.frames
  obtain ⟨hunique, hrest⟩ := List.nodup_cons.mp hframes
  -- no other request at the HAL has the frame, so what is withdrawn was owed by this one
  have hother : ∀ other ∈ (s.pending.erase pending).map (·.request) ++ s.accepted,
      other.frameNumber ≠ pending.request.frameNumber :=
    fun other hother heq => hunique (heq ▸ List.mem_map_of_mem hother)
  have howesMetadata : ∀ frameNumber, s.OwesMetadata frameNumber →
      frameNumber ≠ pending.request.frameNumber →
      Owed CaptureRequest.frames ((s.pending.erase pending).map (·.request) ++ s.accepted)
        s.finished frameNumber := by
    intro frameNumber howes hne
    refine (owed_withdraw fun other hmem key hkey => ?_).mpr
      ⟨(owed_perm hperm).mp howes, fun heq => hne (mem_frames.mp heq)⟩
    exact fun hself => hother other hmem ((mem_frames.mp hkey).symm.trans (mem_frames.mp hself))
  have hoverride : ∀ frameNumber, frameNumber ∈ (s.session.dropRequest pending.request
      pending.aeCancelTriggerNeeded).mInflightAETriggerOverrides →
      frameNumber ∈ s.session.mInflightAETriggerOverrides ∧
        frameNumber ≠ pending.request.frameNumber := by
    intro frameNumber hmem
    rw [Session.dropRequest] at hmem
    dsimp only at hmem
    split at hmem
    next =>
      exact Std.ExtTreeMap.mem_erase_iff.mp hmem
    next hneeded =>
      refine ⟨hmem, fun heq => hneeded (h.cancels pending hpending (heq ▸ hmem))⟩
  constructor
  · exact hrest
  · exact fun other hmem => h.submitted other (hperm.mem_iff.mpr (List.mem_cons_of_mem _ hmem))
  · exact h.called
  · exact h.returned
  · exact h.finished
  · intro key
    refine (Std.ExtTreeMap.mem_eraseAll _ _ _).trans ?_
    rw [h.buffers key, OwesBuffer, owed_perm hperm]
    refine (owed_withdraw fun other hmem key hkey hself => ?_).symm
    have hframe := CaptureRequest.frame_of_mem_inflightKeys hkey
    exact hother other hmem (hframe.symm.trans (CaptureRequest.frame_of_mem_inflightKeys hself))
  · intro frameNumber hmem
    obtain ⟨hold, hne⟩ := hoverride frameNumber hmem
    exact howesMetadata frameNumber (h.overrides frameNumber hold) hne
  · intro frameNumber hmem
    obtain ⟨howes, hback, hderives⟩ := h.boosts frameNumber hmem
    -- a boost entry comes from a callback, and there was none for a refused frame
    exact ⟨howesMetadata frameNumber howes fun heq => hcalled (heq ▸ hback), hback, hderives⟩
  · intro other hmem hoverridden
    exact h.cancels other (List.mem_of_mem_erase hmem) (hoverride _ hoverridden).1

/-! ## Callbacks -/

theorem resolve_inflightKeys {session : Session} {hal : Camera3CaptureResult}
    (hresolve : ∀ key ∈ hal.inflightKeys, session.streamId key.1 = key.1) :
    (session.resolve hal).inflightKeys = hal.inflightKeys := by
  have hbuffers : (session.resolve hal).buffers = hal.buffers.map fun buffer =>
      { buffer with stream := session.streamId buffer.stream } := by
    simp only [Camera3CaptureResult.buffers, Session.resolve, List.map_append]
    cases hal.inputBuffer <;> rfl
  rw [Camera3CaptureResult.inflightKeys, hbuffers, List.map_map, Camera3CaptureResult.inflightKeys]
  apply List.map_congr_left
  intro buffer hbuffer
  have hkey := hresolve (buffer.stream, hal.frameNumber) (List.mem_map_of_mem hbuffer)
  exact Prod.ext hkey rfl

theorem Tracks.resultInflight {s : DrainState} (h : s.Tracks) {hal : Camera3CaptureResult}
    (howes : ∀ key ∈ hal.inflightKeys, s.OwesBuffer key)
    (hresolve : ∀ key ∈ hal.inflightKeys, s.session.streamId key.1 = key.1) :
    s.session.ResultInflight (s.session.resolve hal) := by
  intro key hkey
  rw [resolve_inflightKeys hresolve] at hkey
  exact (h.buffers key).mpr (howes key hkey)

/-- What a callback of the HAL does to the records: the buffers of `keys` leave, the frames
`ended` lose their other records, and only the frames `calls` may get a boost. -/
structure CallbackEffect (s : DrainState) (session : Session) (keys : List (Int × Nat))
    (ended calls : List Nat) : Prop where
  calls_atHal : ∀ frameNumber ∈ calls, frameNumber ∈ s.atHal.map (·.frameNumber)
  keys_called : ∀ key ∈ keys, key.2 ∈ calls
  ended_called : ∀ frameNumber ∈ ended, frameNumber ∈ calls
  buffers : ∀ key, key ∈ session.mInflightBuffers ↔ key ∈ s.session.mInflightBuffers ∧ key ∉ keys
  overrides : ∀ frameNumber ∈ session.mInflightAETriggerOverrides,
    frameNumber ∈ s.session.mInflightAETriggerOverrides ∧ frameNumber ∉ ended
  boosts : ∀ frameNumber ∈ session.mInflightRawBoostPresent, frameNumber ∉ ended ∧
    (frameNumber ∈ s.session.mInflightRawBoostPresent ∨ frameNumber ∈ calls ∧
      s.OwesMetadata frameNumber ∧ s.session.mDerivePostRawSensKey = true)
  derives : session.mDerivePostRawSensKey = s.session.mDerivePostRawSensKey

theorem Tracks.callback {s : DrainState} (h : s.Tracks) {session : Session}
    {keys : List (Int × Nat)} {ended calls : List Nat}
    (heffect : s.CallbackEffect session keys ended calls) :
    ({ s with
      session
      returned := keys ++ s.returned
      finished := ended ++ s.finished
      called := calls ++ s.called } : DrainState).Tracks := by
  have howesMetadata : ∀ frameNumber, s.OwesMetadata frameNumber → frameNumber ∉ ended →
      Owed CaptureRequest.frames s.atHal (ended ++ s.finished) frameNumber :=
    fun frameNumber howed hnot => (owed_discharge ended).mpr ⟨howed, hnot⟩
  constructor
  · exact h.frames
  · exact h.submitted
  · intro frameNumber hmem
    rcases List.mem_append.mp hmem with hnew | hold
    · obtain ⟨request, hrequest, rfl⟩ := List.mem_map.mp (heffect.calls_atHal frameNumber hnew)
      exact h.submitted request hrequest
    · exact h.called frameNumber hold
  · intro key hmem
    apply List.mem_append.mpr
    exact (List.mem_append.mp hmem).imp (heffect.keys_called key) (h.returned key)
  · intro frameNumber hmem
    apply List.mem_append.mpr
    exact (List.mem_append.mp hmem).imp (heffect.ended_called frameNumber) (h.finished frameNumber)
  · intro key
    rw [heffect.buffers key, h.buffers key]
    exact (owed_discharge keys).symm
  · intro frameNumber hmem
    obtain ⟨hold, hnot⟩ := heffect.overrides frameNumber hmem
    exact howesMetadata frameNumber (h.overrides frameNumber hold) hnot
  · intro frameNumber hmem
    dsimp only
    rw [heffect.derives]
    obtain ⟨hnot, hold | ⟨hcalls, howed, hderives⟩⟩ := heffect.boosts frameNumber hmem
    · obtain ⟨howed, hback, hderives⟩ := h.boosts frameNumber hold
      exact ⟨howesMetadata frameNumber howed hnot, List.mem_append_right _ hback, hderives⟩
    · exact ⟨howesMetadata frameNumber howed hnot, List.mem_append_left _ hcalls, hderives⟩
  · exact fun pending hpending hmem => h.cancels pending hpending (heffect.overrides _ hmem).1

theorem Tracks.result {s : DrainState} (h : s.Tracks) (lib : MetadataLib)
    {hal : Camera3CaptureResult} (hallowed : s.Allowed (.result hal))
    (hresolve : s.PointersResolve (.result hal)) : (s.next lib (.result hal)).Tracks := by
  obtain ⟨hatHal, howes, -, hunfinished⟩ := hallowed
  have htakes := Session.sProcessCaptureResult_takes lib (h.resultInflight howes hresolve)
  have hkeys : (sShrinkCaptureResult lib s.session.handlePhysCam
      (s.session.resolve hal)).inflightKeys = hal.inflightKeys := resolve_inflightKeys hresolve
  -- shrinking the metadata does not decide whether the result is final
  have hfinal : (sShrinkCaptureResult lib s.session.handlePhysCam (s.session.resolve hal)).Final
      s.session.mNumPartialResults ↔ hal.Final s.session.mNumPartialResults :=
    Session.final_shrink _ _
  have hended : ∀ frameNumber, frameNumber ∈
      (if hal.Final s.session.mNumPartialResults then [hal.frameNumber] else []) ↔
      hal.Final s.session.mNumPartialResults ∧ frameNumber = hal.frameNumber := by
    intro frameNumber
    split
    next hlast => simp [hlast]
    next hlast => simp [hlast]
  obtain ⟨request, hrequest, hframe⟩ := List.mem_map.mp hatHal
  suffices heffect : s.CallbackEffect
      (s.session.sProcessCaptureResult lib (s.session.resolve hal)).2 hal.inflightKeys
      (if hal.Final s.session.mNumPartialResults then [hal.frameNumber] else [])
      [hal.frameNumber] from h.callback heffect
  constructor
  · exact fun frameNumber hmem => List.mem_singleton.mp hmem ▸ hatHal
  · intro key hkey
    obtain ⟨buffer, -, rfl⟩ := List.mem_map.mp hkey
    exact List.mem_singleton_self _
  · exact fun frameNumber hmem => List.mem_singleton.mpr ((hended frameNumber).mp hmem).2
  · intro key
    rw [htakes.buffers, hkeys, Std.ExtTreeMap.mem_eraseAll]
  · intro frameNumber hmem
    rw [htakes.overrides] at hmem
    obtain ⟨hold, hne⟩ := Session.mem_resultMetadata_overrides hmem
    refine ⟨hold, fun hlast => ?_⟩
    exact hne (hfinal.mpr ((hended frameNumber).mp hlast).1) ((hended frameNumber).mp hlast).2
  · intro frameNumber hmem
    rw [htakes.boosts] at hmem
    obtain ⟨hfrom, hne⟩ := Session.mem_resultMetadata_boosts hmem
    have hnot : s.session.mDerivePostRawSensKey = true → frameNumber ∉
        if hal.Final s.session.mNumPartialResults then [hal.frameNumber] else [] :=
      fun hderives hlast => hne hderives (hfinal.mpr ((hended frameNumber).mp hlast).1)
        ((hended frameNumber).mp hlast).2
    rcases hfrom with hold | ⟨hderives, hsome, rfl⟩
    · exact ⟨hnot (h.boosts frameNumber hold).2.2, .inl hold⟩
    · rw [show (sShrinkCaptureResult lib s.session.handlePhysCam (s.session.resolve hal)).result =
        lib.shrink hal.result from rfl, lib.isSome_shrink] at hsome
      have howed : s.OwesMetadata hal.frameNumber :=
        ⟨⟨request, hrequest, mem_frames.mpr hframe.symm⟩, hunfinished hsome⟩
      exact ⟨hnot hderives, .inr ⟨List.mem_singleton_self _, howed, hderives⟩⟩
  · exact htakes.derives

theorem Tracks.forget {s : DrainState} (h : s.Tracks) (frameNumber : Nat) (ended : List Nat)
    (hended : ∀ other ∈ ended, other = frameNumber)
    (hatHal : ∀ other ∈ ended, other ∈ s.atHal.map (·.frameNumber)) :
    ({ s with
      session := s.session.forgetFrame frameNumber
      finished := ended ++ s.finished
      called := ended ++ s.called } : DrainState).Tracks := by
  suffices heffect : s.CallbackEffect (s.session.forgetFrame frameNumber) [] ended ended from
    h.callback heffect
  constructor
  · exact hatHal
  · exact fun key hkey => absurd hkey List.not_mem_nil
  · exact fun other hmem => hmem
  · exact fun key => ⟨fun hmem => ⟨hmem, List.not_mem_nil⟩, And.left⟩
  · intro other hmem
    obtain ⟨hold, hne⟩ := Std.ExtTreeMap.mem_erase_iff.mp hmem
    exact ⟨hold, fun hlast => hne (hended other hlast)⟩
  · intro other hmem
    obtain ⟨hold, hne⟩ := Std.ExtTreeMap.mem_erase_iff.mp hmem
    exact ⟨fun hlast => hne (hended other hlast), .inl hold⟩
  · rfl

theorem errorStreamId_known {session : Session} {errorStream : Option Int}
    (hlive : ∀ key ∈ errorStream, key ∈ session.mStreamMap)
    (hresolve : ∀ key ∈ errorStream, session.streamId key = key) :
    session.errorStreamId errorStream = -1 ∨
      session.errorStreamId errorStream ∈ session.mStreamMap := by
  cases errorStream with
  | none => exact .inl rfl
  | some key =>
      have hid : session.errorStreamId (some key) = key := hresolve key rfl
      refine .inr ?_
      rw [hid]
      exact hlive key rfl

/-- An error that is allowed drops no records but those of its own frame. -/
theorem Tracks.notifyError {s : DrainState} (h : s.Tracks) (lib : MetadataLib)
    {frameNumber : Nat} {errorStream : Option Int} {errorCode : ErrorCode}
    (hallowed : s.Allowed (.notifyError frameNumber errorStream errorCode))
    (hresolve : s.PointersResolve (.notifyError frameNumber errorStream errorCode)) :
    (s.next lib (.notifyError frameNumber errorStream errorCode)).Tracks := by
  obtain ⟨hlive, hatHal⟩ := hallowed
  obtain ⟨effects, batcher, hnotify⟩ := s.session.sNotify_error frameNumber errorCode
    (errorStreamId_known hlive hresolve)
  simp only [next, hnotify]
  by_cases hbuffer : errorCode = .errorBuffer
  · rw [if_pos hbuffer, hbuffer]
    exact h.keeps (Session.withBatcher_keeps _ _)
  · rw [if_neg hbuffer]
    generalize hended : (if errorCode.endsMetadata = true then [frameNumber] else []) = ended
    have hmem_ended : ∀ other ∈ ended, errorCode.endsMetadata = true ∧ other = frameNumber := by
      intro other hmem
      rw [← hended] at hmem
      split at hmem
      next hends => exact ⟨hends, List.mem_singleton.mp hmem⟩
      next => exact absurd hmem List.not_mem_nil
    refine (h.forget frameNumber ended ?_ ?_).keeps (Session.withBatcher_keeps _ _)
    · exact fun other hmem => (hmem_ended other hmem).2
    · exact fun other hmem => (hmem_ended other hmem).2 ▸ hatHal (hmem_ended other hmem).1

/-! ## Runs -/

/-- Every step that is allowed keeps the records in line with what the HAL owes. -/
theorem Tracks.next {lib : MetadataLib} {s : DrainState} (h : s.Tracks) {op : DrainOp}
    (hallowed : s.Allowed op) (hresolve : s.PointersResolve op) : (s.next lib op).Tracks := by
  cases op with
  | submit world request =>
      obtain ⟨hphysical, -, hfresh⟩ := hallowed
      rcases s.next_submit_cases lib world hphysical with
        ⟨session, pending, hregistered, hnext⟩ | ⟨session, hsame, hnext⟩
      · rw [hnext]
        exact h.submit hfresh hregistered
      · rw [hnext]
        exact h.keeps hsame.keeps.1
  | halReturned pending ret =>
      obtain ⟨hpending, hcalled⟩ := hallowed
      simp only [DrainState.next, completeRequest_session]
      by_cases hret : ret = statusOk
      · rw [if_pos hret, if_pos hret]
        refine (h.accept hpending).keeps ?_
        exact .of_streams_eq ⟨rfl, rfl, rfl⟩ rfl rfl
      · rw [if_neg hret, if_neg hret]
        exact h.refuse hpending (hcalled hret)
  | registerBatch frameNumber batchSize => exact h.keeps (Session.withBatcher_keeps _ _)
  | result hal => exact h.result lib hallowed hresolve
  | notifyShutter frameNumber timestamp =>
      obtain ⟨batcher, hnext⟩ := s.next_notifyShutter lib frameNumber timestamp
      rw [hnext]
      exact h.keeps (Session.withBatcher_keeps _ _)
  | notifyError frameNumber errorStream errorCode => exact h.notifyError lib hallowed hresolve
  | configureStreams config answer =>
      rcases s.next_configureStreams_cases lib config answer with
        hnext | ⟨-, session, hkeeps, hnext⟩
      · rwa [hnext]
      · rw [hnext]
        exact h.keeps hkeeps
  | updateBufferCaches cachesToRemove =>
      refine h.keeps ?_
      rw [Session.updateBufferCaches_frame]
      exact .of_streams_eq ⟨rfl, rfl, rfl⟩ rfl rfl
  | disconnect =>
      exact h.keeps (.of_streams_eq ⟨rfl, rfl, rfl⟩ rfl rfl)
  | close =>
      refine h.keeps ?_
      rw [Session.close_frame]
      exact .of_streams_eq ⟨rfl, rfl, rfl⟩ rfl rfl

/-- So does a run, from a session with nothing in flight. -/
theorem tracks_run (lib : MetadataLib) {session : Session} (hidle : session.NothingInflight)
    {ops : List DrainOp}
    (hrun : Admits (next lib) (fun s op => s.Allowed op ∧ s.PointersResolve op)
      { session } ops) :
    (run (next lib) { session } ops).Tracks :=
  hrun.invariant Tracks (fun _ _ h hop => h.next hop.1 hop.2) (Tracks.initial hidle)

/-- In every run in which the HAL's stream pointers resolve, the records hold what the HAL
owes, and nothing once all requests are complete. -/
theorem drains_run (lib : MetadataLib) (session : Session) (hidle : session.NothingInflight)
    (ops : List DrainOp)
    (hrun : Admits (next lib) (fun s op => s.Allowed op ∧ s.PointersResolve op)
      { session } ops) :
    (run (next lib) { session } ops).Drains :=
  (tracks_run lib hidle hrun).drains

/-- A request names a stream that is not configured; the HAL takes it and completes it. -/
def unconfiguredStream : List DrainOp :=
  let request : CaptureRequest :=
    { frameNumber := 5
      settings := [3, 7]
      outputBuffers := [{ streamId := 9, bufferId := 9, buffer := some 4 }] }
  let halRequest : Camera3CaptureRequest :=
    { frameNumber := 5
      settings := some [3, 7]
      inputBuffer := none
      outputBuffers := [{ stream := 9, buffer := some 4, status := 0, acquireFence := -1 }]
      physcamId := []
      physcamSettings := [] }
  [.submit (.obliging statusOk) request,
    .halReturned
      { request, halRequest, allFences := [-1], aeCancelTriggerNeeded := false } statusOk,
    .result
      { frameNumber := 5
        result := some [3, 7]
        outputBuffers := [{ stream := 9, buffer := some 4 }]
        partialResult := 1 }]

/-- The returned buffer stays in flight, and configurations are refused from then on. -/
theorem unconfiguredStream_stuck :
    let s := run (next .ofPairs) { session := Session.withOneStream } unconfiguredStream
    Admits (next .ofPairs) Allowed { session := Session.withOneStream } unconfiguredStream ∧
      s.Complete ∧ (9, 5) ∈ s.session.mInflightBuffers ∧
      (s.session.configureStreams { streams := [{ id := 1 }] } { ret := statusOk }).map Prod.fst =
        some .internalError ∧ ¬s.Drains := by
  refine ⟨by decide, by decide, by decide, by decide, fun hdrains => ?_⟩
  have hbuffer := hdrains.buffers (9, 5) (by decide)
  exact absurd hbuffer (by decide)

/-- A session of an old device with one stream, two partial results and derived keys. -/
def legacySession : Session :=
  let s := Session.opened cameraDeviceApiVersion32 2 64 false false true ∅
  (s.configureStreams { streams := [{ id := 1 }] } { ret := statusOk }).elim s fun (_, _, s) => s

/-- A request that cancels a precapture trigger, with its metadata in two parts around the
return of the HAL call. -/
def cancelledTrigger : List DrainOp :=
  let request : CaptureRequest :=
    { frameNumber := 5
      settings := [0, 2]
      outputBuffers := [{ streamId := 1, bufferId := 9, buffer := some 4 }] }
  let halRequest : Camera3CaptureRequest :=
    { frameNumber := 5
      settings := some [0, 0]
      inputBuffer := none
      outputBuffers := [{ stream := 1, buffer := some 4, status := 0, acquireFence := -1 }]
      physcamId := []
      physcamSettings := [] }
  [.submit (.obliging statusOk) request,
    .result { frameNumber := 5, result := some [3, 7], partialResult := 1 },
    .halReturned { request, halRequest, allFences := [-1], aeCancelTriggerNeeded := true } statusOk,
    .notifyShutter 5 0,
    .result
      { frameNumber := 5
        result := some [3, 8]
        outputBuffers := [{ stream := 1, buffer := some 4 }]
        partialResult := 2 }]

theorem drains_run_cancelledTrigger :
    (run (next .ofPairs) { session := legacySession } cancelledTrigger).Drains ∧
      (run (next .ofPairs) { session := legacySession } cancelledTrigger).Complete ∧
      5 ∈ (run (next .ofPairs) { session := legacySession }
        (cancelledTrigger.take 4)).session.mInflightAETriggerOverrides :=
  ⟨drains_run .ofPairs legacySession (by decide) cancelledTrigger (by decide), by decide,
    by decide⟩

/-! ## Requests for configured streams

The pointers resolve as long as the client names streams of the session only. -/

/-- A request names streams of the session only. -/
def StreamsConfigured (s : DrainState) : DrainOp → Prop
  | .submit _ request => ∀ buffer ∈ request.buffers, buffer.streamId ∈ s.session.mStreamMap
  | _ => True

/-- The streams of the session and of the buffers in flight are kept under their ids. -/
structure Named (session : Session) : Prop where
  streams : session.StreamsNamed
  buffers : ∀ key ∈ session.mInflightBuffers, session.streamId key.1 = key.1

theorem Named.of_subset {session session' : Session} (h : Named session)
    (hstreams : session'.mStreamMap = session.mStreamMap)
    (hbuffers : ∀ key ∈ session'.mInflightBuffers, key ∈ session.mInflightBuffers) :
    Named session' where
  streams := h.streams.of_streams_eq hstreams
  buffers key hkey := by
    have hsame : session'.mStreamMap[key.1]? = session.mStreamMap[key.1]? := by rw [hstreams]
    exact (Session.streamId_congr hsame).trans (h.buffers key (hbuffers key hkey))

theorem Named.resolve {s : DrainState} (hnamed : Named s.session) (h : s.Tracks) {op : DrainOp}
    (hallowed : s.Allowed op) : s.PointersResolve op := by
  cases op with
  | result hal =>
      exact fun key hkey => hnamed.buffers key ((h.buffers key).mpr (hallowed.2.1 key hkey))
  | notifyError frameNumber errorStream errorCode =>
      exact fun key hkey => hnamed.streams key (hallowed.1 key hkey)
  | _ => trivial

theorem Named.submit {session session' : Session} {request : CaptureRequest}
    {pending : PendingRequest} (hnamed : Named session)
    (hconfigured : ∀ buffer ∈ request.buffers, buffer.streamId ∈ session.mStreamMap)
    (h : Registered request session session' pending) : Named session' where
  streams id hid := by
    rw [h.streamIds]
    rcases (h.streams id).mp hid with hold | hnew
    · exact hnamed.streams id hold
    · obtain ⟨buffer, hbuffer, rfl⟩ := List.mem_map.mp hnew
      exact hnamed.streams _ (hconfigured buffer hbuffer)
  buffers key hkey := by
    rw [h.streamIds]
    rcases (h.mem_buffers key).mp hkey with hold | hnew
    · exact hnamed.buffers key hold
    · obtain ⟨buffer, hbuffer, rfl⟩ := List.mem_map.mp hnew
      exact hnamed.streams _ (hconfigured buffer hbuffer)

/-- A step that names configured streams only keeps the names. -/
theorem Named.next {lib : MetadataLib} {s : DrainState} (hnamed : Named s.session)
    (h : s.Tracks) {op : DrainOp} (hallowed : s.Allowed op)
    (hconfigured : s.StreamsConfigured op) : Named (s.next lib op).session := by
  cases op with
  | submit world request =>
      rcases s.next_submit_cases lib world hallowed.1 with
        ⟨session, pending, hregistered, hnext⟩ | ⟨session, hsame, hnext⟩
      · rw [hnext]
        exact hnamed.submit hconfigured hregistered
      · rw [hnext]
        exact hnamed.of_subset hsame.keeps.2 fun key hkey => hsame.keeps.1.buffers ▸ hkey
  | halReturned pending ret =>
      simp only [DrainState.next, completeRequest_session]
      split
      next => exact hnamed.of_subset rfl fun key hkey => hkey
      next =>
        refine hnamed.of_subset rfl fun key hkey => ?_
        exact ((Std.ExtTreeMap.mem_eraseAll _ _ _).mp hkey).1
  | registerBatch frameNumber batchSize => exact hnamed.of_subset rfl fun key hkey => hkey
  | result hal =>
      have htakes := Session.sProcessCaptureResult_takes lib
        (h.resultInflight hallowed.2.1 (hnamed.resolve h hallowed))
      refine hnamed.of_subset htakes.mStreamMap fun key hkey => ?_
      rw [DrainState.next, htakes.buffers, Std.ExtTreeMap.mem_eraseAll] at hkey
      exact hkey.1
  | notifyShutter frameNumber timestamp =>
      obtain ⟨batcher, hnext⟩ := s.next_notifyShutter lib frameNumber timestamp
      rw [hnext]
      exact hnamed.of_subset rfl fun key hkey => hkey
  | notifyError frameNumber errorStream errorCode =>
      obtain ⟨effects, batcher, hnotify⟩ := s.session.sNotify_error frameNumber errorCode
        (errorStreamId_known hallowed.1 (hnamed.resolve h hallowed))
      simp only [DrainState.next, hnotify]
      split
      next => exact hnamed.of_subset rfl fun key hkey => hkey
      next => exact hnamed.of_subset rfl fun key hkey => hkey
  | configureStreams config answer =>
      rcases s.next_configureStreams_cases lib config answer with
        hnext | ⟨hidle, session, hkeeps, hnext⟩
      · rwa [hnext]
      · rw [hnext]
        refine ⟨hkeeps.named hnamed.streams, fun key hkey => ?_⟩
        -- a configuration goes ahead only while no buffer is in flight
        rw [hkeeps.buffers] at hkey
        exact absurd hkey ((Session.nothingInflight_iff.mp hidle).1 key)
  | updateBufferCaches cachesToRemove =>
      simp only [DrainState.next]
      rw [Session.updateBufferCaches_frame]
      exact hnamed.of_subset rfl fun key hkey => hkey
  | disconnect => exact hnamed.of_subset rfl fun key hkey => hkey
  | close =>
      simp only [DrainState.next]
      rw [Session.close_frame]
      exact hnamed.of_subset rfl fun key hkey => hkey

/-- A client that names configured streams only can always configure streams again once
its requests are complete. -/
theorem drains_of_streamsConfigured (lib : MetadataLib) (session : Session)
    (hidle : session.NothingInflight) (hnamed : session.StreamsNamed) (ops : List DrainOp)
    (hrun : Admits (next lib) (fun s op => s.Allowed op ∧ s.StreamsConfigured op)
      { session } ops) :
    (run (next lib) { session } ops).Drains := by
  have hnobuffer := (Session.nothingInflight_iff.mp hidle).1
  have hresolved : Admits (next lib) (fun s op => s.Allowed op ∧ s.PointersResolve op)
      { session } ops := by
    apply hrun.strengthen fun s => s.Tracks ∧ Named s.session
    · exact fun s op ⟨h, hnamed⟩ ⟨hallowed, hconfigured⟩ =>
        ⟨h.next hallowed (hnamed.resolve h hallowed), hnamed.next h hallowed hconfigured⟩
    · exact fun s op ⟨h, hnamed⟩ ⟨hallowed, _⟩ => ⟨hallowed, hnamed.resolve h hallowed⟩
    · exact ⟨Tracks.initial hidle, hnamed, fun key hkey => absurd hkey (hnobuffer key)⟩
  exact (tracks_run lib hidle hresolved).drains

end DrainState

end LgeHardware.Camera
