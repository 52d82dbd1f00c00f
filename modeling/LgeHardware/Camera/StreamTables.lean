import LgeHardware.Foundation.Run
import LgeHardware.Camera.SessionCalls

/-! # The stream tables of a session agree

A session has an entry in `mCirculatingBuffers` for each stream in `mStreamMap`, so
that the clean-up of a stream finds its cache. Configurations keep the two in step,
whether they free buffers early or late. Requests do so as long as the streams they
name are in `mStreamMap` already.
-/

namespace LgeHardware.Camera

open LgeHardware.Foundation

namespace Session

/-- Every stream of the session has a cache. -/
def StreamsCached (s : Session) : Prop := ∀ id ∈ s.mStreamMap, id ∈ s.mCirculatingBuffers

/-! ## Configurations -/

theorem mem_removedStreams {s : Session} {config : StreamConfiguration} {id : Int} :
    id ∈ s.removedStreams config ↔ id ∈ s.mStreamMap ∧ config.found id = false := by
  simp [removedStreams]

theorem nodup_removedStreams (s : Session) (config : StreamConfiguration) :
    (s.removedStreams config).Nodup := Std.ExtTreeMap.nodup_keys.filter _

theorem removedStreams_congr {s s' : Session} {config : StreamConfiguration}
    (h : s'.mStreamMap = s.mStreamMap) : s'.removedStreams config = s.removedStreams config := by
  rw [removedStreams, removedStreams, h]

/-- Streams with caches can be cleaned up, which frees what is in the caches. -/
theorem cleanupStreams_eq {ids : List Int} (hnodup : ids.Nodup) {s : Session}
    (hcached : ∀ id ∈ ids, id ∈ s.mCirculatingBuffers) :
    s.cleanupStreams ids =
      some (ids.flatMap fun id => freeBuffers (s.mCirculatingBuffers.getD id ∅),
        { s with mCirculatingBuffers := s.mCirculatingBuffers.eraseAll ids }) := by
  induction ids generalizing s with
  | nil => rfl
  | cons id rest ih =>
      obtain ⟨hnot, hrest⟩ := List.nodup_cons.mp hnodup
      obtain ⟨cbs, hcbs⟩ := Std.ExtTreeMap.exists_getElem?_of_mem (hcached id List.mem_cons_self)
      have hdistinct : ∀ other ∈ rest, id ≠ other := fun other hother heq => hnot (heq ▸ hother)
      have hcached' : ∀ other ∈ rest, other ∈ s.mCirculatingBuffers.erase id := by
        intro other hother
        rw [Std.ExtTreeMap.mem_erase_iff]
        exact ⟨hcached other (List.mem_cons_of_mem _ hother), (hdistinct other hother).symm⟩
      have hmore := ih hrest
        (s := { s with mCirculatingBuffers := s.mCirculatingBuffers.erase id }) hcached'
      have hsame : (rest.flatMap fun other =>
          freeBuffers ((s.mCirculatingBuffers.erase id).getD other ∅)) =
            rest.flatMap fun other => freeBuffers (s.mCirculatingBuffers.getD other ∅) := by
        apply List.flatMap_congr
        intro other hother
        rw [Std.ExtTreeMap.getD_eq_getD_getElem?, Std.ExtTreeMap.getElem?_erase_of_eq,
          if_neg (hdistinct other hother), ← Std.ExtTreeMap.getD_eq_getD_getElem?]
      have hfirst : s.mCirculatingBuffers.getD id ∅ = cbs := by
        rw [Std.ExtTreeMap.getD_eq_getD_getElem?, hcbs, Option.getD_some]
      rw [cleanupStreams, cleanupBuffersLocked, hcbs, Option.map_some, Option.bind_some]
      dsimp only
      rw [hmore, Option.map_some, hsame, List.flatMap_cons, hfirst]
      rfl

theorem cleanupStreams_of_cached {ids : List Int} (hnodup : ids.Nodup) {s : Session}
    (hcached : ∀ id ∈ ids, id ∈ s.mCirculatingBuffers) :
    ∃ events, s.cleanupStreams ids = some (events,
      { s with mCirculatingBuffers := s.mCirculatingBuffers.eraseAll ids }) :=
  ⟨_, cleanupStreams_eq hnodup hcached⟩

theorem preProcessStream_cached {s : Session} (h : s.StreamsCached) (stream : Stream) :
    (s.preProcessStream stream).2.StreamsCached := by
  rw [preProcessStream]
  split
  next =>
    intro id hid
    rcases Std.ExtTreeMap.mem_insert_iff.mp hid with hold | rfl
    · exact Std.ExtTreeMap.mem_insertIfNew_iff.mpr (.inl (h id hold))
    · exact Std.ExtTreeMap.mem_insertIfNew_self
  next old hold =>
    split
    next => exact h
    next =>
      dsimp only
      split
      next => exact h
      next =>
        intro id hid
        rcases Std.ExtTreeMap.mem_insert_iff.mp hid with hother | rfl
        · exact h id hother
        · exact h stream.id (Std.ExtTreeMap.mem_of_getElem? hold)

theorem preProcessStreams_cached {s : Session} (h : s.StreamsCached) (streams : List Stream) :
    (s.preProcessStreams streams).2.StreamsCached := by
  induction streams generalizing s with
  | nil => exact h
  | cons stream rest ih =>
      have hfirst := preProcessStream_cached h stream
      rw [preProcessStreams]
      rcases hresult : s.preProcessStream stream with ⟨_ | _, s'⟩
      · rw [hresult] at hfirst
        exact hfirst
      · rw [hresult] at hfirst
        exact ih hfirst

/-- Where configuring has come to with the removed streams: in early mode their caches are
gone already, in late mode no stream has lost its cache. -/
structure Prepared (s : Session) (config : StreamConfiguration) : Prop where
  kept : ∀ id ∈ s.mStreamMap, config.found id = true → id ∈ s.mCirculatingBuffers
  late : s.mFreeBufEarly = false → s.StreamsCached

theorem preProcessConfigurationLocked_prepared {s : Session} (h : s.StreamsCached)
    (config : StreamConfiguration) :
    ∃ ok events s', s.preProcessConfigurationLocked config = some (ok, events, s') ∧
      (ok = false → s'.StreamsCached) ∧ s'.Prepared config := by
  have hcached := preProcessStreams_cached h config.streams
  rw [preProcessConfigurationLocked]
  rcases hresult : s.preProcessStreams config.streams with ⟨_ | _, s₁⟩
  · rw [hresult] at hcached
    exact ⟨_, _, _, rfl, fun _ => hcached, fun id hid _ => hcached id hid, fun _ => hcached⟩
  · rw [hresult] at hcached
    dsimp only at hcached ⊢
    cases hearly : s₁.mFreeBufEarly with
    | false =>
        exact ⟨_, _, _, rfl, by simp, fun id hid _ => hcached id hid, fun _ => hcached⟩
    | true =>
        obtain ⟨freed, hfreed⟩ := cleanupStreams_of_cached (s₁.nodup_removedStreams config)
          fun id hid => hcached id (mem_removedStreams.mp hid).1
        rw [if_pos rfl, hfreed]
        refine ⟨_, _, _, rfl, by simp, ?_, ?_⟩
        · intro id hid hfound
          rw [Std.ExtTreeMap.mem_eraseAll]
          refine ⟨hcached id hid, fun hremoved => ?_⟩
          have hlost := (mem_removedStreams.mp hremoved).2
          rw [hfound] at hlost
          cases hlost
        · intro hlate
          rw [hearly] at hlate
          cases hlate

theorem postProcessConfigurationLocked_cached {s : Session} {config : StreamConfiguration}
    (h : s.Prepared config) :
    ∃ events s', s.postProcessConfigurationLocked config = some (events, s') ∧
      s'.StreamsCached := by
  rw [postProcessConfigurationLocked]
  cases hearly : s.mFreeBufEarly with
  | true =>
      refine ⟨_, _, rfl, fun id hid => ?_⟩
      obtain ⟨hold, hkept⟩ := (Std.ExtTreeMap.mem_eraseAll _ _ _).mp hid
      apply h.kept id hold
      by_contra hlost
      exact hkept (mem_removedStreams.mpr ⟨hold, eq_false_of_ne_true hlost⟩)
  | false =>
      have hcached := h.late hearly
      obtain ⟨freed, hfreed⟩ := cleanupStreams_of_cached (s.nodup_removedStreams config)
        fun id hid => hcached id (mem_removedStreams.mp hid).1
      rw [if_neg Bool.false_ne_true, hfreed]
      refine ⟨_, _, rfl, fun id hid => ?_⟩
      obtain ⟨hold, hkept⟩ := (Std.ExtTreeMap.mem_eraseAll _ _ _).mp hid
      exact (Std.ExtTreeMap.mem_eraseAll _ _ _).mpr ⟨hcached id hold, hkept⟩

theorem postProcessConfigurationFailureLocked_cached {s : Session}
    {config : StreamConfiguration} (h : s.Prepared config) :
    (s.postProcessConfigurationFailureLocked config).StreamsCached := by
  rw [postProcessConfigurationFailureLocked]
  cases hearly : s.mFreeBufEarly with
  | true =>
      rw [if_pos rfl]
      intro id hid
      rw [Std.ExtTreeMap.mem_foldl_insertIfNew]
      cases hfound : config.found id with
      | true => exact .inl (h.kept id hid hfound)
      | false => exact .inr (mem_removedStreams.mpr ⟨hid, hfound⟩)
  | false =>
      rw [if_neg Bool.false_ne_true]
      exact h.late hearly

theorem Prepared.fillStreams {s : Session} {config : StreamConfiguration} (h : s.Prepared config)
    (filled : List (Int × FilledByHal)) : (s.fillStreams filled).Prepared config where
  kept id hid := h.kept id ((Std.ExtTreeMap.mem_updateAll _ _ _ _).mp hid)
  late hlate id hid := h.late hlate id ((Std.ExtTreeMap.mem_updateAll _ _ _ _).mp hid)

/-- A configuration finds the caches of all streams it cleans up, and every stream has a
cache again when it returns. -/
theorem configureStreams_cached {s : Session} (h : s.StreamsCached)
    (config : StreamConfiguration) (answer : ConfigureAnswer) :
    ∃ status events s', s.configureStreams config answer = some (status, events, s') ∧
      s'.StreamsCached := by
  rw [configureStreams]
  split
  next => exact ⟨_, _, _, rfl, h⟩
  next =>
    rw [configureIdle]
    dsimp only
    split
    next => exact ⟨_, _, _, rfl, h⟩
    next =>
      have hcounted : ({ s with
          mStreamConfigCounter := config.streamConfigCounter } : Session).StreamsCached := h
      obtain ⟨ok, events, s₁, hpre, hfailed, hprepared⟩ :=
        preProcessConfigurationLocked_prepared hcounted config
      rw [hpre, Option.bind_some]
      cases ok with
      | false => exact ⟨_, _, _, rfl, hfailed rfl⟩
      | true =>
          have hfilled := hprepared.fillStreams answer.filled
          dsimp only
          by_cases hret : answer.ret = statusOk
          · obtain ⟨freed, s₂, hpost, hcached⟩ := postProcessConfigurationLocked_cached hfilled
            rw [if_neg (by simp), if_pos hret, hpost]
            exact ⟨_, _, _, rfl, hcached⟩
          · rw [if_neg (by simp), if_neg hret]
            exact ⟨_, _, _, rfl, postProcessConfigurationFailureLocked_cached hfilled⟩

/-! ## Requests -/

/-- The buffers can be imported one after the other, where those in `seen` are cached by
then. -/
def ImportableInTurn (s : Session) (world : RequestWorld) :
    List (Int × Nat) → Nat → List StreamBuffer → Prop
  | _, _, [] => True
  | seen, i, buffer :: rest =>
      (s.Importable world i buffer ∨ (buffer.streamId, buffer.bufferId) ∈ seen) ∧
        s.ImportableInTurn world
          (if buffer.buffer = none ∧ buffer.bufferId = bufferIdNoBuffer then seen
            else (buffer.streamId, buffer.bufferId) :: seen) (i + 1) rest

end Session

instance decidableImportableInTurn (s : Session) (world : RequestWorld)
    (seen : List (Int × Nat)) (i : Nat) (buffers : List StreamBuffer) :
    Decidable (s.ImportableInTurn world seen i buffers) :=
  match buffers with
  | [] => isTrue trivial
  | buffer :: rest =>
      have := decidableImportableInTurn s world
        (if buffer.buffer = none ∧ buffer.bufferId = bufferIdNoBuffer then seen
          else (buffer.streamId, buffer.bufferId) :: seen) (i + 1) rest
      inferInstanceAs (Decidable (_ ∧ Session.ImportableInTurn ..))

/-- The request passes all checks before its buffers are recorded as in flight, whichever
streams they are on. -/
structure RequestReaches (lib : MetadataLib) (s : Session) (world : RequestWorld)
    (request : CaptureRequest) : Prop where
  opened : s.initStatus = .ok
  settings : settingsOk lib s.mFirstRequest (s.mainSettings request).bytes = true
  outputs : request.outputBuffers ≠ []
  buffers : s.ImportableInTurn world [] 0 request.buffers
  fences : FencesImportable world 0 request.buffers

instance (lib : MetadataLib) (s : Session) (world : RequestWorld) (request : CaptureRequest) :
    Decidable (RequestReaches lib s world request) :=
  decidable_of_iff
    (s.initStatus = .ok ∧ settingsOk lib s.mFirstRequest (s.mainSettings request).bytes = true ∧
      request.outputBuffers ≠ [] ∧ s.ImportableInTurn world [] 0 request.buffers ∧
      FencesImportable world 0 request.buffers)
    ⟨fun ⟨hopened, hsettings, houtputs, hbuffers, hfences⟩ =>
        ⟨hopened, hsettings, houtputs, hbuffers, hfences⟩,
      fun h => ⟨h.opened, h.settings, h.outputs, h.buffers, h.fences⟩⟩

/-- What is cached at this point of a call was cached in the session or is in `seen`. -/
def Call.CachedWithin (c : Call) (s : Session) (seen : List (Int × Nat)) : Prop :=
  ∀ streamId, ∀ bufferId ∈ c.session.mCirculatingBuffers.getD streamId ∅,
    bufferId ∈ s.mCirculatingBuffers.getD streamId ∅ ∨ (streamId, bufferId) ∈ seen

/-- A buffer is cached by its import, unless it stands for none. -/
theorem importBuffer_cachedWithin (world : RequestWorld) (i : Nat) (buffer : StreamBuffer)
    (allowEmptyBuf : Bool) {c : Call} {s : Session} {seen : List (Int × Nat)}
    (hwithin : c.CachedWithin s seen) :
    Ends (importBuffer world i buffer.streamId buffer.bufferId buffer.buffer allowEmptyBuf) c
      (fun _ c' => c'.CachedWithin s
        (if buffer.buffer = none ∧ buffer.bufferId = bufferIdNoBuffer then seen
          else (buffer.streamId, buffer.bufferId) :: seen))
      (fun _ _ => True) := by
  rw [importBuffer]
  split
  next =>
    split
    next => exact hwithin
    next => trivial
  next =>
    simp only [ends_bind, ends_update, ends_getSession]
    have hcaches := fun id =>
      c.session.mCirculatingBuffers.getD_insertIfNew_default buffer.streamId id ∅
    rw [hcaches]
    cases hcached : (c.session.mCirculatingBuffers.getD buffer.streamId ∅)[buffer.bufferId]? with
    | some imported =>
        intro streamId bufferId hmem
        dsimp only at hmem
        rw [hcaches] at hmem
        exact (hwithin streamId bufferId hmem).imp id (List.mem_cons_of_mem _)
    | none =>
        cases world.importBuffer i buffer.buffer with
        | none => trivial
        | some imported =>
            intro streamId bufferId hmem
            dsimp only at hmem
            rw [Std.ExtTreeMap.getD_insert] at hmem
            split at hmem
            next heq =>
              obtain rfl := Std.LawfulEqCmp.compare_eq_iff_eq.mp heq
              rcases Std.ExtTreeMap.mem_insert_iff.mp hmem with hold | rfl
              · exact (hwithin _ bufferId hold).imp id (List.mem_cons_of_mem _)
              · exact .inr List.mem_cons_self
            next =>
              rw [hcaches] at hmem
              exact (hwithin streamId bufferId hmem).imp id (List.mem_cons_of_mem _)

theorem importBuffers_inTurn (world : RequestWorld) (numOutputBufs : Nat) (s : Session)
    (buffers : List StreamBuffer) (i : Nat)
    (hinput : ∀ j buffer, buffers[j]? = some buffer → i + j = numOutputBufs →
      buffer.bufferId ≠ bufferIdNoBuffer) {seen : List (Int × Nat)} {c : Call}
    (hwithin : c.CachedWithin s seen) :
    Ends (importBuffers world numOutputBufs true i buffers) c
      (fun _ _ => s.ImportableInTurn world seen i buffers) (fun _ _ => True) := by
  induction buffers generalizing i seen c with
  | nil => trivial
  | cons buffer rest ih =>
      have hallow : (if i = numOutputBufs then false else true) = false →
          buffer.bufferId ≠ bufferIdNoBuffer := by
        split
        next heq => exact fun _ => hinput 0 buffer rfl heq
        next => simp
      simp only [importBuffers, ends_bind, ends_pure]
      apply ((importBuffer_spec world i buffer _ hallow c).and
        (importBuffer_cachedWithin world i buffer _ hwithin)).mono
      · intro bufPtr c' h
        obtain ⟨⟨himportable, -⟩, hwithin'⟩ := h
        apply (ih (i + 1) (fun j b hj heq => ?_) hwithin').mono
        · intro bufPtrs c'' hrest
          refine ⟨?_, hrest⟩
          rcases himportable with hempty | hcached | himport
          · exact .inl (.inl hempty)
          · exact (hwithin _ _ hcached).imp (fun hold => .inr (.inl hold)) id
          · exact .inl (.inr (.inr himport))
        · exact fun _ _ _ => trivial
        · exact hinput (j + 1) b (by simpa using hj) (by omega)
      · exact fun _ _ _ => trivial

/-- Only a request that reaches the in-flight records changes more than the request queue
and the caches. -/
theorem prepareRequest_reaches (lib : MetadataLib) (world : RequestWorld)
    (request : CaptureRequest) (c : Call) :
    Ends (prepareRequest lib world request) c
      (fun _ _ => RequestReaches lib c.session world request)
      (fun _ c' => c.session.SameRecords c'.session ∨
        RequestReaches lib c.session world request) := by
  simp only [prepareRequest, ends_bind, ends_getSession, ends_check]
  refine ⟨fun hopened => ?_, fun _ => .inl rfl⟩
  apply (readSettings_spec lib request c).mono
  · rintro settings _ ⟨-, hsettings, rfl⟩
    have hread := c.reads_fetched c.session.mRequestMetadataQueue request.frameNumber none
      request.fmqSettingsSize request.settings
    refine ⟨fun houtputs => ?_, fun _ => .inl hread.sameRecords⟩
    have hwithin : (c.fetched (fetch c.session.mRequestMetadataQueue request.frameNumber none
        request.fmqSettingsSize request.settings)).CachedWithin c.session [] :=
      fun _ _ hmem => .inl hmem
    have hinput := fun j buffer => @CaptureRequest.input_bufferId request j buffer
    simp only [importRequest, importRequestImpl, ends_bind, ends_pure]
    apply ((importBuffers_inTurn world _ c.session request.buffers 0 hinput hwithin).and
      (importBuffers_spec world _ 0 request.buffers hinput _)).mono
    · rintro allBufPtrs c₁ ⟨hbuffers, -, -, himports⟩
      have hsame := hread.sameRecords.trans himports.sameRecords
      apply (importFences_spec world request.buffers [] c₁).mono
      · rintro allFences c₂ ⟨hfences, -⟩
        have hreaches : RequestReaches lib c.session world request :=
          ⟨hopened, hsettings, houtputs, hbuffers, hfences⟩
        refine ends_of_forall (fun pending c₃ => ?_) fun _ _ => .inr hreaches
        exact ends_of_forall (fun _ _ => hreaches) fun _ _ => .inr hreaches
      · rintro e _ ⟨-, -, fds, rfl⟩
        exact .inl hsame
    · rintro e c₁ ⟨-, -, -, himports⟩
      exact .inl (hread.sameRecords.trans himports.sameRecords)
  · rintro e _ ⟨-, -, rfl⟩
    exact .inl (c.reads_fetched _ _ _ _ _).sameRecords

/-- A request adds nothing to `mStreamMap`, or it reaches the in-flight records and adds the
streams of its buffers. -/
def AddsStreams (lib : MetadataLib) (world : RequestWorld) (request : CaptureRequest)
    (s s' : Session) : Prop :=
  (∀ id, id ∈ s'.mStreamMap ↔ id ∈ s.mStreamMap) ∨
    RequestReaches lib s world request ∧
      ∀ id, id ∈ s'.mStreamMap ↔ id ∈ s.mStreamMap ∨ id ∈ request.buffers.map (·.streamId)

theorem processOneCaptureRequest_addsStreams (lib : MetadataLib) (world : RequestWorld)
    (request : CaptureRequest) (c : Call) :
    Ends (processOneCaptureRequest lib world request) c
      (fun _ c' => AddsStreams lib world request c.session c'.session)
      (fun _ c' => AddsStreams lib world request c.session c'.session) := by
  rw [processOneCaptureRequest, ends_bind]
  apply ((prepareRequest_spec lib world request c).and
    (prepareRequest_reaches lib world request c)).mono
  · rintro pending c₁ ⟨⟨-, -, hrecorded⟩, hreaches⟩
    have hadds : AddsStreams lib world request c.session c₁.session :=
      .inr ⟨hreaches, hrecorded.registered.streams⟩
    rw [completeRequest]
    split
    next => exact hadds
    next => exact hadds
  · rintro e c₁ ⟨hspec, hreaches⟩
    rcases hreaches with hsame | hreaches
    · rw [Session.SameRecords] at hsame
      left
      rw [hsame]
      exact fun _ => Iff.rfl
    · rcases hspec with ⟨-, -, hsame, -⟩ | ⟨-, -, pending, hrecorded⟩
      · rw [Session.SameRecords] at hsame
        left
        rw [hsame]
        exact fun _ => Iff.rfl
      · exact .inr ⟨hreaches, hrecorded.registered.streams⟩

/-- Each request of a call that reaches the in-flight records names streams in
`mStreamMap` only. -/
def NamesConfigured (lib : MetadataLib) (c : Call) : List (RequestWorld × CaptureRequest) → Prop
  | [] => True
  | (world, request) :: rest =>
      (RequestReaches lib c.session world request →
        ∀ buffer ∈ request.buffers, buffer.streamId ∈ c.session.mStreamMap) ∧
      match processOneCaptureRequest lib world request c with
      | .ok _ c' => NamesConfigured lib c' rest
      | .error .. => True

instance decidableNamesConfigured (lib : MetadataLib) (c : Call)
    (requests : List (RequestWorld × CaptureRequest)) :
    Decidable (NamesConfigured lib c requests) :=
  match requests with
  | [] => isTrue trivial
  | (world, request) :: rest =>
      have : Decidable (match processOneCaptureRequest lib world request c with
          | .ok _ c' => NamesConfigured lib c' rest
          | .error .. => True) :=
        match processOneCaptureRequest lib world request c with
        | .ok _ c' => decidableNamesConfigured lib c' rest
        | .error .. => isTrue trivial
      inferInstanceAs (Decidable (_ ∧ _))

theorem processRequests_streams {lib : MetadataLib}
    {requests : List (RequestWorld × CaptureRequest)} {count count' : Nat} {c c' : Call}
    {status : Status} (hnames : NamesConfigured lib c requests)
    (h : processRequests lib count c requests = some (status, count', c')) (id : Int) :
    id ∈ c'.session.mStreamMap ↔ id ∈ c.session.mStreamMap := by
  induction requests generalizing c count with
  | nil =>
      cases h
      rfl
  | cons first rest ih =>
      obtain ⟨world, request⟩ := first
      have hends := processOneCaptureRequest_addsStreams lib world request c
      obtain ⟨hknown, hrest⟩ := hnames
      have hone : ∀ s', AddsStreams lib world request c.session s' →
          (id ∈ s'.mStreamMap ↔ id ∈ c.session.mStreamMap) := by
        rintro s' (hsame | ⟨hreaches, hadds⟩)
        · exact hsame id
        · rw [hadds]
          refine or_iff_left_of_imp fun hmem => ?_
          obtain ⟨buffer, hbuffer, rfl⟩ := List.mem_map.mp hmem
          exact hknown hreaches buffer hbuffer
      rw [Ends] at hends
      rw [processRequests] at h
      cases hresult : processOneCaptureRequest lib world request c with
      | ok _ c₁ =>
          rw [hresult] at hends h hrest
          exact (ih hrest h).trans (hone _ hends)
      | error e c₁ =>
          rw [hresult] at hends h
          cases e with
          | undefined => cases h
          | status error =>
              cases h
              exact hone _ hends

theorem processCaptureRequest_streams {lib : MetadataLib} {s : Session}
    {requests : List (RequestWorld × CaptureRequest)} {cachesToRemove : List BufferCache}
    {status : Status} {count : Nat} {c : Call}
    (hnames : NamesConfigured lib (s.cachesRemoved cachesToRemove) requests)
    (h : processCaptureRequest lib s requests cachesToRemove = some (status, count, c))
    (id : Int) : id ∈ c.session.mStreamMap ↔ id ∈ s.mStreamMap := by
  obtain ⟨⟨status', count', c'⟩, hrun, hlast⟩ := Option.map_eq_some_iff.mp h
  have hsame : id ∈ c'.session.mStreamMap ↔ id ∈ s.mStreamMap := by
    have hloop := processRequests_streams hnames hrun id
    rwa [Session.cachesRemoved, Session.updateBufferCaches_frame] at hloop
  rcases requests with _ | ⟨first, _ | ⟨second, rest⟩⟩
  · cases hlast
    exact hsame
  · cases hlast
    exact hsame
  · dsimp only at hlast
    split at hlast
    next =>
      cases hlast
      exact hsame
    next =>
      cases hlast
      exact hsame

/-! ## Runs -/

/-- The call configures streams. -/
def SessionOp.isConfigure : SessionOp → Bool
  | .configureStreams .. => true
  | _ => false

/-- No step of a request closes a cache. -/
theorem Call.Path.caches_mono {c c' : Call} (h : c.Path c') {id : Int}
    (hid : id ∈ c.session.mCirculatingBuffers) : id ∈ c'.session.mCirculatingBuffers := by
  induction h with
  | refl => exact hid
  | tail _ hstep ih =>
      cases hstep with
      | reads hreads =>
          obtain ⟨queue, events, rfl, -⟩ := hreads
          exact ih
      | openCache streamId => exact Std.ExtTreeMap.mem_insertIfNew_iff.mpr (.inl ih)
      | importBuffer imported hcache hnew => exact Std.ExtTreeMap.mem_insert_iff.mpr (.inl ih)
      | setOverride frameNumber override => cases override <;> exact ih
      | _ => exact ih

theorem Session.mem_updateBufferCaches_caches (s : Session) (caches : List BufferCache) (id : Int) :
    id ∈ (s.updateBufferCaches caches).2.mCirculatingBuffers ↔ id ∈ s.mCirculatingBuffers := by
  induction caches generalizing s with
  | nil => rfl
  | cons cache rest ih =>
      rw [updateBufferCaches_cons, ih]
      rcases s.removeCached_cases cache with hnone | ⟨cbs, buffer, hcache, -, hsome⟩
      · rw [hnone]
      · rw [hsome, Std.ExtTreeMap.mem_insert_iff]
        refine or_iff_left_of_imp ?_
        rintro rfl
        exact Std.ExtTreeMap.mem_of_getElem? hcache

theorem Session.StreamsCached.of_same {s s' : Session} (h : s.StreamsCached)
    (hstreams : ∀ id, id ∈ s'.mStreamMap → id ∈ s.mStreamMap)
    (hcaches : ∀ id, id ∈ s.mCirculatingBuffers → id ∈ s'.mCirculatingBuffers) :
    s'.StreamsCached := fun id hid => hcaches id (h id (hstreams id hid))

namespace SessionState

/-- In a good state the streams of an open session have caches, and no
configuration throws for want of one. -/
structure TablesAgree (s : SessionState) : Prop where
  cached : s.Open → s.session.StreamsCached
  noThrow : s.Open → ∀ config answer, s.session.configureStreams config answer ≠ none

/-- A good call leaves the ids of the streams alone unless it configures. -/
def KeepsStreams (lib : MetadataLib) (s : SessionState) (op : SessionOp) : Prop :=
  s.Open → op.isConfigure = false →
    ∀ id, id ∈ (s.next lib op).session.mStreamMap ↔ id ∈ s.session.mStreamMap

/-- The requests of the call that reach the in-flight records name streams in `mStreamMap`
only. -/
def RequestsConfigured (lib : MetadataLib) (s : SessionState) : SessionOp → Prop
  | .processCaptureRequest requests cachesToRemove => s.stage = .live →
      NamesConfigured lib (s.session.cachesRemoved cachesToRemove) requests
  | _ => True

instance (lib : MetadataLib) (s : SessionState) (op : SessionOp) :
    Decidable (s.RequestsConfigured lib op) :=
  match op with
  | .processCaptureRequest .. => inferInstanceAs (Decidable (_ → _))
  | .signalStreamFlush .. | .configureStreams .. | .processCaptureResult _ | .notifyShutter ..
  | .notifyError .. | .flush _ | .constructDefaultRequestSettings .. | .disconnect | .close
  | .destroy => isTrue trivial

/-- What is kept along a run. -/
def TablesInv (s : SessionState) : Prop := s.Open → s.session.StreamsCached

/-- The tables agree where the invariant holds. -/
theorem TablesInv.tablesAgree {s : SessionState} (h : s.TablesInv) : s.TablesAgree where
  cached := h
  noThrow hopen config answer := by
    obtain ⟨status, events, s', hresult, -⟩ :=
      Session.configureStreams_cached (h hopen) config answer
    rw [hresult]
    nofun

end SessionState

section

variable {lib : MetadataLib} {s s' : Session} {op : SessionOp} {events : List SessionEvent}

theorem SessionCall.streams (h : SessionCall lib s op events s') (hop : op.isConfigure = false)
    (hnames : ∀ requests cachesToRemove, op = .processCaptureRequest requests cachesToRemove →
      NamesConfigured lib (s.cachesRemoved cachesToRemove) requests) (id : Int) :
    id ∈ s'.mStreamMap ↔ id ∈ s.mStreamMap := by
  cases h with
  | refused | flushes | constructs | signals | disconnects => rfl
  | callback op effects hsame =>
      have hstreams := congrArg Session.mStreamMap hsame
      exact iff_of_eq (congrArg (id ∈ ·) hstreams)
  | configures => cases hop
  | removesCaches requests cachesToRemove =>
      rw [Session.cachesRemoved, Session.updateBufferCaches_frame]
  | @requests requests cachesToRemove _ _ c hstatus hpath hcall =>
      exact processCaptureRequest_streams (hnames requests cachesToRemove rfl) hcall id
  | closes => rw [Session.close_frame]

/-- A call that leaves the session open keeps the tables in step. -/
theorem SessionCall.streamsCached (h : SessionCall lib s op events s')
    (hcached : s.mClosed = false → s.StreamsCached)
    (hstreams : op.isConfigure = false → ∀ id, id ∈ s'.mStreamMap ↔ id ∈ s.mStreamMap)
    (hopen : s'.mClosed = false) : s'.StreamsCached := by
  cases h with
  | refused | flushes | constructs | signals => exact hcached hopen
  | callback op effects hsame =>
      have hclosed := (Session.sameStanding_of_withoutResults hsame).closed
      have hmap := congrArg Session.mStreamMap hsame
      have hcaches := congrArg Session.mCirculatingBuffers hsame
      apply (hcached (hclosed.symm.trans hopen)).of_same
      · exact fun id hid => (iff_of_eq (congrArg (id ∈ ·) hmap)).mp hid
      · exact fun id hid => (iff_of_eq (congrArg (id ∈ ·) hcaches)).mpr hid
  | @configures config answer _ _ _ hstatus hpath hcall =>
      have hbefore := hcached (hpath.sameStanding.closed.symm.trans hopen)
      obtain ⟨_, _, _, hresult, hafter⟩ :=
        Session.configureStreams_cached hbefore config answer
      rw [hcall] at hresult
      cases hresult
      exact hafter
  | removesCaches requests cachesToRemove =>
      have hclosed := (s.updateBufferCaches_sameStanding cachesToRemove).closed
      apply (hcached (hclosed.symm.trans hopen)).of_same
      · exact fun id hid => (hstreams rfl id).mp hid
      · exact fun id hid => (s.mem_updateBufferCaches_caches cachesToRemove id).mpr hid
  | @requests _ cachesToRemove _ _ c hstatus hpath hcall =>
      have hremoved := (s.updateBufferCaches_sameStanding cachesToRemove).closed
      have hclosed := hpath.sameStanding.closed.trans hremoved
      apply (hcached (hclosed.symm.trans hopen)).of_same
      · exact fun id hid => (hstreams rfl id).mp hid
      · intro id hid
        exact hpath.caches_mono ((s.mem_updateBufferCaches_caches cachesToRemove id).mpr hid)
  | disconnects => cases hopen
  | closes =>
      rw [Session.close] at hopen ⊢
      split at hopen
      next hclosed => exact absurd (hopen.symm.trans hclosed) Bool.false_ne_true
      next => cases hopen

end

namespace SessionState

theorem next_streams {lib : MetadataLib} {s : SessionState} {op : SessionOp}
    (hnames : s.RequestsConfigured lib op) (hop : op.isConfigure = false) (id : Int) :
    id ∈ (s.next lib op).session.mStreamMap ↔ id ∈ s.session.mStreamMap := by
  by_cases hlive : s.stage = .live
  · obtain ⟨events, -, hcall⟩ := s.next_call lib op
    apply hcall.streams hop
    rintro requests cachesToRemove rfl
    exact hnames hlive
  · rw [next, if_neg hlive]

/-- Every call keeps the invariant, as long as requests name streams that are configured. -/
theorem TablesInv.next {lib : MetadataLib} {s : SessionState} (h : s.TablesInv) {op : SessionOp}
    (hnames : s.RequestsConfigured lib op) : (s.next lib op).TablesInv := by
  by_cases hlive : s.stage = .live
  · intro hopen
    obtain ⟨events, -, hcall⟩ := s.next_call lib op
    apply hcall.streamsCached
    · exact fun hopened => h ⟨hlive, hopened⟩
    · exact fun hop => next_streams hnames hop
    · exact hopen.2
  · rw [SessionState.next, if_neg hlive]
    exact h

theorem tablesInv_constructed (device : DeviceInfo) (world : SessionWorld) :
    (constructed device world).TablesInv := by
  have hstreams : (constructed device world).session.mStreamMap = ∅ := by
    simp only [constructed, Session.construct, Session.initializeSession]
    split
    · rfl
    · split <;> rfl
  intro _ id hid
  rw [hstreams] at hid
  exact absurd hid Std.ExtTreeMap.not_mem_empty

/-- The tables agree throughout a run whose requests name configured streams only, and only
configurations change the streams. -/
theorem tablesAgree_run (lib : MetadataLib) (device : DeviceInfo) (world : SessionWorld)
    {ops : List SessionOp}
    (h : Admits (next lib) (RequestsConfigured lib) (constructed device world) ops) :
    Throughout (next lib) TablesAgree (constructed device world) ops ∧
      Admits (next lib) (KeepsStreams lib) (constructed device world) ops := by
  constructor
  · apply h.throughout TablesInv
    · exact fun s op hinv hnames => hinv.next hnames
    · exact fun s hinv => hinv.tablesAgree
    · exact tablesInv_constructed device world
  · apply h.mono
    intro s op hnames _ hop
    exact next_streams hnames hop

/-- Two streams are configured and get a request, which the HAL refuses, before one of them is
dropped and the other reconfigured. -/
def reconfigure : List SessionOp :=
  let buffer : StreamBuffer := { streamId := 1, bufferId := 5, buffer := some 7 }
  let request : CaptureRequest :=
    { frameNumber := 1, settings := [0, 1], outputBuffers := [buffer] }
  [.configureStreams { streams := [{ id := 1 }, { id := 2 }] } { ret := statusOk },
    .processCaptureRequest [(.obliging badValue, request)] [],
    .configureStreams { streams := [{ id := 1 }] } { ret := statusOk }]

theorem tablesAgree_run_reconfigure :
    Throughout (next .ofPairs) TablesAgree
        (constructed { deviceVersion := cameraDeviceApiVersion35 } {}) reconfigure ∧
      Admits (next .ofPairs) (KeepsStreams .ofPairs)
        (constructed { deviceVersion := cameraDeviceApiVersion35 } {}) reconfigure :=
  tablesAgree_run .ofPairs _ _ (by decide +kernel)

/-- A request names a stream that was never configured, with a null handle and no buffer id.
The HAL refuses it, and the next configuration throws. -/
def nameUnknownStream : List SessionOp :=
  let request : CaptureRequest :=
    { frameNumber := 1, settings := [0, 1], outputBuffers := [{ streamId := 9 }] }
  [.configureStreams { streams := [{ id := 1 }] } { ret := statusOk },
    .processCaptureRequest [(.obliging badValue, request)] [],
    .configureStreams { streams := [{ id := 1 }] } { ret := statusOk }]

theorem nameUnknownStream_throws :
    ¬(Throughout (next .ofPairs) TablesAgree
        (constructed { deviceVersion := cameraDeviceApiVersion35 } {}) nameUnknownStream ∧
      Admits (next .ofPairs) (KeepsStreams .ofPairs)
        (constructed { deviceVersion := cameraDeviceApiVersion35 } {}) nameUnknownStream) := by
  rintro ⟨hagree, -⟩
  have hnoThrow := hagree.2.2.1.noThrow (by decide +kernel) { streams := [{ id := 1 }] }
    { ret := statusOk }
  have hthrows : ((run (next .ofPairs)
      (constructed { deviceVersion := cameraDeviceApiVersion35 } {})
      (nameUnknownStream.take 2)).session.configureStreams { streams := [{ id := 1 }] }
      { ret := statusOk }).isNone = true := by
    decide +kernel
  exact hnoThrow (Option.isNone_iff_eq_none.mp hthrows)

end SessionState

end LgeHardware.Camera
