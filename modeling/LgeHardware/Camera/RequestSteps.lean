import Mathlib.Logic.Relation
import LgeHardware.Camera.RequestLaws

/-! # The changes a request makes, one at a time

Each primitive change that a capture request can make to the session and to its
environment is a step, and a request runs along a path of such steps. What every
step preserves is thereby preserved by requests, however they end.
-/

namespace LgeHardware.Camera

open LgeHardware.Foundation RequestM

/-- The event is about an acquire fence. -/
def SessionEvent.IsFence : SessionEvent → Prop
  | .importFence _ | .closeFence _ => True
  | _ => False

inductive RequestStep : Call → Call → Prop
  | reads {c c' : Call} (h : c.Reads c') : RequestStep c c'
  | openCache (c : Call) (streamId : Int) : RequestStep c
      { c with session := { c.session with
          mCirculatingBuffers := c.session.mCirculatingBuffers.insertIfNew streamId ∅ } }
  | importBuffer (c : Call) {streamId : Int} {cbs : CirculatingBuffers} {bufId : Nat}
      (imported : BufferHandle) (hcache : c.session.mCirculatingBuffers[streamId]? = some cbs)
      (hnew : bufId ∉ cbs) : RequestStep c
        { session := { c.session with mCirculatingBuffers :=
            c.session.mCirculatingBuffers.insert streamId (cbs.insert bufId imported) }
          events := c.events ++ [.importBuffer imported] }
  | fences (c : Call) {events : List SessionEvent} (h : ∀ event ∈ events, event.IsFence) :
      RequestStep c { c with events := c.events ++ events }
  | record (c : Call) (frameNumber : Nat) (buffer : Camera3StreamBuffer) : RequestStep c
      { c with session := c.session.addInflightBuffer frameNumber buffer }
  | setOverride (c : Call) (frameNumber : Nat)
      (override : Option (Blob × AETriggerCancelOverride)) : RequestStep c
        { c with session := c.session.setOverride frameNumber override }
  | submit (c : Call) (halRequest : Camera3CaptureRequest) : RequestStep c
      { c with events := c.events ++ [.processCaptureRequest halRequest] }
  | accepted (c : Call) : RequestStep c
      { c with session := { c.session with mFirstRequest := false } }
  | dropRequest (c : Call) (request : CaptureRequest) (aeCancelTriggerNeeded : Bool) :
      RequestStep c { c with session := c.session.dropRequest request aeCancelTriggerNeeded }
  | registerBatch (c : Call) (batcher : ResultBatcher) : RequestStep c
      { c with session := { c.session with mResultBatcher := batcher } }

/-- A call gets from one point to another by the steps of requests. -/
def Call.Path (c c' : Call) : Prop := Relation.ReflTransGen RequestStep c c'

theorem Call.Path.refl (c : Call) : c.Path c := Relation.ReflTransGen.refl

theorem Call.Path.trans {c c' c'' : Call} (h : c.Path c') (h' : c'.Path c'') : c.Path c'' :=
  Relation.ReflTransGen.trans h h'

theorem RequestStep.path {c c' : Call} (h : RequestStep c c') : c.Path c' := .single h

/-! ## Stages -/

/-- From anywhere, the stage moves along a path, whether it proceeds or stops. -/
def Traced {α : Type} (x : RequestM α) : Prop :=
  ∀ c, Ends x c (fun _ c' => c.Path c') fun _ c' => c.Path c'

namespace Traced

variable {α β : Type}

theorem pure (a : α) : Traced (pure a) := fun c => .refl c

theorem throw (e : RequestExit) : Traced (throw e : RequestM α) := fun c => .refl c

theorem refuse (status : Status) : Traced (refuse status : RequestM α) := fun c => .refl c

theorem getSession : Traced getSession := fun c => .refl c

theorem check (condition : Prop) [Decidable condition] (status : Status) :
    Traced (check condition status) := by
  intro c
  rw [ends_check]
  exact ⟨fun _ => .refl c, fun _ => .refl c⟩

theorem bind {x : RequestM α} {f : α → RequestM β} (hx : Traced x) (hf : ∀ a, Traced (f a)) :
    Traced (x >>= f) := by
  intro c
  rw [ends_bind]
  apply (hx c).mono
  · intro a c' hfirst
    apply (hf a c').mono
    · exact fun _ _ hrest => hfirst.trans hrest
    · exact fun _ _ hrest => hfirst.trans hrest
  · exact fun _ _ hfirst => hfirst

theorem ite {condition : Prop} [Decidable condition] {x y : RequestM α} (hx : Traced x)
    (hy : Traced y) : Traced (if condition then x else y) := by
  split
  · exact hx
  · exact hy

theorem update {f : Session → Session}
    (h : ∀ c : Call, RequestStep c { c with session := f c.session }) : Traced (update f) := by
  intro c
  rw [ends_update]
  exact (h c).path

theorem emit {events : List SessionEvent}
    (h : ∀ c : Call, RequestStep c { c with events := c.events ++ events }) :
    Traced (emit events) := by
  intro c
  rw [ends_emit]
  exact (h c).path

end Traced

theorem traced_readRequestQueue (frameNumber : Nat) (camera : Option Nat) (n : Nat) :
    Traced (readRequestQueue frameNumber camera n) := by
  intro c
  simp only [readRequestQueue, ends_bind, ends_getSession]
  cases c.session.mRequestMetadataQueue.read n with
  | none => exact .refl c
  | some found =>
      simp only [ends_bind, ends_update, ends_emit, ends_pure]
      apply RequestStep.path
      apply RequestStep.reads
      refine ⟨found.2, [.readSettings frameNumber camera found.1], rfl, ?_⟩
      intro event hevent
      rw [List.mem_singleton.mp hevent]
      trivial

theorem traced_checkSettings (converted : Option (Option Blob)) :
    Traced (checkSettings converted) := by
  cases converted with
  | none => exact .refuse _
  | some settings =>
      apply Traced.bind .getSession
      intro s
      exact .bind (.check _ _) fun _ => .pure _

theorem traced_readSettings (lib : MetadataLib) (request : CaptureRequest) :
    Traced (readSettings lib request) := by
  have hconverted : ∀ converted, Traced (pure converted >>= fun c => checkSettings c) :=
    fun converted => .bind (.pure converted) traced_checkSettings
  unfold readSettings
  apply Traced.ite
  · exact .bind (traced_readRequestQueue _ _ _) fun _ => hconverted _
  · exact hconverted _

theorem traced_readPhysicalSetting (lib : MetadataLib) (frameNumber i numFmq : Nat)
    (setting : PhysicalCameraSetting) :
    Traced (readPhysicalSetting lib frameNumber i numFmq setting) := by
  have hconverted : ∀ converted, Traced (pure converted >>= fun c => checkSettings c) :=
    fun converted => .bind (.pure converted) traced_checkSettings
  unfold readPhysicalSetting
  apply Traced.ite
  · exact hconverted _
  · apply Traced.ite
    · exact .bind (.throw _) traced_checkSettings
    · exact .bind (traced_readRequestQueue _ _ _) fun _ => hconverted _

theorem traced_readPhysicalSettings (lib : MetadataLib) (frameNumber : Nat)
    (settings : List PhysicalCameraSetting) (i numFmq : Nat) :
    Traced (readPhysicalSettings lib frameNumber i numFmq settings) := by
  induction settings generalizing i numFmq with
  | nil => exact .pure _
  | cons setting rest ih =>
      apply Traced.bind (traced_readPhysicalSetting lib frameNumber i numFmq setting)
      intro converted
      exact .bind (ih _ _) fun _ => .pure _

theorem traced_importBuffer (world : RequestWorld) (i : Nat) (streamId : Int) (bufId : Nat)
    (buf : Option BufferHandle) (allowEmptyBuf : Bool) :
    Traced (importBuffer world i streamId bufId buf allowEmptyBuf) := by
  intro c
  rw [importBuffer]
  split
  next =>
    split
    next => exact .refl c
    next => exact .refl c
  next =>
    simp only [ends_bind, ends_update, ends_getSession]
    have hopen := (RequestStep.openCache c streamId).path
    generalize hcaches : c.session.mCirculatingBuffers.insertIfNew streamId ∅ = caches at hopen ⊢
    have hmem : streamId ∈ caches := by
      rw [← hcaches]
      exact Std.ExtTreeMap.mem_insertIfNew_self
    obtain ⟨cbs, hcache⟩ := Std.ExtTreeMap.exists_getElem?_of_mem hmem
    rw [Std.ExtTreeMap.getD_eq_getD_getElem?, hcache, Option.getD_some]
    cases hnew : cbs[bufId]? with
    | some imported => exact hopen
    | none =>
        cases world.importBuffer i buf with
        | none => exact hopen
        | some imported =>
            have himport := RequestStep.importBuffer
              { c with session := { c.session with mCirculatingBuffers := caches } } imported
              hcache (Std.ExtTreeMap.notMem_of_getElem? hnew)
            exact hopen.trans himport.path

theorem traced_importBuffers (world : RequestWorld) (numOutputBufs : Nat) (allowEmptyBuf : Bool)
    (buffers : List StreamBuffer) (i : Nat) :
    Traced (importBuffers world numOutputBufs allowEmptyBuf i buffers) := by
  induction buffers generalizing i with
  | nil => exact .pure _
  | cons buffer rest ih =>
      apply Traced.bind (traced_importBuffer world i _ _ _ _)
      intro bufPtr
      exact .bind (ih _) fun _ => .pure _

theorem traced_cleanupInflightFences (allFences : List Int) :
    Traced (cleanupInflightFences allFences) := by
  apply Traced.emit
  intro c
  apply RequestStep.fences
  intro event hevent
  obtain ⟨fd, -, rfl⟩ := List.mem_map.mp hevent
  trivial

theorem traced_importFences (world : RequestWorld) (buffers : List StreamBuffer)
    (allFences : List Int) : Traced (importFences world allFences buffers) := by
  induction buffers generalizing allFences with
  | nil => exact .pure _
  | cons buffer rest ih =>
      rw [importFences]
      split
      next => exact .bind (traced_cleanupInflightFences _) fun _ => .refuse _
      next fd hfence =>
        refine .bind (.emit fun c => ?_) fun _ => ih _
        apply RequestStep.fences
        intro event hevent
        rw [List.mem_singleton.mp hevent]
        trivial

theorem traced_importRequest (world : RequestWorld) (request : CaptureRequest) :
    Traced (importRequest world request) := by
  apply Traced.bind (traced_importBuffers _ _ _ _ _)
  intro allBufPtrs
  exact .bind (traced_importFences _ _ _) fun _ => .pure _

theorem path_addInflightBuffers (c : Call) (frameNumber : Nat)
    (buffers : List Camera3StreamBuffer) :
    c.Path { c with session := c.session.addInflightBuffers frameNumber buffers } := by
  induction buffers generalizing c with
  | nil => exact .refl c
  | cons buffer rest ih =>
      have hfirst := (RequestStep.record c frameNumber buffer).path
      exact hfirst.trans (ih { c with session := c.session.addInflightBuffer frameNumber buffer })

theorem traced_registerInflight (lib : MetadataLib) (request : CaptureRequest)
    (settings : Option Blob) (allBufPtrs : List (Option BufferHandle)) (allFences : List Int) :
    Traced (registerInflight lib request settings allBufPtrs allFences) := by
  apply Traced.bind
  · exact fun c => path_addInflightBuffers c _ _
  · intro _
    apply Traced.bind .getSession
    intro s
    exact .bind (.update fun c => .setOverride c _ _) fun _ => .pure _

theorem traced_completeRequest (ret : Int) (pending : PendingRequest) :
    Traced (completeRequest ret pending) := by
  apply Traced.ite
  · exact .update fun c => .accepted c
  · apply Traced.bind (traced_cleanupInflightFences _)
    intro _
    exact .bind (.update fun c => .dropRequest c _ _) fun _ => .refuse _

/-! ## Requests and calls -/

/-- A request of a session that is not open does nothing at all. -/
theorem processOneCaptureRequest_traced (lib : MetadataLib) (world : RequestWorld)
    (request : CaptureRequest) (c : Call) :
    Ends (processOneCaptureRequest lib world request) c
      (fun _ c' => c.session.initStatus = .ok ∧ c.Path c')
      (fun e c' => c.session.initStatus = .ok ∧ c.Path c' ∨
        c' = c ∧ c.session.initStatus ≠ .ok ∧ e = .status c.session.initStatus) := by
  by_cases hopened : c.session.initStatus = .ok
  · have htraced : Traced (processOneCaptureRequest lib world request) := by
      apply Traced.bind
      · apply Traced.bind .getSession
        intro s
        apply Traced.bind (.check _ _)
        intro _
        apply Traced.bind (traced_readSettings lib request)
        intro settings
        apply Traced.bind (.check _ _)
        intro _
        apply Traced.bind (traced_importRequest world request)
        intro imported
        apply Traced.bind (traced_registerInflight lib request settings _ _)
        intro pending
        apply Traced.bind (traced_readPhysicalSettings lib _ _ _ _)
        intro physicalCameraSettings
        exact .bind (.emit fun c => .submit c _) fun _ => .pure _
      · exact fun pending => traced_completeRequest _ pending
    apply (htraced c).mono
    · exact fun _ _ h => ⟨hopened, h⟩
    · exact fun _ _ h => .inl ⟨hopened, h⟩
  · simp only [processOneCaptureRequest, prepareRequest, ends_bind, ends_getSession, ends_check]
    exact ⟨fun h => absurd h hopened, fun h => .inr ⟨trivial, h, trivial⟩⟩

/-- The loop over the requests of a call moves along a path, and does nothing in a session
that is not open. -/
theorem processRequests_path (lib : MetadataLib) {requests : List (RequestWorld × CaptureRequest)}
    {count count' : Nat} {c c' : Call} {status : Status}
    (h : processRequests lib count c requests = some (status, count', c')) :
    c.session.initStatus = .ok ∧ c.Path c' ∨ c' = c ∧ (requests ≠ [] → status ≠ .ok) := by
  induction requests generalizing c count with
  | nil =>
      cases h
      exact .inr ⟨rfl, fun h => absurd rfl h⟩
  | cons first rest ih =>
      obtain ⟨world, request⟩ := first
      have hends := processOneCaptureRequest_traced lib world request c
      rw [Ends] at hends
      rw [processRequests] at h
      cases hone : processOneCaptureRequest lib world request c with
      | ok _ c₁ =>
          rw [hone] at hends h
          obtain ⟨hopened, hfirst⟩ := hends
          left
          refine ⟨hopened, ?_⟩
          rcases ih h with ⟨-, hrest⟩ | ⟨rfl, -⟩
          · exact hfirst.trans hrest
          · exact hfirst
      | error e c₁ =>
          rw [hone] at hends h
          cases e with
          | undefined => cases h
          | status error =>
              cases h
              rcases hends with hpath | ⟨rfl, hclosed, he⟩
              · exact .inl hpath
              · cases he
                exact .inr ⟨rfl, fun _ => hclosed⟩

/-- The session and the log after `updateBufferCaches`, which starts every call. -/
def Session.cachesRemoved (s : Session) (cachesToRemove : List BufferCache) : Call :=
  { session := (s.updateBufferCaches cachesToRemove).2
    events := (s.updateBufferCaches cachesToRemove).1 }

/-- A call removes caches and then moves along a path, if the session is open. -/
theorem processCaptureRequest_path (lib : MetadataLib) {s : Session}
    {requests : List (RequestWorld × CaptureRequest)} {cachesToRemove : List BufferCache}
    {status : Status} {count : Nat} {c : Call}
    (h : processCaptureRequest lib s requests cachesToRemove = some (status, count, c)) :
    (s.cachesRemoved cachesToRemove).session.initStatus = .ok ∧
        (s.cachesRemoved cachesToRemove).Path c ∨
      c = s.cachesRemoved cachesToRemove := by
  obtain ⟨⟨status', count', c'⟩, hrun, hlast⟩ := Option.map_eq_some_iff.mp h
  have hpath := processRequests_path lib hrun
  rcases requests with _ | ⟨first, _ | ⟨second, rest⟩⟩
  · cases hlast
    exact hpath.imp id And.left
  · cases hlast
    exact hpath.imp id And.left
  · dsimp only at hlast
    by_cases hok : status' = .ok
    · rw [if_pos hok] at hlast
      cases hlast
      rcases hpath with ⟨hopened, hpath⟩ | ⟨-, hrefused⟩
      · exact .inl ⟨hopened, hpath.trans (RequestStep.registerBatch c' _).path⟩
      · exact absurd hok (hrefused (List.cons_ne_nil _ _))
    · rw [if_neg hok] at hlast
      cases hlast
      exact hpath.imp id And.left

end LgeHardware.Camera
