import LgeHardware.Camera.Configure
import LgeHardware.Camera.RequestSteps

/-! # The changes a configuration makes, one at a time

As a request runs along a path of primitive changes, so does a configuration. A call
of `configureStreams` may end at any point of its path.
-/

namespace LgeHardware.Camera

open LgeHardware.Foundation

inductive ConfigureStep : Call → Call → Prop
  | setCounter (c : Call) (mStreamConfigCounter : Nat) :
      ConfigureStep c { c with session := { c.session with mStreamConfigCounter } }
  | newStream (c : Call) (stream : Stream) (hnew : stream.id ∉ c.session.mStreamMap) :
      ConfigureStep c { c with session := { c.session with
        mStreamMap := c.session.mStreamMap.insert stream.id
          { stream.convertFromAidl with physicalCameraId := some stream.physicalCameraId }
        mPhysicalCameraIdMap :=
          c.session.mPhysicalCameraIdMap.insert stream.id stream.physicalCameraId
        mCirculatingBuffers := c.session.mCirculatingBuffers.insertIfNew stream.id ∅ } }
  | openPhysical (c : Call) {id : Int} (hknown : id ∈ c.session.mStreamMap) :
      ConfigureStep c { c with session := { c.session with
        mPhysicalCameraIdMap := c.session.mPhysicalCameraIdMap.insertIfNew id "" } }
  | oldStream (c : Call) (stream : Stream) {old : Camera3Stream} {physicalCameraId : String}
      (hold : c.session.mStreamMap[stream.id]? = some old)
      (hphysical : c.session.mPhysicalCameraIdMap[stream.id]? = some physicalCameraId) :
      ConfigureStep c { c with session := { c.session with
        mStreamMap := c.session.mStreamMap.insert stream.id { old with
          format := stream.format
          dataSpace := stream.dataSpace
          rotation := stream.rotation
          usage := uint32 stream.usage
          physicalCameraId := some physicalCameraId } } }
  | cleanup (c : Call) {id : Int} {cbs : CirculatingBuffers}
      (hcache : c.session.mCirculatingBuffers[id]? = some cbs) : ConfigureStep c
        { session := { c.session with
            mCirculatingBuffers := c.session.mCirculatingBuffers.erase id }
          events := c.events ++ Session.freeBuffers cbs }
  | askHal (c : Call) (streams : List Camera3Stream) :
      ConfigureStep c { c with events := c.events ++ [.configureStreams streams] }
  | fillStreams (c : Call) (filled : List (Int × FilledByHal)) :
      ConfigureStep c { c with session := c.session.fillStreams filled }
  | reopenCache (c : Call) (id : Int) : ConfigureStep c { c with session := { c.session with
      mCirculatingBuffers := c.session.mCirculatingBuffers.insertIfNew id ∅ } }
  | forgetStreams (c : Call) (removed : List Int) : ConfigureStep c
      { c with session := { c.session with
          mStreamMap := c.session.mStreamMap.eraseAll removed } }
  | finish (c : Call) (mVideoStreamIds : List Int) (mResultBatcher : ResultBatcher) :
      ConfigureStep c { c with session := { c.session with
        mVideoStreamIds
        mResultBatcher
        mFirstRequest := true } }

/-- A configuration gets from one point to another. -/
def Call.Configures (c c' : Call) : Prop := Relation.ReflTransGen ConfigureStep c c'

theorem Call.Configures.refl (c : Call) : c.Configures c := Relation.ReflTransGen.refl

theorem Call.Configures.trans {c c' c'' : Call} (h : c.Configures c') (h' : c'.Configures c'') :
    c.Configures c'' := Relation.ReflTransGen.trans h h'

theorem ConfigureStep.configures {c c' : Call} (h : ConfigureStep c c') : c.Configures c' :=
  .single h

/-! ## Stages -/

namespace Session

theorem preProcessStream_configures (s : Session) (stream : Stream) (events : List SessionEvent) :
    ({ session := s, events } : Call).Configures
      { session := (s.preProcessStream stream).2, events } := by
  rw [preProcessStream]
  split
  next hnew =>
    have hnotMem := Std.ExtTreeMap.notMem_of_getElem? hnew
    exact (ConfigureStep.newStream { session := s, events } stream hnotMem).configures
  next old hold =>
    split
    next => exact .refl _
    next =>
      have hknown := Std.ExtTreeMap.mem_of_getElem? hold
      have hopen := (ConfigureStep.openPhysical { session := s, events } hknown).configures
      dsimp only
      split
      next => exact hopen
      next =>
        apply hopen.trans
        apply ConfigureStep.configures
        apply ConfigureStep.oldStream _ stream hold
        dsimp only
        rw [Std.ExtTreeMap.getElem?_insertIfNew, Std.ExtTreeMap.getD_eq_getD_getElem?]
        cases hphysical : s.mPhysicalCameraIdMap[stream.id]? with
        | none =>
            have hnone := Std.ExtTreeMap.notMem_of_getElem? hphysical
            simp [hnone]
        | some physicalCameraId =>
            have hsome := Std.ExtTreeMap.mem_of_getElem? hphysical
            simp [hsome]

theorem preProcessStreams_configures (s : Session) (streams : List Stream)
    (events : List SessionEvent) :
    ({ session := s, events } : Call).Configures
      { session := (s.preProcessStreams streams).2, events } := by
  induction streams generalizing s with
  | nil => exact .refl _
  | cons stream rest ih =>
      have hfirst := s.preProcessStream_configures stream events
      rw [preProcessStreams]
      rcases hresult : s.preProcessStream stream with ⟨_ | _, s'⟩
      · rw [hresult] at hfirst
        exact hfirst
      · rw [hresult] at hfirst
        exact hfirst.trans (ih s')

theorem cleanupStreams_configures {ids : List Int} {s s' : Session} {freed : List SessionEvent}
    (h : s.cleanupStreams ids = some (freed, s')) (events : List SessionEvent) :
    ({ session := s, events } : Call).Configures { session := s', events := events ++ freed } := by
  induction ids generalizing s freed events with
  | nil =>
      cases h
      rw [List.append_nil]
      exact .refl _
  | cons id rest ih =>
      obtain ⟨⟨first, s₁⟩, hfirst, hrest⟩ := Option.bind_eq_some_iff.mp h
      obtain ⟨⟨more, s₂⟩, hmore, heq⟩ := Option.map_eq_some_iff.mp hrest
      obtain ⟨cbs, hcache, hone⟩ := Option.map_eq_some_iff.mp hfirst
      cases heq
      cases hone
      have hclean := (ConfigureStep.cleanup { session := s, events } hcache).configures
      have hall := hclean.trans (ih hmore (events ++ freeBuffers cbs))
      rwa [List.append_assoc] at hall

theorem preProcessConfigurationLocked_configures {s s' : Session} {config : StreamConfiguration}
    {ok : Bool} {events : List SessionEvent}
    (h : s.preProcessConfigurationLocked config = some (ok, events, s')) :
    ({ session := s } : Call).Configures { session := s', events } := by
  have hstreams := s.preProcessStreams_configures config.streams []
  rcases preProcessConfigurationLocked_eq_some h with ⟨-, ⟨rfl, rfl, -⟩ | ⟨-, -, hclean⟩⟩
  · exact hstreams
  · exact hstreams.trans (cleanupStreams_configures hclean [])

theorem postProcessConfigurationLocked_configures {s s' : Session} {config : StreamConfiguration}
    {freed : List SessionEvent} (h : s.postProcessConfigurationLocked config = some (freed, s'))
    (events : List SessionEvent) :
    ({ session := s, events } : Call).Configures
      { session := { s' with mFirstRequest := true }, events := events ++ freed } := by
  obtain ⟨⟨freed, s₁⟩, hclean, heq⟩ := Option.map_eq_some_iff.mp h
  cases heq
  have hcleaned : ({ session := s, events } : Call).Configures
      { session := s₁, events := events ++ freed } := by
    split at hclean
    next =>
      cases hclean
      rw [List.append_nil]
      exact .refl _
    next => exact cleanupStreams_configures hclean events
  apply hcleaned.trans
  apply (ConfigureStep.forgetStreams _ (s.removedStreams config)).configures.trans
  exact (ConfigureStep.finish _ _ _).configures

theorem reopenCaches_configures (ids : List Int) (s : Session) (events : List SessionEvent) :
    ({ session := s, events } : Call).Configures
      { session := { s with
          mCirculatingBuffers := ids.foldl (fun cbs id => cbs.insertIfNew id ∅)
            s.mCirculatingBuffers }
        events } := by
  induction ids generalizing s with
  | nil => exact .refl _
  | cons id rest ih =>
      apply (ConfigureStep.reopenCache { session := s, events } id).configures.trans
      exact ih _

theorem postProcessConfigurationFailureLocked_configures (s : Session)
    (config : StreamConfiguration) (events : List SessionEvent) :
    ({ session := s, events } : Call).Configures
      { session := s.postProcessConfigurationFailureLocked config, events } := by
  rw [postProcessConfigurationFailureLocked]
  split
  next => exact reopenCaches_configures _ s events
  next => exact .refl _

theorem configureIdle_configures {s s' : Session} {config : StreamConfiguration}
    {answer : ConfigureAnswer} {status : Status} {events : List SessionEvent}
    (h : s.configureIdle config answer = some (status, events, s')) :
    s.initStatus = .ok ∧ ({ session := s } : Call).Configures { session := s', events } ∨
      events = [] ∧ s' = s := by
  rw [configureIdle] at h
  dsimp only at h
  split at h
  next =>
    cases h
    exact .inr ⟨rfl, rfl⟩
  next hopened =>
    left
    refine ⟨Classical.not_not.mp hopened, ?_⟩
    obtain ⟨⟨ok, before, s₁⟩, hpre, hrest⟩ := Option.bind_eq_some_iff.mp h
    have hcounter :=
      (ConfigureStep.setCounter { session := s } config.streamConfigCounter).configures
    have hprepared := hcounter.trans (preProcessConfigurationLocked_configures hpre)
    dsimp only at hrest
    split at hrest
    next =>
      cases hrest
      exact hprepared
    next =>
      have hasked := hprepared.trans (ConfigureStep.askHal _
        (config.streams.map fun stream => s₁.mStreamMap.getD stream.id {})).configures
      have hfilled := hasked.trans (ConfigureStep.fillStreams _ answer.filled).configures
      split at hrest
      next =>
        obtain ⟨⟨freed, s₂⟩, hpost, heq⟩ := Option.map_eq_some_iff.mp hrest
        cases heq
        exact hfilled.trans (postProcessConfigurationLocked_configures hpost _)
      next =>
        cases hrest
        exact hfilled.trans (postProcessConfigurationFailureLocked_configures _ config _)

/-- A configuration moves along a path if the session is open and idle, and does nothing
otherwise. -/
theorem configureStreams_configures {s s' : Session} {config : StreamConfiguration}
    {answer : ConfigureAnswer} {status : Status} {events : List SessionEvent}
    (h : s.configureStreams config answer = some (status, events, s')) :
    s.initStatus = .ok ∧ ({ session := s } : Call).Configures { session := s', events } ∨
      events = [] ∧ s' = s := by
  rw [configureStreams] at h
  split at h
  next =>
    cases h
    exact .inr ⟨rfl, rfl⟩
  next => exact configureIdle_configures h

end Session

end LgeHardware.Camera
