import Mathlib.Data.List.TakeWhile
import LgeHardware.Camera.StreamTables

/-! # What a failed configuration leaves behind

`configureStreams` enters streams into the tables of the session before it knows
whether the configuration goes through. Whether it is refused depends on the tables
only. A refused configuration has left them as they were exactly if the streams it
got to were known and asked for what they had.
-/

namespace LgeHardware.Camera

open LgeHardware.Foundation

/-- What may not change about a stream of the session. -/
structure StreamShape where
  streamType : Int
  width : Int
  height : Int
  physicalCameraId : String
  deriving DecidableEq, Repr

def StreamShape.withoutCamera (shape : StreamShape) : StreamShape :=
  { shape with physicalCameraId := "" }

def Stream.shape (stream : Stream) : StreamShape :=
  ⟨stream.streamType, stream.width, stream.height, stream.physicalCameraId⟩

/-- The fields of a known stream that a configuration overwrites. -/
def Camera3Stream.reconfigure (stream : Stream) (old : Camera3Stream) : Camera3Stream :=
  { old with
    format := stream.format
    dataSpace := stream.dataSpace
    rotation := stream.rotation
    usage := uint32 stream.usage
    physicalCameraId := some stream.physicalCameraId }

namespace Session

/-- The shape of a stream that the session has. -/
def shape (s : Session) (id : Int) : Option StreamShape :=
  s.mStreamMap[id]?.map fun stream =>
    ⟨stream.streamType, stream.width, stream.height, s.mPhysicalCameraIdMap.getD id ""⟩

/-- The stream is one of the session and keeps its shape. -/
def Matches (s : Session) (stream : Stream) : Prop := s.shape stream.id = some stream.shape

instance (s : Session) (stream : Stream) : Decidable (s.Matches stream) :=
  inferInstanceAs (Decidable (_ = _))

/-- Every stream has the shape that the session has for its id, or else the one that the
list has for it first. -/
def Consistent (s : Session) (streams : List Stream) : Prop :=
  ∀ stream ∈ streams, (s.shape stream.id).or
    ((streams.find? (·.id = stream.id)).map Stream.shape) = some stream.shape

instance (s : Session) (streams : List Stream) : Decidable (s.Consistent streams) :=
  inferInstanceAs (Decidable (∀ stream ∈ streams, _))

/-- The stream keeps the type and the size that the session has for its id. -/
def SameSize (s : Session) (stream : Stream) : Prop :=
  (s.shape stream.id).map StreamShape.withoutCamera = some stream.shape.withoutCamera

instance (s : Session) (stream : Stream) : Decidable (s.SameSize stream) :=
  inferInstanceAs (Decidable (_ = _))

/-- The streams that the configuration removes have caches. -/
def CanCleanup (s : Session) (config : StreamConfiguration) : Prop :=
  ∀ id ∈ s.removedStreams config, id ∈ s.mCirculatingBuffers

instance (s : Session) (config : StreamConfiguration) : Decidable (s.CanCleanup config) :=
  inferInstanceAs (Decidable (∀ id ∈ s.removedStreams config, _))

/-! ## The checks -/

theorem shape_eq_none {s : Session} {id : Int} : s.shape id = none ↔ id ∉ s.mStreamMap := by
  rw [shape, Option.map_eq_none_iff]
  exact ⟨Std.ExtTreeMap.notMem_of_getElem?, Std.ExtTreeMap.getElem?_eq_none⟩

/-- The entry of a new stream. -/
def newEntry (stream : Stream) : Camera3Stream :=
  { stream.convertFromAidl with physicalCameraId := some stream.physicalCameraId }

theorem preProcessStream_new {s : Session} {stream : Stream} (h : stream.id ∉ s.mStreamMap) :
    s.preProcessStream stream = (true, { s with
      mStreamMap := s.mStreamMap.insert stream.id (newEntry stream)
      mPhysicalCameraIdMap := s.mPhysicalCameraIdMap.insert stream.id stream.physicalCameraId
      mCirculatingBuffers := s.mCirculatingBuffers.insertIfNew stream.id ∅ }) := by
  rw [preProcessStream, Std.ExtTreeMap.getElem?_eq_none h]
  rfl

/-- The session after a known stream that matches. -/
def reconfigured (s : Session) (stream : Stream) : Session :=
  { s with
    mStreamMap := s.mStreamMap.alter stream.id (Option.map (Camera3Stream.reconfigure stream))
    mPhysicalCameraIdMap := s.mPhysicalCameraIdMap.insertIfNew stream.id "" }

theorem preProcessStream_matches {s : Session} {stream : Stream} (h : s.Matches stream) :
    s.preProcessStream stream = (true, s.reconfigured stream) := by
  obtain ⟨old, hold, hshape⟩ := Option.map_eq_some_iff.mp h
  obtain ⟨htype, hwidth, hheight, hid⟩ := StreamShape.mk.inj hshape
  rw [reconfigured, Std.ExtTreeMap.alter_map_of_getElem? _ hold, preProcessStream, hold]
  dsimp only
  rw [if_neg (by simp [htype, hwidth, hheight]), if_neg (not_not_intro hid), hid]
  rfl

/-- A known stream that does not match is refused, after its physical camera was looked up
if only that differs. -/
theorem preProcessStream_clash {s : Session} {stream : Stream} (hknown : stream.id ∈ s.mStreamMap)
    (h : ¬s.Matches stream) :
    s.preProcessStream stream = (false,
      if s.SameSize stream then
        { s with mPhysicalCameraIdMap := s.mPhysicalCameraIdMap.insertIfNew stream.id "" }
      else s) := by
  obtain ⟨old, hold⟩ := Std.ExtTreeMap.exists_getElem?_of_mem hknown
  have hsize : s.SameSize stream ↔ old.streamType = stream.streamType ∧
      old.width = stream.width ∧ old.height = stream.height := by
    simp [SameSize, shape, hold, Stream.shape, StreamShape.withoutCamera]
  rw [preProcessStream, hold]
  dsimp only
  by_cases hsame : s.SameSize stream
  · have hfields := hsize.mp hsame
    rw [if_pos hsame, if_neg (by simp [hfields]), if_pos]
    intro hid
    apply h
    rw [Matches, shape, hold, Option.map_some, hfields.1, hfields.2.1, hfields.2.2, hid]
    rfl
  · rw [if_neg hsame, if_pos]
    rw [hsize] at hsame
    tauto

theorem shape_reconfigured (s : Session) (stream : Stream) (id : Int) :
    (s.reconfigured stream).shape id = s.shape id := by
  simp only [shape, reconfigured, Std.ExtTreeMap.getElem?_alter,
    Std.ExtTreeMap.getD_insertIfNew_default]
  split
  next heq =>
    rw [Std.LawfulEqCmp.compare_eq_iff_eq] at heq
    rw [heq, Option.map_map]
    rfl
  next => rfl

/-- A stream that passes has its shape afterwards, and the others keep theirs. -/
theorem shape_preProcessStream {s : Session} {stream : Stream}
    (hpass : stream.id ∉ s.mStreamMap ∨ s.Matches stream) (id : Int) :
    (s.preProcessStream stream).2.shape id =
      if id = stream.id then some stream.shape else s.shape id := by
  rcases hpass with hnew | hmatches
  · rw [preProcessStream_new hnew]
    simp only [shape, Std.ExtTreeMap.getElem?_insert_of_eq, Std.ExtTreeMap.getD_insert,
      Std.LawfulEqCmp.compare_eq_iff_eq, eq_comm (a := stream.id)]
    split
    next => rfl
    next => rfl
  · rw [preProcessStream_matches hmatches]
    rw [shape_reconfigured]
    split
    next heq =>
      rw [heq]
      exact hmatches
    next => rfl

theorem preProcessStream_fst (s : Session) (stream : Stream) :
    (s.preProcessStream stream).1 = true ↔ stream.id ∉ s.mStreamMap ∨ s.Matches stream := by
  by_cases hknown : stream.id ∈ s.mStreamMap
  · by_cases hmatches : s.Matches stream
    · rw [preProcessStream_matches hmatches]
      exact ⟨fun _ => .inr hmatches, fun _ => rfl⟩
    · rw [preProcessStream_clash hknown hmatches]
      exact ⟨nofun, fun h => h.elim (absurd hknown) (absurd · hmatches)⟩
  · rw [preProcessStream_new hknown]
    exact ⟨fun _ => .inl hknown, fun _ => rfl⟩

theorem consistent_cons {s : Session} {stream : Stream} (rest : List Stream)
    (hpass : stream.id ∉ s.mStreamMap ∨ s.Matches stream) :
    s.Consistent (stream :: rest) ↔ (s.preProcessStream stream).2.Consistent rest := by
  have hfirst : (s.shape stream.id).or (some stream.shape) = some stream.shape := by
    rcases hpass with hnew | hmatches
    · rw [shape_eq_none.mpr hnew, Option.none_or]
    · rw [hmatches]
      rfl
  have hlookup : ∀ other : Stream, (s.shape other.id).or
      (((stream :: rest).find? (·.id = other.id)).map Stream.shape) =
        ((s.preProcessStream stream).2.shape other.id).or
          ((rest.find? (·.id = other.id)).map Stream.shape) := by
    intro other
    rw [shape_preProcessStream hpass, List.find?_cons]
    by_cases heq : other.id = stream.id
    · rw [if_pos heq, heq]
      simp only [decide_true, Option.map_some, hfirst]
      rfl
    · simp [heq, Ne.symm heq]
  rw [Consistent, List.forall_mem_cons]
  constructor
  · rintro ⟨-, hrest⟩ other hother
    rw [← hlookup]
    exact hrest other hother
  · intro hrest
    constructor
    · rw [List.find?_cons]
      simpa using hfirst
    · intro other hother
      rw [hlookup]
      exact hrest other hother

/-- The streams pass if and only if their shapes agree with each other and with those of the
session. -/
theorem preProcessStreams_fst (s : Session) (streams : List Stream) :
    (s.preProcessStreams streams).1 = true ↔ s.Consistent streams := by
  induction streams generalizing s with
  | nil => exact ⟨fun _ stream hstream => absurd hstream List.not_mem_nil, fun _ => rfl⟩
  | cons stream rest ih =>
      have hone := s.preProcessStream_fst stream
      rw [preProcessStreams]
      rcases hresult : s.preProcessStream stream with ⟨_ | _, s'⟩
      · rw [hresult] at hone
        refine iff_of_false Bool.false_ne_true fun hconsistent => ?_
        obtain ⟨hknown, hclash⟩ := not_or.mp fun hpass => Bool.false_ne_true (hone.mpr hpass)
        apply absurd _ hclash
        obtain ⟨shape, hshape⟩ := Option.ne_none_iff_exists'.mp
          (mt shape_eq_none.mp (not_not_intro (Classical.not_not.mp hknown)))
        have hhead := hconsistent stream List.mem_cons_self
        rw [hshape, Option.some_or] at hhead
        rw [Matches, hshape, hhead]
      · rw [hresult] at hone
        rw [consistent_cons rest (hone.mp rfl), hresult]
        exact ih s'

/-! ## What the checks leave behind -/

/-- The session apart from its tables of streams. -/
def withoutTables (s : Session) : Session :=
  { s with
    mStreamMap := ∅
    mPhysicalCameraIdMap := ∅
    mCirculatingBuffers := ∅
    mStreamConfigCounter := 0 }

/-- The tables have taken in streams with these ids, at most. -/
structure Entered (s : Session) (ids : List Int) (s' : Session) : Prop where
  others : s'.withoutTables = s.withoutTables
  kept : ∀ id ∈ s.mStreamMap, id ∈ s'.mStreamMap
  added : ∀ id ∈ s'.mStreamMap, id ∈ s.mStreamMap ∨ id ∈ ids
  caches : ∀ id, id ∈ s'.mCirculatingBuffers ↔
    id ∈ s.mCirculatingBuffers ∨ id ∈ s'.mStreamMap ∧ id ∉ s.mStreamMap

theorem Entered.refl (s : Session) (ids : List Int) : s.Entered ids s where
  others := rfl
  kept _ hid := hid
  added _ hid := .inl hid
  caches _ := by tauto

theorem Entered.trans {s s' s'' : Session} {ids ids' : List Int} (h : s.Entered ids s')
    (h' : s'.Entered ids' s'') : s.Entered (ids ++ ids') s'' where
  others := h'.others.trans h.others
  kept id hid := h'.kept id (h.kept id hid)
  added id hid := by
    rw [List.mem_append, ← or_assoc]
    exact (h'.added id hid).imp_left (h.added id)
  caches id := by
    rw [h'.caches, h.caches]
    have hkept := h.kept id
    have hkept' := h'.kept id
    tauto

theorem preProcessStream_entered (s : Session) (stream : Stream) :
    s.Entered [stream.id] (s.preProcessStream stream).2 := by
  by_cases hknown : stream.id ∈ s.mStreamMap
  · by_cases hmatches : s.Matches stream
    · rw [preProcessStream_matches hmatches]
      have hids : ∀ id, id ∈ (s.reconfigured stream).mStreamMap ↔ id ∈ s.mStreamMap :=
        Std.ExtTreeMap.mem_updateAll Camera3Stream.reconfigure _ [(stream.id, stream)]
      exact
        { others := rfl
          kept := fun id => (hids id).mpr
          added := fun id hid => .inl ((hids id).mp hid)
          caches := fun id => by
            rw [hids]
            change id ∈ s.mCirculatingBuffers ↔ _
            tauto }
    · rw [preProcessStream_clash hknown hmatches]
      dsimp only
      split
      next => exact { Entered.refl s [stream.id] with others := rfl }
      next => exact .refl s _
  · rw [preProcessStream_new hknown]
    exact
      { others := rfl
        kept := fun id hid => Std.ExtTreeMap.mem_insert_iff.mpr (.inl hid)
        added := fun id hid =>
          (Std.ExtTreeMap.mem_insert_iff.mp hid).imp_right List.mem_singleton.mpr
        caches := fun id => by
          rw [Std.ExtTreeMap.mem_insertIfNew_iff, Std.ExtTreeMap.mem_insert_iff]
          by_cases heq : id = stream.id
          · subst heq
            tauto
          · tauto }

theorem preProcessStreams_entered (s : Session) (streams : List Stream) :
    s.Entered (streams.map (·.id)) (s.preProcessStreams streams).2 := by
  induction streams generalizing s with
  | nil => exact .refl s _
  | cons stream rest ih =>
      have hfirst := s.preProcessStream_entered stream
      rw [preProcessStreams]
      rcases hresult : s.preProcessStream stream with ⟨_ | _, s'⟩
      · rw [hresult] at hfirst
        exact hfirst.trans (.refl s' _)
      · rw [hresult] at hfirst
        exact hfirst.trans (ih s')

/-- The first streams of a configuration, up to one that is new or changed. -/
def matched (s : Session) (streams : List Stream) : List Stream :=
  streams.takeWhile fun stream => s.Matches stream

def unmatched (s : Session) (streams : List Stream) : List Stream :=
  streams.dropWhile fun stream => s.Matches stream

/-- The session after known streams that match. -/
def reconfiguredAll (s : Session) (streams : List Stream) : Session :=
  { s with
    mStreamMap := s.mStreamMap.updateAll Camera3Stream.reconfigure
      (streams.map fun stream => (stream.id, stream))
    mPhysicalCameraIdMap :=
      (streams.map (·.id)).foldl (fun m id => m.insertIfNew id "") s.mPhysicalCameraIdMap }

theorem preProcessStreams_matched {s : Session} {streams : List Stream} (rest : List Stream)
    (h : ∀ stream ∈ streams, s.Matches stream) :
    s.preProcessStreams (streams ++ rest) = (s.reconfiguredAll streams).preProcessStreams rest := by
  induction streams generalizing s with
  | nil => rfl
  | cons stream others ih =>
      have hfirst := h stream List.mem_cons_self
      have hothers : ∀ other ∈ others, (s.reconfigured stream).Matches other := by
        intro other hother
        rw [Matches, shape_reconfigured]
        exact h other (List.mem_cons_of_mem _ hother)
      rw [List.cons_append, preProcessStreams, preProcessStream_matches hfirst]
      exact ih hothers

theorem shape_reconfiguredAll (s : Session) (streams : List Stream) (id : Int) :
    (s.reconfiguredAll streams).shape id = s.shape id := by
  induction streams generalizing s with
  | nil => rfl
  | cons stream rest ih =>
      have hrest : s.reconfiguredAll (stream :: rest) =
          (s.reconfigured stream).reconfiguredAll rest := rfl
      rw [hrest, ih, shape_reconfigured]

/-! ## How a configuration ends -/

theorem cleanupStreams_of_notMem {ids : List Int} {s : Session} {id : Int} (hid : id ∈ ids)
    (h : id ∉ s.mCirculatingBuffers) : s.cleanupStreams ids = none := by
  induction ids generalizing s with
  | nil => cases hid
  | cons first rest ih =>
      rw [cleanupStreams, cleanupBuffersLocked]
      cases hfirst : s.mCirculatingBuffers[first]? with
      | none => rfl
      | some cbs =>
          rcases List.mem_cons.mp hid with rfl | hrest
          · exact absurd (Std.ExtTreeMap.mem_of_getElem? hfirst) h
          · rw [Option.map_some, Option.bind_some]
            dsimp only
            rw [ih hrest]
            · rfl
            · exact fun hmem => h (Std.ExtTreeMap.mem_erase_iff.mp hmem).1

/-- A clean-up throws exactly if a stream has no cache. -/
theorem cleanupStreams_cases (s : Session) (config : StreamConfiguration) :
    (s.CanCleanup config ∧ ∃ freed, s.cleanupStreams (s.removedStreams config) = some (freed,
        { s with mCirculatingBuffers :=
            s.mCirculatingBuffers.eraseAll (s.removedStreams config) })) ∨
      ¬s.CanCleanup config ∧ s.cleanupStreams (s.removedStreams config) = none := by
  by_cases hcan : s.CanCleanup config
  · exact .inl ⟨hcan, cleanupStreams_of_cached (s.nodup_removedStreams config) hcan⟩
  · obtain ⟨id, hid, hnot⟩ :
        ∃ id ∈ s.removedStreams config, id ∉ s.mCirculatingBuffers := by
      simpa [CanCleanup] using hcan
    exact .inr ⟨hcan, cleanupStreams_of_notMem hid hnot⟩

theorem Entered.freeBufEarly {s s' : Session} {ids : List Int} (h : s.Entered ids s') :
    s'.mFreeBufEarly = s.mFreeBufEarly := by
  have hsame := congrArg mFreeBufEarly h.others
  exact hsame

theorem Entered.mem_removedStreams {s s' : Session} {config : StreamConfiguration}
    (h : s.Entered (config.streams.map (·.id)) s') (id : Int) :
    id ∈ s'.removedStreams config ↔ id ∈ s.removedStreams config := by
  rw [Session.mem_removedStreams, Session.mem_removedStreams]
  refine and_congr_left fun hremoved => ⟨fun hid => ?_, h.kept id⟩
  refine (h.added id hid).resolve_right fun hmem => ?_
  obtain ⟨stream, hstream, rfl⟩ := List.mem_map.mp hmem
  have hfound : config.found stream.id = true := List.any_eq_true.mpr ⟨stream, hstream, by simp⟩
  rw [hfound] at hremoved
  cases hremoved

theorem Entered.canCleanup {s s' : Session} {config : StreamConfiguration}
    (h : s.Entered (config.streams.map (·.id)) s') :
    s'.CanCleanup config ↔ s.CanCleanup config := by
  refine forall_congr' fun id => ?_
  rw [h.mem_removedStreams]
  refine imp_congr_right fun hid => ?_
  have hold := (Session.mem_removedStreams.mp hid).1
  rw [h.caches]
  tauto

/-- The session as the HAL sees it, once the streams have passed: in early mode without the
caches of the streams that are gone. -/
def cleaned (s : Session) (config : StreamConfiguration) : Session :=
  if s.mFreeBufEarly then
    { s with mCirculatingBuffers := s.mCirculatingBuffers.eraseAll (s.removedStreams config) }
  else s

theorem preProcessConfigurationLocked_passed {s s' : Session} {config : StreamConfiguration}
    (h : s.preProcessStreams config.streams = (true, s')) :
    (s'.mFreeBufEarly = true ∧ ¬s'.CanCleanup config ∧
        s.preProcessConfigurationLocked config = none) ∨
      (s'.mFreeBufEarly = true → s'.CanCleanup config) ∧
        ∃ events, s.preProcessConfigurationLocked config =
          some (true, events, s'.cleaned config) := by
  rw [preProcessConfigurationLocked, h]
  dsimp only
  rw [cleaned]
  by_cases hearly : s'.mFreeBufEarly = true
  · rw [if_pos hearly, if_pos hearly]
    rcases s'.cleanupStreams_cases config with ⟨hcan, freed, hfreed⟩ | ⟨hcan, hthrows⟩
    · rw [hfreed]
      exact .inr ⟨fun _ => hcan, freed, rfl⟩
    · rw [hthrows]
      exact .inl ⟨hearly, hcan, rfl⟩
  · rw [if_neg hearly, if_neg hearly]
    exact .inr ⟨fun h => absurd h hearly, [], rfl⟩

/-- The cleanup throws for want of a cache, unless the caches were freed early. -/
theorem postProcessConfigurationLocked_cases (s : Session) (config : StreamConfiguration) :
    ((s.mFreeBufEarly = false → s.CanCleanup config) ∧
        ∃ freed s', s.postProcessConfigurationLocked config = some (freed, s')) ∨
      s.mFreeBufEarly = false ∧ ¬s.CanCleanup config ∧
        s.postProcessConfigurationLocked config = none := by
  rw [postProcessConfigurationLocked]
  cases s.mFreeBufEarly with
  | true => exact .inl ⟨by simp, _, _, rfl⟩
  | false =>
      simp only [Bool.false_eq_true, if_false]
      rcases s.cleanupStreams_cases config with ⟨hcan, freed, hfreed⟩ | ⟨hcan, hthrows⟩
      · rw [hfreed]
        exact .inl ⟨fun _ => hcan, _, _, rfl⟩
      · rw [hthrows]
        exact .inr ⟨trivial, hcan, rfl⟩

/-- What the configuration is left with when the HAL has answered. -/
def answered (s : Session) (config : StreamConfiguration) (answer : ConfigureAnswer) : Session :=
  (s.cleaned config).fillStreams answer.filled

section

variable (s : Session) (config : StreamConfiguration) (answer : ConfigureAnswer)

theorem cleaned_frame : s.cleaned config =
    { s with mCirculatingBuffers := (s.cleaned config).mCirculatingBuffers } := by
  rw [cleaned]
  split
  next => rfl
  next => rfl

theorem answered_frame : s.answered config answer =
    { s with
      mStreamMap := s.mStreamMap.updateAll Camera3Stream.fill answer.filled
      mCirculatingBuffers := (s.cleaned config).mCirculatingBuffers } := by
  rw [answered, cleaned_frame]
  rfl

theorem mem_removedStreams_answered (id : Int) :
    id ∈ (s.answered config answer).removedStreams config ↔ id ∈ s.removedStreams config := by
  rw [answered_frame, mem_removedStreams, mem_removedStreams, Std.ExtTreeMap.mem_updateAll]

theorem canCleanup_answered (hlate : s.mFreeBufEarly = false) :
    (s.answered config answer).CanCleanup config ↔ s.CanCleanup config := by
  have hcaches : (s.answered config answer).mCirculatingBuffers = s.mCirculatingBuffers := by
    rw [answered_frame]
    dsimp only
    rw [cleaned, if_neg (Bool.not_eq_true _ ▸ hlate)]
  refine forall_congr' fun id => ?_
  rw [mem_removedStreams_answered, hcaches]

/-- The repair after a failure brings back the caches that were there, as to their ids. -/
theorem mem_caches_failure (hcan : s.mFreeBufEarly = true → s.CanCleanup config) (id : Int) :
    id ∈ ((s.answered config answer).postProcessConfigurationFailureLocked
        config).mCirculatingBuffers ↔ id ∈ s.mCirculatingBuffers := by
  have hearly : (s.answered config answer).mFreeBufEarly = s.mFreeBufEarly := by
    rw [answered_frame]
  have hcaches : (s.answered config answer).mCirculatingBuffers =
      (s.cleaned config).mCirculatingBuffers := by
    rw [answered_frame]
  rw [postProcessConfigurationFailureLocked, hearly]
  split
  next hmode =>
    rw [Std.ExtTreeMap.mem_foldl_insertIfNew, mem_removedStreams_answered, hcaches, cleaned,
      if_pos hmode]
    dsimp only
    rw [Std.ExtTreeMap.mem_eraseAll]
    have hcached := hcan hmode id
    tauto
  next hmode => rw [hcaches, cleaned, if_neg hmode]

theorem postProcessConfigurationFailureLocked_frame :
    s.postProcessConfigurationFailureLocked config =
      { s with mCirculatingBuffers :=
          (s.postProcessConfigurationFailureLocked config).mCirculatingBuffers } := by
  rw [postProcessConfigurationFailureLocked]
  split
  next => rfl
  next => rfl

end

/-- The session with the counter of the configuration. -/
def counted (s : Session) (config : StreamConfiguration) : Session :=
  { s with mStreamConfigCounter := config.streamConfigCounter }

/-- The session when the loop over the streams of the configuration ends. -/
def preProcessed (s : Session) (config : StreamConfiguration) : Session :=
  ((s.counted config).preProcessStreams config.streams).2

theorem preProcessed_entered (s : Session) (config : StreamConfiguration) :
    s.Entered (config.streams.map (·.id)) (s.preProcessed config) := by
  have h := (s.counted config).preProcessStreams_entered config.streams
  exact { h with others := h.others }

/-- How a configuration of an open and idle session ends: with which status and, where it is
an error, with what in the tables. -/
inductive ConfigureOutcome (s : Session) (config : StreamConfiguration)
    (answer : ConfigureAnswer) : Option (Status × Session) → Prop
  | refused (hclash : ¬s.Consistent config.streams) :
      ConfigureOutcome s config answer (some (.internalError, s.preProcessed config))
  | throws (hpass : s.Consistent config.streams)
      (hcleans : s.mFreeBufEarly = true ∨ answer.ret = statusOk) (hcan : ¬s.CanCleanup config) :
      ConfigureOutcome s config answer none
  | rejected (hpass : s.Consistent config.streams)
      (hcan : s.mFreeBufEarly = true → s.CanCleanup config) (hret : answer.ret ≠ statusOk)
      {s' : Session} (hothers : s'.withoutTables = s.withoutTables)
      (hstreams : s'.mStreamMap =
        (s.preProcessed config).mStreamMap.updateAll Camera3Stream.fill answer.filled)
      (hphysical : s'.mPhysicalCameraIdMap = (s.preProcessed config).mPhysicalCameraIdMap)
      (hcaches : ∀ id, id ∈ s'.mCirculatingBuffers ↔
        id ∈ (s.preProcessed config).mCirculatingBuffers) :
      ConfigureOutcome s config answer
        (some (if answer.ret = badValue then .illegalArgument else .internalError, s'))
  | accepted (hpass : s.Consistent config.streams) (hcan : s.CanCleanup config)
      (hret : answer.ret = statusOk) (s' : Session) :
      ConfigureOutcome s config answer (some (.ok, s'))

theorem configureIdle_outcome {s : Session} (hopened : s.initStatus = .ok)
    (config : StreamConfiguration) (answer : ConfigureAnswer) :
    s.ConfigureOutcome config answer
      ((s.configureIdle config answer).map fun result => (result.1, result.2.2)) := by
  have hentered := s.preProcessed_entered config
  have hpasses := (s.counted config).preProcessStreams_fst config.streams
  have hearly := hentered.freeBufEarly
  have hresult : (s.counted config).preProcessStreams config.streams =
      (((s.counted config).preProcessStreams config.streams).1, s.preProcessed config) := rfl
  rw [configureIdle, if_neg (not_not_intro hopened)]
  change s.ConfigureOutcome config answer (Option.map _
    (((s.counted config).preProcessConfigurationLocked config).bind _))
  cases hpass : ((s.counted config).preProcessStreams config.streams).1 with
  | false =>
      rw [hpass] at hresult
      rw [preProcessConfigurationLocked, hresult]
      apply ConfigureOutcome.refused
      exact fun hconsistent => Bool.false_ne_true (hpass.symm.trans (hpasses.mpr hconsistent))
  | true =>
      have hconsistent : s.Consistent config.streams := hpasses.mp hpass
      rw [hpass] at hresult
      rcases preProcessConfigurationLocked_passed hresult with
        ⟨hmode, hcan, hthrows⟩ | ⟨hcan, events, hpre⟩
      · rw [hthrows]
        apply ConfigureOutcome.throws hconsistent
        · exact .inl (hearly.symm.trans hmode)
        · rwa [hentered.canCleanup] at hcan
      · rw [hpre, Option.bind_some]
        dsimp only
        rw [if_neg (by simp)]
        have hmode : ((s.preProcessed config).answered config answer).mFreeBufEarly =
            s.mFreeBufEarly := by
          rw [answered_frame]
          exact hearly
        -- Without early freeing the caches are checked after the HAL has answered, over tables that
        -- the answer has moved. It comes out the same.
        have hlate : s.mFreeBufEarly = false →
            (((s.preProcessed config).answered config answer).CanCleanup config ↔
              s.CanCleanup config) := by
          intro hlate
          rw [canCleanup_answered _ _ _ (hearly.trans hlate), hentered.canCleanup]
        have hcanEarly : s.mFreeBufEarly = true → s.CanCleanup config := fun htrue =>
          hentered.canCleanup.mp (hcan (hearly.trans htrue))
        change s.ConfigureOutcome config answer (Option.map _ (if _ then
          Option.map _
            (((s.preProcessed config).answered config answer).postProcessConfigurationLocked config)
          else some (_, _, ((s.preProcessed config).answered config
            answer).postProcessConfigurationFailureLocked config)))
        by_cases hret : answer.ret = statusOk
        · rw [if_pos hret]
          rcases ((s.preProcessed config).answered config
            answer).postProcessConfigurationLocked_cases config with
              ⟨hcleaned, freed, s', hpost⟩ | ⟨hfalse, hcleaned, hpost⟩
          · rw [hpost]
            apply ConfigureOutcome.accepted hconsistent _ hret
            cases htrue : s.mFreeBufEarly with
            | true => exact hcanEarly htrue
            | false => exact (hlate htrue).mp (hcleaned (hmode.trans htrue))
          · rw [hpost]
            apply ConfigureOutcome.throws hconsistent (.inr hret)
            rwa [← hlate (hmode.symm.trans hfalse)]
        · rw [if_neg hret]
          apply ConfigureOutcome.rejected hconsistent hcanEarly hret
          · rw [postProcessConfigurationFailureLocked_frame, answered_frame]
            exact hentered.others
          · rw [postProcessConfigurationFailureLocked_frame, answered_frame]
          · rw [postProcessConfigurationFailureLocked_frame, answered_frame]
          · exact mem_caches_failure _ config answer hcan

/-! ## The status -/

/-- The status of a configuration, `none` where it throws. -/
def configureStatus (s : Session) (config : StreamConfiguration) (ret : Int) : Option Status :=
  if ¬s.NothingInflight then some .internalError
  else if s.initStatus ≠ .ok then some s.initStatus
  else if ¬s.Consistent config.streams then some .internalError
  else if (s.mFreeBufEarly = true ∨ ret = statusOk) ∧ ¬s.CanCleanup config then none
  else if ret = statusOk then some .ok
  else some (if ret = badValue then .illegalArgument else .internalError)

theorem configureStreams_status (s : Session) (config : StreamConfiguration)
    (answer : ConfigureAnswer) :
    (s.configureStreams config answer).map Prod.fst = s.configureStatus config answer.ret := by
  rw [configureStreams, configureStatus]
  by_cases hidle : s.NothingInflight
  · rw [if_neg (not_not_intro hidle), if_neg (not_not_intro hidle)]
    by_cases hopened : s.initStatus = .ok
    · have houtcome := configureIdle_outcome hopened config answer
      have hstatus : (s.configureIdle config answer).map Prod.fst =
          ((s.configureIdle config answer).map fun result => (result.1, result.2.2)).map
            Prod.fst := by
        rw [Option.map_map]
        rfl
      rw [hstatus, if_neg (not_not_intro hopened)]
      generalize (s.configureIdle config answer).map (fun result => (result.1, result.2.2)) =
        ended at houtcome ⊢
      cases houtcome with
      | refused hclash =>
          rw [if_pos hclash]
          rfl
      | throws hpass hcleans hcan =>
          rw [if_neg (not_not_intro hpass), if_pos ⟨hcleans, hcan⟩]
          rfl
      | rejected hpass hcan hret =>
          have hclean : ¬((s.mFreeBufEarly = true ∨ answer.ret = statusOk) ∧
              ¬s.CanCleanup config) := by
            tauto
          rw [if_neg (not_not_intro hpass), if_neg hclean, if_neg hret]
          rfl
      | accepted hpass hcan hret =>
          have hclean : ¬((s.mFreeBufEarly = true ∨ answer.ret = statusOk) ∧
              ¬s.CanCleanup config) := fun h => h.2 hcan
          rw [if_neg (not_not_intro hpass), if_neg hclean, if_pos hret]
          rfl
    · rw [if_pos hopened, configureIdle, if_pos hopened]
      rfl
  · rw [if_pos hidle, if_pos hidle]
    rfl

/-- The sessions have the same streams, and caches for the same ids. -/
structure SameTables (s s' : Session) : Prop where
  mStreamMap : s'.mStreamMap = s.mStreamMap
  mPhysicalCameraIdMap : s'.mPhysicalCameraIdMap = s.mPhysicalCameraIdMap
  mVideoStreamIds : s'.mVideoStreamIds = s.mVideoStreamIds
  mCirculatingBuffers : ∀ id, id ∈ s'.mCirculatingBuffers ↔ id ∈ s.mCirculatingBuffers

/-- Sessions with the same tables take the same configurations. -/
theorem SameTables.configureStatus {s s' : Session} (h : s.SameTables s')
    (hothers : s'.withoutTables = s.withoutTables) (config : StreamConfiguration) (ret : Int) :
    s'.configureStatus config ret = s.configureStatus config ret := by
  have hidle := congrArg NothingInflight hothers
  have hinit := congrArg initStatus hothers
  have hearly := congrArg mFreeBufEarly hothers
  change s'.NothingInflight = s.NothingInflight at hidle
  change s'.initStatus = s.initStatus at hinit
  change s'.mFreeBufEarly = s.mFreeBufEarly at hearly
  have hshape : s'.shape = s.shape := by
    funext id
    rw [shape, shape, h.mStreamMap, h.mPhysicalCameraIdMap]
  have hconsistent : s'.Consistent config.streams ↔ s.Consistent config.streams := by
    rw [Consistent, Consistent, hshape]
  have hcan : s'.CanCleanup config ↔ s.CanCleanup config := by
    rw [CanCleanup, CanCleanup, removedStreams_congr h.mStreamMap]
    exact forall_congr' fun id => imp_congr_right fun _ => h.mCirculatingBuffers id
  simp only [Session.configureStatus, hidle, hinit, hearly, hconsistent, hcan]

/-! ## Failures that change nothing -/

/-- A configuration is harmless: if it returns an error, the tables are as they were,
and every later configuration returns what it would have returned anyway. -/
def FailureHarmless (s : Session) (config : StreamConfiguration) (answer : ConfigureAnswer) :
    Prop :=
  ∀ status events s', s.configureStreams config answer = some (status, events, s') →
    status ≠ .ok → s.SameTables s' ∧ ∀ config' answer',
      (s'.configureStreams config' answer').map Prod.fst =
        (s.configureStreams config' answer').map Prod.fst

end Session

/-- What the entry of a stream is overwritten with: what the last of the requested streams
asks for, and then what the HAL fills in last. -/
def Camera3Stream.overwritten (old : Camera3Stream) (streams : List Stream)
    (filled : List FilledByHal) : Camera3Stream :=
  let entry := streams.getLast?.elim old fun stream => old.reconfigure stream
  filled.getLast?.elim entry fun fields => entry.fill fields

theorem Camera3Stream.overwritten_eq_foldl (old : Camera3Stream) (streams : List Stream)
    (filled : List FilledByHal) :
    old.overwritten streams filled = filled.foldl (fun entry fields => entry.fill fields)
      (streams.foldl (fun entry stream => entry.reconfigure stream) old) := by
  have hfill : ∀ u u' v, fill u (fill u' v) = fill u v := fun _ _ _ => rfl
  have hreconfigure : ∀ u u' v, reconfigure u (reconfigure u' v) = reconfigure u v :=
    fun _ _ _ => rfl
  rw [Std.ExtTreeMap.foldl_update_of_overwrites hfill,
    Std.ExtTreeMap.foldl_update_of_overwrites hreconfigure]
  rfl

namespace Session

/-- A failure of the configuration leaves the tables alone: the first stream that does not
match is one of the session, no physical camera is looked up that is not there, and what the
entries are overwritten with is what they hold. -/
structure KeepsTables (s : Session) (config : StreamConfiguration) (answer : ConfigureAnswer) :
    Prop where
  clash : ∀ stream ∈ (s.unmatched config.streams).head?, stream.id ∈ s.mStreamMap ∧
    (s.SameSize stream → stream.id ∈ s.mPhysicalCameraIdMap)
  physical : ∀ stream ∈ s.matched config.streams, stream.id ∈ s.mPhysicalCameraIdMap
  entries : ∀ (id : Int) (old : Camera3Stream), s.mStreamMap[id]? = some old →
    old.overwritten ((s.matched config.streams).filter (·.id = id))
      (((if s.unmatched config.streams = [] then answer.filled else []).filter
        (·.1 = id)).map Prod.snd) = old

/-- Entries are overwritten with what they hold exactly if each of them is. -/
theorem overwrite_eq_self_iff (m : Std.ExtTreeMap Int Camera3Stream) (streams : List Stream)
    (filled : List (Int × FilledByHal)) :
    (m.updateAll Camera3Stream.reconfigure
        (streams.map fun stream => (stream.id, stream))).updateAll Camera3Stream.fill filled = m ↔
      ∀ (id : Int) (old : Camera3Stream), m[id]? = some old →
        old.overwritten (streams.filter (·.id = id))
        ((filled.filter (·.1 = id)).map Prod.snd) = old := by
  have hentry : ∀ (id : Int) (old : Camera3Stream), m[id]? = some old →
      ((m.updateAll Camera3Stream.reconfigure (streams.map fun stream =>
        (stream.id, stream))).updateAll Camera3Stream.fill filled)[id]? =
          some (old.overwritten (streams.filter (·.id = id))
            ((filled.filter (·.1 = id)).map Prod.snd)) := by
    intro id old hold
    have hstreams : (streams.map fun stream => (stream.id, stream)).filter (·.1 = id) =
        (streams.filter (·.id = id)).map fun stream => (stream.id, stream) := by
      rw [List.filter_map]
      rfl
    rw [Std.ExtTreeMap.getElem?_updateAll, Std.ExtTreeMap.getElem?_updateAll, hold, hstreams,
      Option.map_some, Option.map_some, List.foldl_map, Camera3Stream.overwritten_eq_foldl,
      List.foldl_map]
  constructor
  · intro h id old hold
    have hsame := hentry id old hold
    rw [h, hold] at hsame
    exact (Option.some_inj.mp hsame).symm
  · intro h
    apply Std.ExtTreeMap.ext_getElem?
    intro id
    cases hold : m[id]? with
    | none =>
        apply Std.ExtTreeMap.getElem?_eq_none
        rw [Std.ExtTreeMap.mem_updateAll, Std.ExtTreeMap.mem_updateAll]
        exact Std.ExtTreeMap.notMem_of_getElem? hold
    | some old => rw [hentry id old hold, h id old hold]

/-- After streams were taken in the tables are the same if the two maps are. -/
theorem Entered.sameTables_iff {s s' : Session} {ids : List Int} (h : s.Entered ids s') :
    s.SameTables s' ↔
      s'.mStreamMap = s.mStreamMap ∧ s'.mPhysicalCameraIdMap = s.mPhysicalCameraIdMap := by
  constructor
  · exact fun hsame => ⟨hsame.mStreamMap, hsame.mPhysicalCameraIdMap⟩
  · rintro ⟨hstreams, hphysical⟩
    have hvideo := congrArg mVideoStreamIds h.others
    refine ⟨hstreams, hphysical, hvideo, fun id => ?_⟩
    rw [h.caches, hstreams]
    tauto

/-- The streams up to the first that does not match are reconfigured, and the rest is processed
after them. -/
theorem preProcessed_eq (s : Session) (config : StreamConfiguration) :
    s.preProcessed config = (((s.counted config).reconfiguredAll
      (s.matched config.streams)).preProcessStreams (s.unmatched config.streams)).2 := by
  have hmatches : ∀ stream ∈ s.matched config.streams, (s.counted config).Matches stream := by
    intro stream hstream
    have hmatch := List.mem_takeWhile_imp hstream
    exact of_decide_eq_true hmatch
  rw [← preProcessStreams_matched _ hmatches, matched, unmatched, List.takeWhile_append_dropWhile]
  rfl

/-- If every stream matches, all entries are reconfigured and nothing else changes. -/
theorem preProcessed_allMatched {s : Session} {config : StreamConfiguration}
    (h : s.unmatched config.streams = []) : s.Consistent config.streams ∧
      s.preProcessed config = (s.counted config).reconfiguredAll (s.matched config.streams) := by
  refine ⟨fun stream hstream => ?_, ?_⟩
  · have hmatches := List.dropWhile_eq_nil_iff.mp h stream hstream
    rw [of_decide_eq_true hmatches]
    rfl
  · rw [preProcessed_eq, h]
    rfl

/-- A known stream is refused if it does not match. -/
theorem preProcessed_clash {s : Session} {config : StreamConfiguration} {stream : Stream}
    {rest : List Stream} (h : s.unmatched config.streams = stream :: rest)
    (hknown : stream.id ∈ s.mStreamMap) : ¬s.Consistent config.streams ∧
      s.preProcessed config =
        if s.SameSize stream then
          { (s.counted config).reconfiguredAll (s.matched config.streams) with
            mPhysicalCameraIdMap := ((s.counted config).reconfiguredAll
              (s.matched config.streams)).mPhysicalCameraIdMap.insertIfNew stream.id "" }
        else (s.counted config).reconfiguredAll (s.matched config.streams) := by
  have hhead := List.head?_dropWhile_not (fun stream => decide (s.Matches stream)) config.streams
  rw [← unmatched, h] at hhead
  have hclash : ¬((s.counted config).reconfiguredAll (s.matched config.streams)).Matches
      stream := by
    rw [Matches, shape_reconfiguredAll]
    exact of_decide_eq_false hhead
  have hmem : stream.id ∈
      ((s.counted config).reconfiguredAll (s.matched config.streams)).mStreamMap :=
    (Std.ExtTreeMap.mem_updateAll _ _ _ _).mpr hknown
  have hsize : ((s.counted config).reconfiguredAll (s.matched config.streams)).SameSize stream ↔
      s.SameSize stream := by
    rw [SameSize, shape_reconfiguredAll]
    rfl
  have hrefused := preProcessStream_clash hmem hclash
  constructor
  · intro hconsistent
    obtain ⟨old, hold⟩ := Std.ExtTreeMap.exists_getElem?_of_mem hknown
    have hstream : stream ∈ config.streams := by
      have hdropped : stream ∈ s.unmatched config.streams := h ▸ List.mem_cons_self
      exact (List.dropWhile_sublist _).mem hdropped
    have hshape := hconsistent stream hstream
    apply of_decide_eq_false hhead
    rw [Matches, ← hshape, shape, hold]
    rfl
  · rw [preProcessed_eq, h, preProcessStreams, hrefused]
    simp only [hsize]

theorem mem_preProcessed_of_new {s : Session} {config : StreamConfiguration} {stream : Stream}
    {rest : List Stream} (h : s.unmatched config.streams = stream :: rest)
    (hnew : stream.id ∉ s.mStreamMap) : stream.id ∈ (s.preProcessed config).mStreamMap := by
  have hnotMem : stream.id ∉
      ((s.counted config).reconfiguredAll (s.matched config.streams)).mStreamMap :=
    fun hmem => hnew ((Std.ExtTreeMap.mem_updateAll _ _ _ _).mp hmem)
  rw [preProcessed_eq, h, preProcessStreams, preProcessStream_new hnotMem]
  apply (preProcessStreams_entered _ rest).kept
  exact Std.ExtTreeMap.mem_insert_self

/-- After a failure the tables are the same exactly under the condition. -/
theorem sameTables_iff_keepsTables {s s' : Session} {config : StreamConfiguration}
    {answer : ConfigureAnswer} {ids : List Int} (hentered : s.Entered ids s')
    (hstreams : s'.mStreamMap = (s.preProcessed config).mStreamMap.updateAll Camera3Stream.fill
      (if s.Consistent config.streams then answer.filled else []))
    (hphysical : s'.mPhysicalCameraIdMap = (s.preProcessed config).mPhysicalCameraIdMap) :
    s.SameTables s' ↔ s.KeepsTables config answer := by
  rw [hentered.sameTables_iff]
  -- `preProcessConfigurationLocked` stops at the first stream that matches no record: the cases are
  -- whether there is one, and whether it clashes with a record or is new.
  cases h : s.unmatched config.streams with
  | nil =>
      obtain ⟨hconsistent, hresult⟩ := preProcessed_allMatched h
      rw [hstreams, hphysical, hresult, if_pos hconsistent]
      change Std.ExtTreeMap.updateAll _ (Std.ExtTreeMap.updateAll _ s.mStreamMap _) _ = _ ∧
        List.foldl _ s.mPhysicalCameraIdMap _ = _ ↔ _
      rw [overwrite_eq_self_iff, Std.ExtTreeMap.foldl_insertIfNew_eq_self_iff, List.forall_mem_map]
      constructor
      · rintro ⟨hentries, hcameras⟩
        refine ⟨?_, hcameras, ?_⟩
        · rw [h]
          nofun
        · rw [if_pos h]
          exact hentries
      · intro hkeeps
        have hentries := hkeeps.entries
        rw [if_pos h] at hentries
        exact ⟨hentries, hkeeps.physical⟩
  | cons stream rest =>
      have hhead : stream ∈ (s.unmatched config.streams).head? := by
        rw [h]
        rfl
      by_cases hknown : stream.id ∈ s.mStreamMap
      · obtain ⟨hclash, hresult⟩ := preProcessed_clash h hknown
        have hentries : (s.preProcessed config).mStreamMap =
            s.mStreamMap.updateAll Camera3Stream.reconfigure
              ((s.matched config.streams).map fun stream => (stream.id, stream)) := by
          rw [hresult]
          split
          next => rfl
          next => rfl
        have hcameras : (s.preProcessed config).mPhysicalCameraIdMap = s.mPhysicalCameraIdMap ↔
            (∀ matched ∈ s.matched config.streams, matched.id ∈ s.mPhysicalCameraIdMap) ∧
              (s.SameSize stream → stream.id ∈ s.mPhysicalCameraIdMap) := by
          have hfold : (s.preProcessed config).mPhysicalCameraIdMap =
              ((s.matched config.streams).map (·.id) ++
                if s.SameSize stream then [stream.id] else []).foldl
                  (fun m id => m.insertIfNew id "") s.mPhysicalCameraIdMap := by
            rw [hresult, List.foldl_append]
            split
            next => rfl
            next => rfl
          rw [hfold, Std.ExtTreeMap.foldl_insertIfNew_eq_self_iff, List.forall_mem_append,
            List.forall_mem_map]
          refine and_congr_right fun _ => ?_
          split
          next hsize => simp [hsize]
          next hsize => simp [hsize]
        rw [hstreams, hphysical, hcameras, hentries, if_neg hclash, overwrite_eq_self_iff]
        constructor
        · rintro ⟨hkept, hcamera, hlooked⟩
          refine ⟨?_, hcamera, ?_⟩
          · intro other hother
            rw [h] at hother
            obtain rfl := Option.some_inj.mp hother
            exact ⟨hknown, hlooked⟩
          · rw [if_neg (by rw [h]; exact List.cons_ne_nil _ _)]
            exact hkept
        · intro hkeeps
          have hkept := hkeeps.entries
          rw [if_neg (by rw [h]; exact List.cons_ne_nil _ _)] at hkept
          exact ⟨hkept, hkeeps.physical, (hkeeps.clash stream hhead).2⟩
      -- A new stream gets a record that was not there, so the tables are never the same.
      · apply iff_of_false
        · rintro ⟨hsame, -⟩
          rw [hsame] at hstreams
          apply hknown
          rw [hstreams, Std.ExtTreeMap.mem_updateAll]
          exact mem_preProcessed_of_new h hknown
        · exact fun hkeeps => hknown (hkeeps.clash stream hhead).1

/-- How a configuration ended was harmless as far as the tables go. -/
def EndsWithTables (s : Session) (ended : Option (Status × Session)) : Prop :=
  ∀ result ∈ ended, result.1 ≠ .ok → s.SameTables result.2

theorem endsWithTables_some {s s' : Session} {status : Status} (hfails : status ≠ .ok) :
    s.EndsWithTables (some (status, s')) ↔ s.SameTables s' := by
  constructor
  · exact fun h => h (status, s') rfl hfails
  · rintro hsame _ hresult -
    cases hresult
    exact hsame

section

variable {s : Session} {config : StreamConfiguration} {answer : ConfigureAnswer}
  {ended : Option (Status × Session)}

theorem ConfigureOutcome.others (h : s.ConfigureOutcome config answer ended) :
    ∀ result ∈ ended, result.1 ≠ .ok → result.2.withoutTables = s.withoutTables := by
  intro result hresult hfails
  cases h with
  | refused hclash =>
      cases hresult
      exact (s.preProcessed_entered config).others
  | throws => cases hresult
  | rejected hpass hcan hret hothers =>
      cases hresult
      exact hothers
  | accepted =>
      cases hresult
      exact absurd rfl hfails

/-- A session that the HAL rejected a configuration for has entered its streams. -/
theorem rejected_entered {s' : Session} (hothers : s'.withoutTables = s.withoutTables)
    (hstreams : s'.mStreamMap =
      (s.preProcessed config).mStreamMap.updateAll Camera3Stream.fill answer.filled)
    (hcaches : ∀ id, id ∈ s'.mCirculatingBuffers ↔
      id ∈ (s.preProcessed config).mCirculatingBuffers) :
    s.Entered (config.streams.map (·.id)) s' := by
  have hentered := s.preProcessed_entered config
  have hids : ∀ id, id ∈ s'.mStreamMap ↔ id ∈ (s.preProcessed config).mStreamMap := by
    intro id
    rw [hstreams, Std.ExtTreeMap.mem_updateAll]
  exact
    { others := hothers
      kept := fun id hid => (hids id).mpr (hentered.kept id hid)
      added := fun id hid => hentered.added id ((hids id).mp hid)
      caches := fun id => by rw [hcaches, hentered.caches, hids] }

/-- A failure leaves the tables alone exactly if it is none, because the HAL accepts the streams or
the cleanup throws, or if the tables are kept anyway. -/
theorem ConfigureOutcome.endsWithTables_iff (h : s.ConfigureOutcome config answer ended) :
    s.EndsWithTables ended ↔
      s.Consistent config.streams ∧
          (answer.ret = statusOk ∨ s.mFreeBufEarly = true ∧ ¬s.CanCleanup config) ∨
        s.KeepsTables config answer := by
  cases h with
  | refused hclash =>
      have hfails : Status.internalError ≠ .ok := by decide
      rw [endsWithTables_some hfails, or_iff_right fun h => hclash h.1]
      apply sameTables_iff_keepsTables (s.preProcessed_entered config)
      · rw [if_neg hclash, Std.ExtTreeMap.updateAll, List.foldl_nil]
      · rfl
  | throws hpass hcleans hcan =>
      refine iff_of_true (fun _ hresult => ?_) (.inl ⟨hpass, ?_⟩)
      · cases hresult
      · tauto
  | rejected hpass hcan hret hothers hstreams hphysical hcaches =>
      rw [endsWithTables_some (by split <;> decide), or_iff_right (by tauto)]
      apply sameTables_iff_keepsTables (rejected_entered hothers hstreams hcaches) _ hphysical
      rw [if_pos hpass, hstreams]
  | accepted hpass hcan hret =>
      refine iff_of_true ?_ (.inl ⟨hpass, .inl hret⟩)
      rintro _ hresult hfails
      cases hresult
      exact absurd rfl hfails

end

/-- A failure is harmless to later configurations if it keeps the tables. -/
theorem failureHarmless_of_idle {s : Session} (hidle : s.NothingInflight)
    (hopened : s.initStatus = .ok) (config : StreamConfiguration) (answer : ConfigureAnswer) :
    s.FailureHarmless config answer ↔ s.EndsWithTables
      ((s.configureIdle config answer).map fun result => (result.1, result.2.2)) := by
  have houtcome := configureIdle_outcome hopened config answer
  have hcall : s.configureStreams config answer = s.configureIdle config answer :=
    if_neg (not_not_intro hidle)
  rw [FailureHarmless, hcall]
  constructor
  · intro h result hresult hfails
    obtain ⟨⟨status, events, s'⟩, hended, heq⟩ := Option.map_eq_some_iff.mp hresult
    cases heq
    exact (h status events s' hended hfails).1
  · intro h status events s' hresult hfails
    rw [hresult] at h houtcome
    have hsame := h (status, s') rfl hfails
    refine ⟨hsame, fun config' answer' => ?_⟩
    rw [configureStreams_status, configureStreams_status,
      hsame.configureStatus (houtcome.others (status, s') rfl hfails)]

/-- A configuration that is refused at the door changes nothing. -/
theorem failureHarmless_of_unchanged {s : Session} {config : StreamConfiguration}
    {answer : ConfigureAnswer} {status : Status}
    (h : s.configureStreams config answer = some (status, [], s)) :
    s.FailureHarmless config answer := by
  intro status events s' hresult _
  rw [h] at hresult
  cases hresult
  exact ⟨⟨rfl, rfl, rfl, fun _ => Iff.rfl⟩, fun _ _ => rfl⟩

/-- A failure is harmless if and only if there is none, or nothing was entered before it that
differs from what the tables hold. -/
theorem failureHarmless_iff (s : Session) (config : StreamConfiguration)
    (answer : ConfigureAnswer) : s.FailureHarmless config answer ↔
      (¬s.NothingInflight ∨ s.initStatus ≠ .ok) ∨
        s.Consistent config.streams ∧
          (answer.ret = statusOk ∨ s.mFreeBufEarly = true ∧ ¬s.CanCleanup config) ∨
        s.KeepsTables config answer := by
  by_cases hidle : s.NothingInflight
  · by_cases hopened : s.initStatus = .ok
    · have hdoor : ¬(¬s.NothingInflight ∨ s.initStatus ≠ .ok) := by tauto
      rw [failureHarmless_of_idle hidle hopened,
        (configureIdle_outcome hopened config answer).endsWithTables_iff, or_iff_right hdoor]
    · have hcall : s.configureStreams config answer = some (s.initStatus, [], s) := by
        rw [configureStreams, if_neg (not_not_intro hidle), configureIdle, if_pos hopened]
      exact iff_of_true (failureHarmless_of_unchanged hcall) (.inl (.inr hopened))
  · have hcall : s.configureStreams config answer = some (.internalError, [], s) := by
      rw [configureStreams, if_pos hidle]
    exact iff_of_true (failureHarmless_of_unchanged hcall) (.inl (.inl hidle))

end Session

namespace SessionState

/-- A session after its first configuration. -/
def configuredOne : SessionState :=
  run (next .ofPairs) (constructed { deviceVersion := cameraDeviceApiVersion35 } {})
    [.configureStreams { streams := [{ id := 1 }] } { ret := statusOk }]

/-- The HAL rejects a configuration with a second stream, which stays in the tables. -/
theorem rejectSecondStream_harmful :
    ¬configuredOne.session.FailureHarmless { streams := [{ id := 1 }, { id := 2 }] }
      { ret := badValue } := by
  intro h
  have hstatus : (configuredOne.session.configureStreams
      { streams := [{ id := 1 }, { id := 2 }] } { ret := badValue }).map Prod.fst =
        some .illegalArgument := by
    decide +kernel
  have hentered : (configuredOne.session.configureStreams
      { streams := [{ id := 1 }, { id := 2 }] } { ret := badValue }).map
        (fun result => decide (2 ∈ result.2.2.mStreamMap)) = some true := by
    decide +kernel
  have hnew : (2 : Int) ∉ configuredOne.session.mStreamMap := by decide +kernel
  obtain ⟨⟨status, events, s'⟩, hresult, heq⟩ := Option.map_eq_some_iff.mp hstatus
  cases heq
  rw [hresult] at hentered
  have hsame := (h _ _ _ hresult nofun).1
  rw [← hsame.mStreamMap] at hnew
  exact hnew (of_decide_eq_true (Option.some_inj.mp hentered))

end SessionState

end LgeHardware.Camera
