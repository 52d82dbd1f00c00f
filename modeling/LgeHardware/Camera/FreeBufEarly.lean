import Mathlib.Data.List.Sort
import LgeHardware.Camera.ConfigureAtomicity

/-! # Early and late clean-up

A configuration frees the buffers of the streams it removes before it asks the HAL in early
mode, and after the HAL has accepted in late mode. Where the tables of the session have the
same streams and the configuration changes no stream it keeps, the two modes ask the HAL for
the same and end in the same state if it accepts. If it refuses, early mode has emptied the
caches of the removed streams, and nothing else tells the modes apart.
-/

namespace LgeHardware.Camera

open LgeHardware.Foundation

/-- The buffers that are freed, in order. -/
def freedBuffers (events : List SessionEvent) : List BufferHandle :=
  events.filterMap fun
    | .freeBuffer buffer => some buffer
    | _ => none

/-- The configurations that the HAL is asked for, in order. -/
def askedConfigurations (events : List SessionEvent) : List (List Camera3Stream) :=
  events.filterMap fun
    | .configureStreams streams => some streams
    | _ => none

namespace Session

/-- The session in early or late mode. -/
def inMode (s : Session) (early : Bool) : Session := { s with mFreeBufEarly := early }

/-- `mStreamMap` and `mCirculatingBuffers` have the same keys. -/
def KeysAgree (s : Session) : Prop := ∀ id, id ∈ s.mStreamMap ↔ id ∈ s.mCirculatingBuffers

/-- The configuration changes no stream of the session incompatibly. -/
def Compatible (s : Session) (config : StreamConfiguration) : Prop :=
  ∀ stream ∈ config.streams, stream.id ∈ s.mStreamMap → s.Matches stream

/-- The session is open and has nothing in flight, so that a configuration reaches its
streams. -/
def Configurable (s : Session) : Prop := s.NothingInflight ∧ s.initStatus = .ok

instance (s : Session) : Decidable s.Configurable := inferInstanceAs (Decidable (_ ∧ _))

/-- The buffers in the caches of the streams that the configuration removes. -/
def removedBuffers (s : Session) (config : StreamConfiguration) : List BufferHandle :=
  (s.removedStreams config).flatMap fun id =>
    (s.mCirculatingBuffers.getD id ∅).toList.map Prod.snd

/-- What a configuration that the HAL accepts does in either mode. -/
structure AcceptedAlike (s : Session) (config : StreamConfiguration)
    (early late : List SessionEvent × Session) : Prop where
  same : early.2.inMode false = late.2
  asked : askedConfigurations early.1 = askedConfigurations late.1
  freedEarly : freedBuffers early.1 = s.removedBuffers config
  freedLate : freedBuffers late.1 = s.removedBuffers config
  streams : ∀ id, id ∈ late.2.mStreamMap ↔ config.found id = true
  caches : ∀ id, id ∈ late.2.mCirculatingBuffers ↔ config.found id = true
  kept : ∀ id ∈ s.mStreamMap, config.found id = true →
    late.2.mCirculatingBuffers[id]? = s.mCirculatingBuffers[id]?

/-- What a configuration that the HAL refuses does in either mode. -/
structure RefusedAlike (s : Session) (config : StreamConfiguration)
    (early late : List SessionEvent × Session) : Prop where
  same : { early.2 with
    mFreeBufEarly := false
    mCirculatingBuffers := late.2.mCirculatingBuffers } = late.2
  emptied : ∀ id ∈ s.removedStreams config, early.2.mCirculatingBuffers[id]? = some ∅
  others : ∀ id ∉ s.removedStreams config,
    early.2.mCirculatingBuffers[id]? = late.2.mCirculatingBuffers[id]?
  kept : ∀ id ∈ s.mStreamMap, late.2.mCirculatingBuffers[id]? = s.mCirculatingBuffers[id]?
  asked : askedConfigurations early.1 = askedConfigurations late.1
  freedEarly : freedBuffers early.1 = s.removedBuffers config
  freedLate : freedBuffers late.1 = []
  keysEarly : early.2.KeysAgree
  keysLate : late.2.KeysAgree

/-! ## The checks do not depend on the mode -/

theorem preProcessStream_inMode (s : Session) (early : Bool) (stream : Stream) :
    (s.inMode early).preProcessStream stream =
      ((s.preProcessStream stream).1, (s.preProcessStream stream).2.inMode early) := by
  by_cases hknown : stream.id ∈ s.mStreamMap
  · by_cases hmatches : s.Matches stream
    · have hmatches' : (s.inMode early).Matches stream := hmatches
      rw [preProcessStream_matches hmatches, preProcessStream_matches hmatches']
      rfl
    · have hmatches' : ¬ (s.inMode early).Matches stream := hmatches
      rw [preProcessStream_clash (s := s.inMode early) hknown hmatches',
        preProcessStream_clash hknown hmatches]
      by_cases hsize : s.SameSize stream
      · have hsize' : (s.inMode early).SameSize stream := hsize
        rw [if_pos hsize, if_pos hsize']
        rfl
      · have hsize' : ¬ (s.inMode early).SameSize stream := hsize
        rw [if_neg hsize, if_neg hsize']
  · rw [preProcessStream_new hknown, preProcessStream_new (s := s.inMode early) hknown]
    rfl

theorem preProcessStreams_inMode (s : Session) (early : Bool) (streams : List Stream) :
    (s.inMode early).preProcessStreams streams =
      ((s.preProcessStreams streams).1, (s.preProcessStreams streams).2.inMode early) := by
  induction streams generalizing s with
  | nil => rfl
  | cons stream rest ih =>
      rw [preProcessStreams, preProcessStreams, preProcessStream_inMode]
      rcases s.preProcessStream stream with ⟨_ | _, s'⟩
      · rfl
      · exact ih s'

/-! ## The tables after the checks -/

/-- The removed streams are listed in the order of their ids. -/
theorem removedStreams_eq_of_mem_iff {s s' : Session} {config : StreamConfiguration}
    (h : ∀ id, id ∈ s.removedStreams config ↔ id ∈ s'.removedStreams config) :
    s.removedStreams config = s'.removedStreams config := by
  have hirrefl : Std.Irrefl fun a b : Int => compare a b = .lt :=
    ⟨fun a h => absurd (Std.ReflCmp.compare_self.symm.trans h) nofun⟩
  have hantisymm : Std.Antisymm fun a b : Int => compare a b = .lt :=
    ⟨fun a b hab hba => absurd (Int.lt_trans (Int.compare_eq_lt.mp hab)
      (Int.compare_eq_lt.mp hba)) (Int.lt_irrefl a)⟩
  exact List.Pairwise.eq_of_mem_iff (Std.ExtTreeMap.ordered_keys.filter _)
    (Std.ExtTreeMap.ordered_keys.filter _) h

theorem preProcessed_removedStreams (s : Session) (config : StreamConfiguration) :
    (s.preProcessed config).removedStreams config = s.removedStreams config :=
  removedStreams_eq_of_mem_iff (s.preProcessed_entered config).mem_removedStreams

/-- The checks leave the caches alone that are there. -/
theorem preProcessStream_caches (s : Session) (stream : Stream) {id : Int}
    (hid : id ∈ s.mCirculatingBuffers) :
    (s.preProcessStream stream).2.mCirculatingBuffers[id]? = s.mCirculatingBuffers[id]? := by
  by_cases hknown : stream.id ∈ s.mStreamMap
  · by_cases hmatches : s.Matches stream
    · rw [preProcessStream_matches hmatches]
      rfl
    · rw [preProcessStream_clash hknown hmatches]
      dsimp only
      split
      next => rfl
      next => rfl
  · rw [preProcessStream_new hknown]
    dsimp only
    rw [Std.ExtTreeMap.getElem?_insertIfNew, if_neg]
    rintro ⟨heq, hnot⟩
    rw [Std.LawfulEqCmp.compare_eq_iff_eq.mp heq] at hnot
    exact hnot hid

theorem preProcessStreams_caches (s : Session) (streams : List Stream) {id : Int}
    (hid : id ∈ s.mCirculatingBuffers) :
    (s.preProcessStreams streams).2.mCirculatingBuffers[id]? = s.mCirculatingBuffers[id]? := by
  induction streams generalizing s with
  | nil => rfl
  | cons stream rest ih =>
      have hfirst := s.preProcessStream_caches stream hid
      have hentered := s.preProcessStream_entered stream
      rw [preProcessStreams]
      rcases hresult : s.preProcessStream stream with ⟨_ | _, s'⟩
      · rw [hresult] at hfirst
        exact hfirst
      · rw [hresult] at hfirst hentered
        exact (ih s' ((hentered.caches id).mpr (.inl hid))).trans hfirst

theorem preProcessed_caches (s : Session) (config : StreamConfiguration) {id : Int}
    (hid : id ∈ s.mCirculatingBuffers) :
    (s.preProcessed config).mCirculatingBuffers[id]? = s.mCirculatingBuffers[id]? :=
  (s.counted config).preProcessStreams_caches config.streams hid

/-- Streams that pass the checks are streams of the session. -/
theorem mem_preProcessStreams {s : Session} {streams : List Stream}
    (hpass : (s.preProcessStreams streams).1 = true) {stream : Stream}
    (hstream : stream ∈ streams) : stream.id ∈ (s.preProcessStreams streams).2.mStreamMap := by
  induction streams generalizing s with
  | nil => exact absurd hstream List.not_mem_nil
  | cons first rest ih =>
      have hentered := s.preProcessStream_entered first
      have hnew : first.id ∉ s.mStreamMap →
          first.id ∈ (s.preProcessStream first).2.mStreamMap := by
        intro hnot
        rw [preProcessStream_new hnot]
        exact Std.ExtTreeMap.mem_insert_self
      rw [preProcessStreams] at hpass ⊢
      rcases hresult : s.preProcessStream first with ⟨_ | _, s'⟩
      · rw [hresult] at hpass
        cases hpass
      · rw [hresult] at hpass hentered hnew
        rcases List.mem_cons.mp hstream with rfl | hrest
        · apply (s'.preProcessStreams_entered rest).kept
          by_cases hknown : stream.id ∈ s.mStreamMap
          · exact hentered.kept _ hknown
          · exact hnew hknown
        · exact ih hpass hrest

/-- After the checks the session has the streams it had and those that are asked for. -/
theorem mem_preProcessed {s : Session} {config : StreamConfiguration}
    (hpass : s.Consistent config.streams) (id : Int) :
    id ∈ (s.preProcessed config).mStreamMap ↔ id ∈ s.mStreamMap ∨ config.found id = true := by
  have hentered := s.preProcessed_entered config
  have hpasses := ((s.counted config).preProcessStreams_fst config.streams).mpr hpass
  have hfound : config.found id = true ↔ id ∈ config.streams.map (·.id) := by
    simp [StreamConfiguration.found]
  rw [hfound]
  constructor
  · exact hentered.added id
  · rintro (hold | hasked)
    · exact hentered.kept id hold
    · obtain ⟨stream, hstream, rfl⟩ := List.mem_map.mp hasked
      exact mem_preProcessStreams hpasses hstream

theorem KeysAgree.preProcessed {s : Session} (h : s.KeysAgree) (config : StreamConfiguration) :
    (s.preProcessed config).KeysAgree := by
  have hentered := s.preProcessed_entered config
  intro id
  have hkept := hentered.kept id
  rw [hentered.caches, ← h id]
  tauto

/-! ## The two modes -/

/-- What the session does to free the buffers of the removed streams. -/
def removedFrees (s : Session) (config : StreamConfiguration) : List SessionEvent :=
  (s.removedStreams config).flatMap fun id => freeBuffers (s.mCirculatingBuffers.getD id ∅)

/-- What the HAL is asked for. -/
def halStreams (s : Session) (config : StreamConfiguration) : List Camera3Stream :=
  config.streams.map fun stream => (s.preProcessed config).mStreamMap.getD stream.id {}

/-- The caches of the removed streams can be cleaned up as long as none of them is touched. -/
theorem cleanupStreams_removed {s : Session} (hkeys : s.KeysAgree)
    (config : StreamConfiguration) (s' : Session)
    (hcaches : s'.mCirculatingBuffers = (s.preProcessed config).mCirculatingBuffers) :
    s'.cleanupStreams (s.removedStreams config) = some (s.removedFrees config,
      { s' with mCirculatingBuffers :=
          s'.mCirculatingBuffers.eraseAll (s.removedStreams config) }) := by
  have hsame : ∀ id ∈ s.removedStreams config,
      s'.mCirculatingBuffers[id]? = s.mCirculatingBuffers[id]? := by
    intro id hid
    rw [hcaches]
    exact s.preProcessed_caches config ((hkeys id).mp (mem_removedStreams.mp hid).1)
  have hcached : ∀ id ∈ s.removedStreams config, id ∈ s'.mCirculatingBuffers := by
    intro id hid
    have hold := (hkeys id).mp (mem_removedStreams.mp hid).1
    rw [Std.ExtTreeMap.mem_iff_isSome_getElem?] at hold ⊢
    rwa [hsame id hid]
  rw [cleanupStreams_eq (s.nodup_removedStreams config) hcached]
  have hfrees : (s.removedStreams config).flatMap
      (fun id => freeBuffers (s'.mCirculatingBuffers.getD id ∅)) = s.removedFrees config := by
    apply List.flatMap_congr
    intro id hid
    rw [Std.ExtTreeMap.getD_eq_getD_getElem?, hsame id hid,
      ← Std.ExtTreeMap.getD_eq_getD_getElem?]
  rw [hfrees]

theorem preProcessConfigurationLocked_inMode {s : Session} {config : StreamConfiguration}
    (hkeys : s.KeysAgree) (hpass : s.Consistent config.streams) (early : Bool) :
    ((s.inMode early).counted config).preProcessConfigurationLocked config =
      some (true, if early then s.removedFrees config else [],
        ((s.preProcessed config).inMode early).cleaned config) := by
  have hchecks : ((s.inMode early).counted config).preProcessStreams config.streams =
      (true, (s.preProcessed config).inMode early) := by
    refine ((s.counted config).preProcessStreams_inMode early config.streams).trans ?_
    rw [((s.counted config).preProcessStreams_fst config.streams).mpr hpass]
    rfl
  rw [preProcessConfigurationLocked, hchecks, cleaned]
  cases early with
  | false => rfl
  | true =>
      have hremoved : ((s.preProcessed config).inMode true).removedStreams config =
          s.removedStreams config := s.preProcessed_removedStreams config
      have hclean := cleanupStreams_removed hkeys config ((s.preProcessed config).inMode true) rfl
      dsimp only
      rw [hremoved, if_pos rfl, hclean]
      rfl

/-- Where a configuration that the HAL accepts ends, in either mode. -/
def configured (s : Session) (config : StreamConfiguration) (answer : ConfigureAnswer) :
    Session :=
  let s' := (s.preProcessed config).fillStreams answer.filled
  let removed := s.removedStreams config
  let videoStreamIds := (config.streams.filter fun stream =>
    stream.streamType == streamTypeOutput && stream.videoEncoder).map (·.id)
  { s' with
    mStreamMap := s'.mStreamMap.eraseAll removed
    mCirculatingBuffers := s'.mCirculatingBuffers.eraseAll removed
    mVideoStreamIds := videoStreamIds
    mResultBatcher := s'.mResultBatcher.setBatchedStreams videoStreamIds
    mFirstRequest := true }

/-- Where a configuration that the HAL refuses ends. -/
def unconfigured (s : Session) (config : StreamConfiguration) (answer : ConfigureAnswer)
    (early : Bool) : Session :=
  let s' := (s.preProcessed config).fillStreams answer.filled
  let removed := s.removedStreams config
  if early then
    { s'.inMode true with
      mCirculatingBuffers := removed.foldl (fun cbs id => cbs.insertIfNew id ∅)
        (s'.mCirculatingBuffers.eraseAll removed) }
  else s'.inMode false

section

variable (s : Session) (config : StreamConfiguration) (answer : ConfigureAnswer)

theorem configureIdle_inMode {s : Session} (hkeys : s.KeysAgree)
    (hpass : s.Consistent config.streams)
    (hopened : s.initStatus = .ok) (early : Bool) :
    (s.inMode early).configureIdle config answer =
      let before := (if early then s.removedFrees config else []) ++
        [.configureStreams (s.halStreams config)]
      let s' := ((s.preProcessed config).inMode early).answered config answer
      if answer.ret = statusOk then
        (s'.postProcessConfigurationLocked config).map fun (freed, s) =>
          (.ok, before ++ freed, { s with mFirstRequest := true })
      else
        some (if answer.ret = badValue then .illegalArgument else .internalError, before,
          s'.postProcessConfigurationFailureLocked config) := by
  have hopened' : (s.inMode early).initStatus = .ok := hopened
  have hasked : (config.streams.map fun stream =>
      (((s.preProcessed config).inMode early).cleaned config).mStreamMap.getD stream.id {}) =
        s.halStreams config := by
    rw [cleaned_frame]
    rfl
  rw [configureIdle, if_neg (not_not_intro hopened')]
  change Option.bind (((s.inMode early).counted config).preProcessConfigurationLocked config) _ = _
  rw [preProcessConfigurationLocked_inMode hkeys hpass, Option.bind_some]
  dsimp only
  rw [if_neg (by simp), hasked]
  rfl

theorem answered_early : ((s.preProcessed config).inMode true).answered config answer =
    { ((s.preProcessed config).fillStreams answer.filled).inMode true with
      mCirculatingBuffers :=
        (s.preProcessed config).mCirculatingBuffers.eraseAll (s.removedStreams config) } := by
  have hremoved : ((s.preProcessed config).inMode true).removedStreams config =
      s.removedStreams config := s.preProcessed_removedStreams config
  rw [answered, cleaned, if_pos (show ((s.preProcessed config).inMode true).mFreeBufEarly = true
    from rfl), hremoved]
  rfl

theorem answered_removedStreams (early : Bool) :
    (((s.preProcessed config).inMode early).answered config answer).removedStreams config =
      s.removedStreams config := by
  rw [← s.preProcessed_removedStreams config]
  exact removedStreams_eq_of_mem_iff (mem_removedStreams_answered _ config answer)

/-- Late mode frees the buffers after the HAL has answered, early mode before it is asked. -/
theorem postProcessConfigurationLocked_answered {s : Session} (hkeys : s.KeysAgree) (early : Bool) :
    let s' := ((s.preProcessed config).inMode early).answered config answer
    (s'.postProcessConfigurationLocked config).map
        (fun (freed, s) => (freed, { s with mFirstRequest := true })) =
      some (if early then [] else s.removedFrees config,
        (s.configured config answer).inMode early) := by
  intro s'
  rw [postProcessConfigurationLocked]
  dsimp only
  rw [show s'.removedStreams config = s.removedStreams config from
    s.answered_removedStreams config answer early]
  cases early with
  | false =>
      have hclean := cleanupStreams_removed hkeys config s' rfl
      rw [if_neg (show ¬ s'.mFreeBufEarly = true from Bool.false_ne_true), hclean]
      rfl
  | true =>
      have hearly : s' = { ((s.preProcessed config).fillStreams answer.filled).inMode true with
          mCirculatingBuffers := (s.preProcessed config).mCirculatingBuffers.eraseAll
            (s.removedStreams config) } := s.answered_early config answer
      rw [hearly]
      rfl

theorem configureStreams_accepted {s : Session} (hkeys : s.KeysAgree)
    (hpass : s.Consistent config.streams)
    (hidle : s.Configurable) (hret : answer.ret = statusOk) (early : Bool) :
    (s.inMode early).configureStreams config answer =
      some (.ok, (if early then s.removedFrees config else []) ++
          [.configureStreams (s.halStreams config)] ++
            (if early then [] else s.removedFrees config),
        (s.configured config answer).inMode early) := by
  have hinflight : (s.inMode early).NothingInflight := hidle.1
  have hpost := postProcessConfigurationLocked_answered config answer hkeys early
  obtain ⟨⟨freed, s'⟩, hpost', heq⟩ := Option.map_eq_some_iff.mp hpost
  obtain ⟨hfreed, hfinal⟩ := Prod.mk.inj heq
  rw [configureStreams, if_neg (not_not_intro hinflight),
    configureIdle_inMode config answer hkeys hpass hidle.2, if_pos hret, hpost', Option.map_some]
  dsimp only
  rw [hfinal, hfreed]

theorem configureStreams_refused {s : Session} (hkeys : s.KeysAgree)
    (hpass : s.Consistent config.streams)
    (hidle : s.Configurable) (hret : answer.ret ≠ statusOk) (early : Bool) :
    (s.inMode early).configureStreams config answer =
      some (if answer.ret = badValue then .illegalArgument else .internalError,
        (if early then s.removedFrees config else []) ++
          [.configureStreams (s.halStreams config)],
        s.unconfigured config answer early) := by
  have hinflight : (s.inMode early).NothingInflight := hidle.1
  have hremoved := s.answered_removedStreams config answer early
  rw [configureStreams, if_neg (not_not_intro hinflight),
    configureIdle_inMode config answer hkeys hpass hidle.2, if_neg hret]
  rw [postProcessConfigurationFailureLocked, hremoved]
  cases early with
  | false => rfl
  | true =>
      rw [answered_early]
      rfl

end

/-! ## What the events say -/

theorem freedBuffers_append (first second : List SessionEvent) :
    freedBuffers (first ++ second) = freedBuffers first ++ freedBuffers second :=
  List.filterMap_append

theorem askedConfigurations_append (first second : List SessionEvent) :
    askedConfigurations (first ++ second) =
      askedConfigurations first ++ askedConfigurations second :=
  List.filterMap_append

theorem freedBuffers_removedFrees (s : Session) (config : StreamConfiguration) :
    freedBuffers (s.removedFrees config) = s.removedBuffers config := by
  rw [freedBuffers, removedFrees, List.filterMap_flatMap, removedBuffers]
  apply List.flatMap_congr
  intro id _
  rw [freeBuffers, List.filterMap_map]
  exact congrFun (List.filterMap_eq_map (f := Prod.snd)) _

theorem askedConfigurations_removedFrees (s : Session) (config : StreamConfiguration) :
    askedConfigurations (s.removedFrees config) = [] := by
  rw [askedConfigurations, removedFrees, List.filterMap_flatMap, List.flatMap_eq_nil_iff]
  intro id _
  rw [freeBuffers, List.filterMap_map, List.filterMap_eq_nil_iff]
  exact fun _ _ => rfl

section

variable {s : Session} {config : StreamConfiguration} {answer : ConfigureAnswer}

theorem found_of_notMem_removedStreams {id : Int} (hid : id ∈ s.mStreamMap) :
    id ∉ s.removedStreams config ↔ config.found id = true := by
  rw [mem_removedStreams, and_iff_right hid, Bool.not_eq_false]

theorem acceptedAlike (hkeys : s.KeysAgree) (hpass : s.Consistent config.streams) :
    s.AcceptedAlike config
      (s.removedFrees config ++ [.configureStreams (s.halStreams config)] ++ [],
        (s.configured config answer).inMode true)
      ([] ++ [.configureStreams (s.halStreams config)] ++ s.removedFrees config,
        (s.configured config answer).inMode false) where
  same := rfl
  asked := by
    simp only [askedConfigurations_append, askedConfigurations_removedFrees, List.append_nil,
      List.nil_append]
  freedEarly := by
    rw [freedBuffers_append, freedBuffers_append, freedBuffers_removedFrees]
    exact (List.append_nil _).trans (List.append_nil _)
  freedLate := by
    rw [freedBuffers_append, freedBuffers_removedFrees]
    rfl
  streams id := by
    change id ∈ (Std.ExtTreeMap.eraseAll _ _) ↔ _
    rw [Std.ExtTreeMap.mem_eraseAll, fillStreams, Std.ExtTreeMap.mem_updateAll,
      mem_preProcessed hpass, mem_removedStreams]
    cases config.found id <;> simp
  caches id := by
    have hpreProcessed := hkeys.preProcessed config id
    change id ∈ (Std.ExtTreeMap.eraseAll _ _) ↔ _
    rw [Std.ExtTreeMap.mem_eraseAll, fillStreams, ← hpreProcessed, mem_preProcessed hpass,
      mem_removedStreams]
    cases config.found id <;> simp
  kept id hid hfound := by
    change (Std.ExtTreeMap.eraseAll _ _)[id]? = _
    rw [Std.ExtTreeMap.getElem?_eraseAll,
      if_neg ((found_of_notMem_removedStreams hid).mpr hfound)]
    exact s.preProcessed_caches config ((hkeys id).mp hid)

theorem refusedAlike (hkeys : s.KeysAgree) :
    s.RefusedAlike config
      (s.removedFrees config ++ [.configureStreams (s.halStreams config)],
        s.unconfigured config answer true)
      ([] ++ [.configureStreams (s.halStreams config)],
        s.unconfigured config answer false) where
  same := rfl
  emptied id hid := by
    change (List.foldl _ (Std.ExtTreeMap.eraseAll _ _) _)[id]? = _
    rw [Std.ExtTreeMap.getElem?_foldl_insertIfNew, Std.ExtTreeMap.getElem?_eraseAll,
      if_pos hid, if_pos hid, Option.none_or]
  others id hid := by
    change (List.foldl _ (Std.ExtTreeMap.eraseAll _ _) _)[id]? = _
    rw [Std.ExtTreeMap.getElem?_foldl_insertIfNew, Std.ExtTreeMap.getElem?_eraseAll,
      if_neg hid, if_neg hid, Option.or_none]
    rfl
  kept id hid := s.preProcessed_caches config ((hkeys id).mp hid)
  asked := by
    simp only [askedConfigurations_append, askedConfigurations_removedFrees, List.nil_append]
  freedEarly := by
    rw [freedBuffers_append, freedBuffers_removedFrees]
    exact List.append_nil _
  freedLate := rfl
  keysEarly id := by
    have hpreProcessed := hkeys.preProcessed config id
    have hremoved : id ∈ s.removedStreams config → id ∈ (s.preProcessed config).mStreamMap :=
      fun hid => (s.preProcessed_entered config).kept id (mem_removedStreams.mp hid).1
    change id ∈ Std.ExtTreeMap.updateAll _ _ _ ↔ id ∈ List.foldl _ (Std.ExtTreeMap.eraseAll _ _) _
    rw [Std.ExtTreeMap.mem_updateAll, Std.ExtTreeMap.mem_foldl_insertIfNew,
      Std.ExtTreeMap.mem_eraseAll, fillStreams, ← hpreProcessed]
    tauto
  keysLate id := by
    change id ∈ Std.ExtTreeMap.updateAll _ _ _ ↔ _
    rw [Std.ExtTreeMap.mem_updateAll]
    exact hkeys.preProcessed config id

end

/-- Distinct streams that change no stream of the session pass the checks. -/
theorem Compatible.consistent {s : Session} {config : StreamConfiguration}
    (hcompatible : s.Compatible config) (hdistinct : (config.streams.map (·.id)).Nodup) :
    s.Consistent config.streams := by
  intro stream hstream
  by_cases hknown : stream.id ∈ s.mStreamMap
  · rw [hcompatible stream hstream hknown, Option.some_or]
  · have hfirst : config.streams.find? (·.id = stream.id) = some stream := by
      have hsome : (config.streams.find? (·.id = stream.id)).isSome = true :=
        List.find?_isSome.mpr ⟨stream, hstream, by simp⟩
      obtain ⟨other, hother⟩ := Option.isSome_iff_exists.mp hsome
      have hsame : other.id = stream.id := by simpa using List.find?_some hother
      rw [hother, List.inj_on_of_nodup_map hdistinct (List.mem_of_find?_eq_some hother) hstream
        hsame]
    rw [shape_eq_none.mpr hknown, Option.none_or, hfirst, Option.map_some]

/-- Freeing early and freeing late agree. -/
theorem free_early_and_late_agree {s : Session} {config : StreamConfiguration}
    (answer : ConfigureAnswer) (hkeys : s.KeysAgree)
    (hdistinct : (config.streams.map (·.id)).Nodup) (hcompatible : s.Compatible config) :
    ∃ status early late,
      (s.inMode true).configureStreams config answer = some (status, early) ∧
      (s.inMode false).configureStreams config answer = some (status, late) ∧
      (¬ s.Configurable → early = ([], s.inMode true) ∧ late = ([], s.inMode false)) ∧
      (s.Configurable → answer.ret = statusOk → s.AcceptedAlike config early late) ∧
      (s.Configurable → answer.ret ≠ statusOk → s.RefusedAlike config early late) := by
  have hpass := hcompatible.consistent hdistinct
  by_cases hidle : s.Configurable
  · by_cases hret : answer.ret = statusOk
    · refine ⟨_, _, _, configureStreams_accepted config answer hkeys hpass hidle hret true,
        configureStreams_accepted config answer hkeys hpass hidle hret false, absurd hidle, ?_,
        fun _ hrefused => absurd hret hrefused⟩
      exact fun _ _ => acceptedAlike hkeys hpass
    · refine ⟨_, _, _, configureStreams_refused config answer hkeys hpass hidle hret true,
        configureStreams_refused config answer hkeys hpass hidle hret false, absurd hidle,
        fun _ haccepted => absurd haccepted hret, ?_⟩
      exact fun _ _ => refusedAlike hkeys
  · by_cases hinflight : s.NothingInflight
    · have hclosed : s.initStatus ≠ .ok := fun hopened => hidle ⟨hinflight, hopened⟩
      have hearly : (s.inMode true).NothingInflight := hinflight
      have hlate : (s.inMode false).NothingInflight := hinflight
      refine ⟨s.initStatus, ([], s.inMode true), ([], s.inMode false), ?_, ?_,
        fun _ => ⟨rfl, rfl⟩, fun h => absurd h hidle, fun h => absurd h hidle⟩
      · rw [configureStreams, if_neg (not_not_intro hearly), configureIdle]
        exact if_pos hclosed
      · rw [configureStreams, if_neg (not_not_intro hlate), configureIdle]
        exact if_pos hclosed
    · have hearly : ¬ (s.inMode true).NothingInflight := hinflight
      have hlate : ¬ (s.inMode false).NothingInflight := hinflight
      refine ⟨.internalError, ([], s.inMode true), ([], s.inMode false), ?_, ?_,
        fun _ => ⟨rfl, rfl⟩, fun h => absurd h hidle, fun h => absurd h hidle⟩
      · rw [configureStreams, if_pos hearly]
      · rw [configureStreams, if_pos hlate]

/-- A session with a buffer in the cache of its one stream. -/
def withOneBuffer : Session :=
  { opened cameraDeviceApiVersion35 1 64 false false false ∅ with
    mStreamMap := (∅ : Std.ExtTreeMap Int Camera3Stream).insert 1 { mId := 1 }
    mPhysicalCameraIdMap := (∅ : Std.ExtTreeMap Int String).insert 1 ""
    mCirculatingBuffers := (∅ : Std.ExtTreeMap Int CirculatingBuffers).insert 1
      ((∅ : CirculatingBuffers).insert 7 9) }

/-- The stream is replaced by another one. -/
def replaceStream : StreamConfiguration := { streams := [{ id := 2 }] }

theorem free_early_and_late_agree_replaceStream :
    ∃ status early late,
      (withOneBuffer.inMode true).configureStreams replaceStream { ret := statusOk } =
        some (status, early) ∧
      (withOneBuffer.inMode false).configureStreams replaceStream { ret := statusOk } =
        some (status, late) ∧
      withOneBuffer.AcceptedAlike replaceStream early late := by
  have hkeys : withOneBuffer.KeysAgree := by
    intro id
    rw [withOneBuffer]
    dsimp only
    rw [Std.ExtTreeMap.mem_insert, Std.ExtTreeMap.mem_insert]
    simp
  have hdistinct : (replaceStream.streams.map (·.id)).Nodup := List.nodup_singleton 2
  have hcompatible : withOneBuffer.Compatible replaceStream := by
    intro stream hstream hknown
    rw [List.mem_singleton.mp hstream, withOneBuffer] at hknown
    simp at hknown
  obtain ⟨status, early, late, hearly, hlate, -, haccepted, -⟩ :=
    free_early_and_late_agree { ret := statusOk } hkeys hdistinct hcompatible
  exact ⟨status, early, late, hearly, hlate, haccepted (by decide) rfl⟩

end Session

end LgeHardware.Camera
