import LgeHardware.Dac.Restore
import LgeHardware.Foundation.Run

/-! # Accepted values and advertised values

The service tells for each feature which values it has, and the interface asks for one of
them. Apart from the number of a digital filter, nothing checks that when a value is set.
-/

namespace LgeHardware.Dac

open LgeHardware.Foundation

/-! ## What is advertised -/

/-- The value is one of the listed states, or within the range if there are no states. -/
def FeatureStates.Allows (st : FeatureStates) (v : Int32) : Prop :=
  if st.states = [] then st.range.min ≤ v ∧ v ≤ st.range.max
  else st.states.any (fun kv => kv.value = toStr v) = true

def DacState.Advertises (s : DacState) (f : Feature) (v : Int32) : Prop :=
  ∃ st, s.getSupportedFeatureValues f = some st ∧ st.Allows v

/-- The least and the greatest of the advertised values. -/
def Feature.bounds : Feature → Option (Int32 × Int32)
  | .digitalFilter => some (0, 2)
  | .soundPreset => some (0, 4)
  | .balanceLeft => some (-12, 0)
  | .balanceRight => some (-12, 0)
  | .avcVolume => some (-24, 0)
  | .hifiMode => some (0, 2)
  | _ => none

def Feature.InBounds (f : Feature) (v : Int32) : Prop :=
  match f.bounds with
  | some (least, greatest) => least ≤ v ∧ v ≤ greatest
  | none => False

instance (f : Feature) (v : Int32) : Decidable (f.InBounds v) :=
  match h : f.bounds with
  | some (least, greatest) =>
      decidable_of_iff (least ≤ v ∧ v ≤ greatest) (by rw [Feature.InBounds, h])
  | none => isFalse (by rw [Feature.InBounds, h]; exact id)

theorem toStr_eq_iff {i v : Int32} : toStr i = toStr v ↔ i = v := toStr_injective.eq_iff

/-- Three listed numbers. -/
theorem zero_to_two_iff (v : Int32) : ((0 = v ∨ 1 = v) ∨ 2 = v) ↔ 0 ≤ v ∧ v ≤ 2 := by
  simp only [Int32.le_iff_toInt_le, ← Int32.toInt_inj]
  change ((0 = v.toInt ∨ 1 = v.toInt) ∨ 2 = v.toInt) ↔ 0 ≤ v.toInt ∧ v.toInt ≤ 2
  omega

theorem zero_to_four_iff (v : Int32) :
    ((((0 = v ∨ 1 = v) ∨ 2 = v) ∨ 3 = v) ∨ 4 = v) ↔ 0 ≤ v ∧ v ≤ 4 := by
  simp only [Int32.le_iff_toInt_le, ← Int32.toInt_inj]
  change ((((0 = v.toInt ∨ 1 = v.toInt) ∨ 2 = v.toInt) ∨ 3 = v.toInt) ∨ 4 = v.toInt) ↔
    0 ≤ v.toInt ∧ v.toInt ≤ 4
  omega

/-- The advertised values are the integers between two bounds. -/
theorem allows_iff_inBounds {f : Feature} {st : FeatureStates} (hst : f.states = some st)
    (v : Int32) : st.Allows v ↔ f.InBounds v := by
  have hthree : (digitalFilters.any fun kv => kv.value = toStr v) = true ↔ 0 ≤ v ∧ v ≤ 2 := by
    rw [← zero_to_two_iff, ← toStr_eq_iff, ← toStr_eq_iff (i := 1), ← toStr_eq_iff (i := 2)]
    simp only [digitalFilters, List.any_cons, List.any_nil, Bool.or_false, Bool.or_eq_true,
      decide_eq_true_eq, or_assoc]
    rfl
  have hfive : (soundPresets.any fun kv => kv.value = toStr v) = true ↔ 0 ≤ v ∧ v ≤ 4 := by
    rw [← zero_to_four_iff, ← toStr_eq_iff, ← toStr_eq_iff (i := 1), ← toStr_eq_iff (i := 2),
      ← toStr_eq_iff (i := 3), ← toStr_eq_iff (i := 4)]
    simp only [soundPresets, List.any_cons, List.any_nil, Bool.or_false, Bool.or_eq_true,
      decide_eq_true_eq, or_assoc]
    rfl
  cases f with
  | digitalFilter =>
      cases hst
      exact hthree
  | soundPreset =>
      cases hst
      exact hfive
  | hifiMode =>
      cases hst
      exact hthree
  | balanceLeft | balanceRight | avcVolume =>
      cases hst
      rfl
  | quadDac | customFilter => cases hst

/-! ## What the constructor sets up -/

/-- Every listed feature can be used, and what is said of it is what the table has. -/
structure Serving (device : Device) (s : DacState) : Prop where
  audio : s.mSupportedFeatures ≠ [] → s.usedVersion.isSome = true ∧ s.mAudioDevice = true
  preset : .soundPreset ∈ s.mSupportedFeatures → device.proprietaryAudioModule = true
  entries : ∀ entry ∈ s.mSupportedStates, entry.1.states = some entry.2
  listed : ∀ f ∈ s.mSupportedFeatures, f.states.isSome = true →
    (f = .avcVolume ∨ f = .hifiMode) ∨ ∃ entry ∈ s.mSupportedStates, entry.1 = f

variable {device : Device} {s s' : DacState}

/-- What makes no difference to the service keeps it serving. -/
theorem Serving.same (h : Serving device s) (hsame : SameService s s') : Serving device s' where
  audio := by
    rw [hsame.features, hsame.version, hsame.audio]
    exact h.audio
  preset := by
    rw [hsame.features]
    exact h.preset
  entries := by
    rw [hsame.states]
    exact h.entries
  listed := by
    rw [hsame.features, hsame.states]
    exact h.listed

/-- A supported feature advertises its states. -/
theorem Serving.getSupportedFeatureValues (h : Serving device s) {f : Feature}
    (hf : f ∈ s.mSupportedFeatures) : s.getSupportedFeatureValues f = f.states := by
  have hfind : ∀ entry, s.mSupportedStates.find? (·.1 = f) = some entry →
      f.states = some entry.2 := by
    intro entry hentry
    have hname : entry.1 = f := by simpa using List.find?_some hentry
    rw [← hname]
    exact h.entries entry (List.mem_of_find?_eq_some hentry)
  have hstates : f ≠ .avcVolume → f ≠ .hifiMode →
      (s.mSupportedStates.find? (·.1 = f)).map Prod.snd = f.states := by
    intro hvolume hmode
    cases hlookup : s.mSupportedStates.find? (·.1 = f) with
    | some entry => rw [Option.map_some, hfind entry hlookup]
    | none =>
        rw [Option.map_none, eq_comm, ← Option.not_isSome_iff_eq_none]
        intro hsome
        rcases h.listed f hf hsome with (hname | hname) | ⟨entry, hentry, hname⟩
        · exact hvolume hname
        · exact hmode hname
        · exact absurd hname (by simpa using List.find?_eq_none.mp hlookup entry hentry)
  cases f with
  | avcVolume | hifiMode => rfl
  | quadDac | soundPreset | digitalFilter | balanceLeft | balanceRight | customFilter =>
      exact hstates nofun nofun

/-- What is advertised for a listed feature lies between its bounds, and is all of it. -/
theorem Serving.advertises_iff (h : Serving device s) {f : Feature}
    (hf : f ∈ s.mSupportedFeatures) (v : Int32) : s.Advertises f v ↔ f.InBounds v := by
  rw [DacState.Advertises, h.getSupportedFeatureValues hf]
  cases hst : f.states with
  | none =>
      apply iff_of_false
      · rintro ⟨st, hst', -⟩
        cases hst'
      · cases f with
        | quadDac | customFilter => exact id
        | soundPreset | digitalFilter | balanceLeft | balanceRight | hifiMode | avcVolume =>
            cases hst
  | some st =>
      rw [← allows_iff_inBounds hst]
      constructor
      · rintro ⟨st', hst', hallows⟩
        cases hst'
        exact hallows
      · exact fun hallows => ⟨st, rfl, hallows⟩

/-- The state between two steps of the constructor. -/
def Starting (device : Device) (s : DacState) : Prop :=
  Serving device s ∧ s.usedVersion.isSome = true ∧ s.mAudioDevice = true

/-- A feature that is listed with its states, or with none, keeps the start in order. -/
theorem Starting.listing (hs : Starting device s) (f : Feature) {states : Option FeatureStates}
    (hpreset : f = .soundPreset → device.proprietaryAudioModule = true)
    (hstates : states = f.states ∨ states = none ∧ (f = .avcVolume ∨ f = .hifiMode)) :
    Starting device (s.listing f states) := by
  obtain ⟨h, haudio⟩ := hs
  refine ⟨⟨fun _ => haudio, ?_, ?_, ?_⟩, haudio⟩
  · intro hlisted
    rcases List.mem_append.mp hlisted with hlisted | hlisted
    · exact h.preset hlisted
    · exact hpreset (List.mem_singleton.mp hlisted).symm
  · intro entry hentry
    rcases List.mem_append.mp hentry with hentry | hentry
    · exact h.entries entry hentry
    · cases states with
      | none => exact absurd hentry List.not_mem_nil
      | some st =>
          rw [List.mem_singleton.mp hentry]
          rcases hstates with hstates | ⟨hnone, -⟩
          · exact hstates.symm
          · cases hnone
  · intro g hg hsome
    rcases List.mem_append.mp hg with hg | hg
    · rcases h.listed g hg hsome with hspecial | ⟨entry, hentry, hname⟩
      · exact .inl hspecial
      · exact .inr ⟨entry, List.mem_append_left _ hentry, hname⟩
    · cases List.mem_singleton.mp hg
      rcases hstates with hstates | ⟨-, hspecial⟩
      · obtain ⟨st, hst⟩ := Option.isSome_iff_exists.mp hsome
        refine .inr ⟨(f, st), List.mem_append_right _ ?_, rfl⟩
        rw [hstates, hst]
        exact List.mem_cons_self
      · exact .inl hspecial

/-- The constructor goes on with operations that leave the object alone. -/
theorem Starting.moves (h : Starting device s) {paths properties : String → Prop} {mayStop : Prop}
    {α : Type} {x : DacM α} (hx : Moves (Step paths properties) mayStop x) :
    Ends x s (fun _ => Starting device) fun _ _ => True := by
  apply (hx s).mono
  · intro _ t hstep
    rw [Starting, hstep.same.version, hstep.same.audio]
    exact ⟨h.1.same hstep.same, h.2⟩
  · exact fun _ _ _ => trivial

/-- A constructor that returns leaves a service that serves. -/
theorem serving_construct (device : Device) (s : DacState) :
    Ends (construct device) s (fun _ => Serving device) fun _ _ => True := by
  have hstarted : ∀ version audio, Serving device (s.started version audio) :=
    fun version audio => ⟨fun hne => absurd rfl hne, fun h => absurd h List.not_mem_nil,
      fun _ h => absurd h List.not_mem_nil, fun _ h => absurd h List.not_mem_nil⟩
  apply ends_construct
  · exact fun version => hstarted version false
  · intro version
    have hbegin : Starting device (s.started (some version) true) := ⟨hstarted _ _, rfl, rfl⟩
    have hrestore : Ends (restoreSettings device) (s.started (some version) true)
        (fun _ => Starting device) fun _ _ => True := by
      apply ends_restoreSettings
      · have ht := hbegin.listing .quadDac (by simp) (.inl rfl)
        rw [ends_bind, support, ends_modify, ends_bind, ends_get]
        exact ht.moves (moves_setHifiDacState _)
      · intro f states write hstage t ht
        have hu := ht.listing f hstage.preset hstage.states
        rw [ends_restoreStage hstage]
        split
        next => exact hu.moves (moves_setFeatureValue device f _)
        next => trivial
      · intro t ht
        have hu := ht.listing .customFilter (by simp) (.inl rfl)
        rw [restoreCustomFilter, ends_bind, support, ends_modify]
        exact hu.moves (moves_restoreCustomFilter_tail : Moves _ True _)
    exact hrestore.mono (fun _ _ h => h.1) fun _ _ h => h

/-! ## Runs of calls -/

/-- A call of `setFeatureValue`, with what its writes and its call of the audio HAL end with. -/
structure SetCall where
  feature : Feature
  value : Int32
  answers : Answers := {}

/-- The service, and the calls that have returned true, oldest first. -/
structure Accepting where
  state : DacState
  accepted : List (Feature × Int32) := []

namespace Accepting

/-- A service that has been started. Only what is written from here on counts. -/
def start (s : DacState) : Accepting := { state := { s with writes := [] } }

def next (device : Device) (a : Accepting) (call : SetCall) : Accepting :=
  let s := a.state.withAnswers call.answers
  { state := final (setFeatureValue device call.feature call.value) s
    accepted :=
      if returned (setFeatureValue device call.feature call.value) s = some true then
        a.accepted ++ [(call.feature, call.value)]
      else a.accepted }

/-- What was accepted is advertised for its feature, and so is what a node has got. -/
def Good (a : Accepting) : Prop :=
  (∀ entry ∈ a.accepted, a.state.Advertises entry.1 entry.2) ∧
    ∀ write ∈ a.state.writes, ∀ f k, Feature.setting f = some k → write.1 = k.path →
      ∃ v, a.state.Advertises f v ∧ k.encode v = some write.2

/-- Some step on the way of the value fails: the feature is not there, the value has no
encoding, the node cannot be written, or the audio HAL says no. -/
def Refused (s : DacState) (call : SetCall) : Prop :=
  call.feature ∉ s.mSupportedFeatures ∨
    match call.feature.setting with
    | some k => k.encode call.value = none ∨ call.answers.sets.headD true = false
    | none => call.feature = .soundPreset → call.answers.setParameters.headD true = false

instance (s : DacState) (call : SetCall) : Decidable (Refused s call) :=
  match h : call.feature.setting with
  | some k =>
      decidable_of_iff (call.feature ∉ s.mSupportedFeatures ∨ k.encode call.value = none ∨
        call.answers.sets.headD true = false) (by rw [Refused, h])
  | none =>
      decidable_of_iff (call.feature ∉ s.mSupportedFeatures ∨
        (call.feature = .soundPreset → call.answers.setParameters.headD true = false))
        (by rw [Refused, h])

/-- The value lies between the bounds of the feature, or gets nowhere. -/
def Harmless (a : Accepting) (call : SetCall) : Prop :=
  call.feature.InBounds call.value ∨ Refused a.state call

instance (a : Accepting) (call : SetCall) : Decidable (Harmless a call) :=
  inferInstanceAs (Decidable (_ ∨ _))

end Accepting

open Accepting

variable {a : Accepting} {call : SetCall}

theorem DacState.advertises_congr (h : SameService s s') (f : Feature) (v : Int32) :
    s'.Advertises f v ↔ s.Advertises f v := by
  have hvalues : s'.getSupportedFeatureValues f = s.getSupportedFeatureValues f := by
    cases f with
    | avcVolume | hifiMode => rfl
    | quadDac | soundPreset | digitalFilter | balanceLeft | balanceRight | customFilter =>
        rw [DacState.getSupportedFeatureValues, DacState.getSupportedFeatureValues]
        · rw [h.states]
        all_goals nofun
  rw [DacState.Advertises, DacState.Advertises, hvalues]

/-- A call makes no difference to what is advertised. -/
theorem Accepting.same_next (device : Device) (a : Accepting) (call : SetCall) :
    SameService a.state (a.next device call).state := by
  have hstep := Moves.final (moves_setFeatureValue device call.feature call.value)
    (a.state.withAnswers call.answers)
  exact ⟨hstep.same.features, hstep.same.states, hstep.same.version, hstep.same.audio⟩

/-- A call that returns is noted if it was accepted. -/
theorem Accepting.next_of_ok {accepted : Bool} {t : DacState}
    (h : setFeatureValue device call.feature call.value (a.state.withAnswers call.answers) =
      .ok accepted t) :
    a.next device call =
      ⟨t, if accepted = true then a.accepted ++ [(call.feature, call.value)] else a.accepted⟩ := by
  rw [next, final, returned, h]
  cases accepted with
  | true => rfl
  | false => rfl

/-- A call that changes neither list keeps the property. -/
theorem Accepting.good_of_quiet (hgood : a.Good)
    (haccepted : (a.next device call).accepted = a.accepted)
    (hwrites : (a.next device call).state.writes = a.state.writes) :
    (a.next device call).Good := by
  have hsame := same_next device a call
  rw [Good, haccepted, hwrites]
  constructor
  · intro entry hentry
    rw [DacState.advertises_congr hsame]
    exact hgood.1 entry hentry
  · intro write hwrite f k hf hpath
    obtain ⟨v, hv, hencode⟩ := hgood.2 write hwrite f k hf hpath
    exact ⟨v, (DacState.advertises_congr hsame f v).mpr hv, hencode⟩

/-- A call with an advertised value may add that value to both lists. -/
theorem Accepting.good_of_advertised (hgood : a.Good)
    (hadvertised : a.state.Advertises call.feature call.value)
    (haccepted : ∀ entry ∈ (a.next device call).accepted,
      entry ∈ a.accepted ∨ entry = (call.feature, call.value))
    (hwrites : ∀ write ∈ (a.next device call).state.writes, write ∈ a.state.writes ∨
      ∃ k, call.feature.setting = some k ∧ write.1 = k.path ∧
        k.encode call.value = some write.2) :
    (a.next device call).Good := by
  have hsame := same_next device a call
  constructor
  · intro entry hentry
    rw [DacState.advertises_congr hsame]
    rcases haccepted entry hentry with hold | rfl
    · exact hgood.1 entry hold
    · exact hadvertised
  · intro write hwrite f k hf hpath
    rcases hwrites write hwrite with hold | ⟨l, hl, hpath', hencode⟩
    · obtain ⟨v, hv, hencode⟩ := hgood.2 write hold f k hf hpath
      exact ⟨v, (DacState.advertises_congr hsame f v).mpr hv, hencode⟩
    · have hfeature : f = call.feature := Feature.path_injective hf hl (hpath.symm.trans hpath')
      rw [hfeature, hl] at hf
      cases hf
      rw [hfeature]
      exact ⟨call.value, (DacState.advertises_congr hsame _ _).mpr hadvertised, hencode⟩

/-- A value that the node has got was one of the advertised ones. -/
theorem Accepting.advertises_of_written (hgood : (a.next device call).Good) {k : Setting}
    {text : String} (hf : call.feature.setting = some k) (hencode : k.encode call.value = some text)
    (hwritten : (k.path, text) ∈ (a.next device call).state.writes) :
    a.state.Advertises call.feature call.value := by
  obtain ⟨v, hv, hsame⟩ := hgood.2 _ hwritten call.feature k hf rfl
  rw [Feature.encode_injective hf hencode hsame]
  exact (DacState.advertises_congr (same_next device a call) _ _).mp hv

/-- A value whose node is written has to be within the bounds. -/
theorem Accepting.good_iff_of_written (hserving : Serving device a.state) (hgood : a.Good)
    {k : Setting} {text : String} (hf : call.feature.setting = some k)
    (hsupported : call.feature ∈ a.state.mSupportedFeatures)
    (hencode : k.encode call.value = some text) (hset : call.answers.sets.headD true = true) :
    (a.next device call).Good ↔ call.feature.InBounds call.value := by
  have hcall := setFeatureValue_setting device call.value
    (s := a.state.withAnswers call.answers) hf hsupported
  rw [hencode] at hcall
  have hnext := next_of_ok hcall
  have hwrites : (a.next device call).state.writes = a.state.writes ++ [(k.path, text)] := by
    rw [hnext]
    exact if_pos hset
  constructor
  · intro hnextGood
    have hlast : (k.path, text) ∈ (a.next device call).state.writes := by
      rw [hwrites]
      exact List.mem_append_right _ List.mem_cons_self
    have hadvertised := advertises_of_written hnextGood hf hencode hlast
    exact (hserving.advertises_iff hsupported _).mp hadvertised
  · intro hbounds
    have hadvertised := (hserving.advertises_iff hsupported _).mpr hbounds
    apply good_of_advertised hgood hadvertised
    · intro entry hentry
      rw [hnext] at hentry
      dsimp only at hentry
      split at hentry
      next =>
        rcases List.mem_append.mp hentry with hold | hnew
        · exact .inl hold
        · exact .inr (List.mem_singleton.mp hnew)
      next => exact .inl hentry
    · intro write hwrite
      rw [hwrites] at hwrite
      rcases List.mem_append.mp hwrite with hold | hnew
      · exact .inl hold
      · rw [List.mem_singleton.mp hnew]
        exact .inr ⟨k, hf, rfl, hencode⟩

/-- A setting that a node stands behind: the values accepted stay advertised exactly if the call is
harmless. -/
theorem Accepting.good_next_setting (hserving : Serving device a.state) (hgood : a.Good)
    {k : Setting} (hf : call.feature.setting = some k)
    (hsupported : call.feature ∈ a.state.mSupportedFeatures) :
    (a.next device call).Good ↔ Harmless a call := by
  have hrefused : Refused a.state call ↔
      k.encode call.value = none ∨ call.answers.sets.headD true = false := by
    rw [Refused, hf]
    exact or_iff_right fun hnot => hnot hsupported
  have hcall := setFeatureValue_setting device call.value
    (s := a.state.withAnswers call.answers) hf hsupported
  rw [Harmless, hrefused]
  cases hencode : k.encode call.value with
  | none =>
      rw [hencode] at hcall
      have hnext := next_of_ok hcall
      apply iff_of_true _ (.inr (.inl rfl))
      apply good_of_quiet hgood
      · rw [hnext]
        rfl
      · rw [hnext]
        rfl
  | some text =>
      cases hset : call.answers.sets.headD true with
      | false =>
          rw [hencode] at hcall
          have hnext := next_of_ok hcall
          apply iff_of_true _ (.inr (.inr rfl))
          apply good_of_quiet hgood
          · rw [hnext]
            apply if_neg
            change ¬(_ && call.answers.sets.headD true) = true
            rw [hset, Bool.and_false]
            exact Bool.false_ne_true
          · rw [hnext]
            apply if_neg
            change ¬call.answers.sets.headD true = true
            rw [hset]
            exact Bool.false_ne_true
      | true =>
          rw [good_iff_of_written hserving hgood hf hsupported hencode hset]
          exact (or_iff_left (by simp)).symm

/-- The same for the sound preset, which goes to the audio HAL. -/
theorem Accepting.good_next_soundPreset (hserving : Serving device a.state) (hgood : a.Good)
    (hf : call.feature = .soundPreset)
    (hsupported : Feature.soundPreset ∈ a.state.mSupportedFeatures) :
    (a.next device call).Good ↔ Harmless a call := by
  have hrefused : Refused a.state call ↔ call.answers.setParameters.headD true = false := by
    rw [Refused, hf]
    exact (or_iff_right fun hnot => hnot hsupported).trans (imp_iff_right rfl)
  have haudio := hserving.audio (List.ne_nil_of_mem hsupported)
  have hcall : setFeatureValue device call.feature call.value
      (a.state.withAnswers call.answers) =
        setSoundPreset device call.value (a.state.withAnswers call.answers) := by
    rw [hf]
    exact setFeatureValue_soundPreset device call.value hsupported
  rw [setSoundPreset_eq device call.value (s := a.state.withAnswers call.answers)
    (hserving.preset hsupported) haudio] at hcall
  rw [Harmless, hrefused]
  have hanswers : (a.state.withAnswers call.answers).answers = call.answers := rfl
  rw [hanswers] at hcall
  -- The audio HAL decides: a value that it refuses is not noted, and any other is.
  cases hanswer : call.answers.setParameters.headD true with
  | false =>
      rw [hanswer, if_neg Bool.false_ne_true] at hcall
      have hnext := next_of_ok hcall
      apply iff_of_true _ (.inr rfl)
      apply good_of_quiet hgood
      · rw [hnext]
        rfl
      · rw [hnext]
        rfl
  | true =>
      rw [hanswer, if_pos rfl] at hcall
      have hnext := next_of_ok hcall
      have hbounds : a.state.Advertises call.feature call.value ↔
          call.feature.InBounds call.value := hserving.advertises_iff (hf ▸ hsupported) _
      rw [← hbounds]
      constructor
      · intro hnextGood
        have hlast : (call.feature, call.value) ∈ (a.next device call).accepted := by
          rw [hnext]
          exact List.mem_append_right _ List.mem_cons_self
        have hadvertised := hnextGood.1 _ hlast
        exact .inl ((DacState.advertises_congr (same_next device a call) _ _).mp hadvertised)
      · rintro (hadvertised | hfalse)
        · apply good_of_advertised hgood hadvertised
          · intro entry hentry
            rw [hnext] at hentry
            rcases List.mem_append.mp hentry with hold | hnew
            · exact .inl hold
            · exact .inr (List.mem_singleton.mp hnew)
          · intro write hwrite
            rw [hnext] at hwrite
            exact .inl hwrite
        · cases hfalse

/-- One call keeps the property exactly if it is harmless. -/
theorem Accepting.good_next_iff (hserving : Serving device a.state) (hgood : a.Good)
    (call : SetCall) : (a.next device call).Good ↔ Harmless a call := by
  by_cases hsupported : call.feature ∈ a.state.mSupportedFeatures
  · cases hf : call.feature.setting with
    | some k => exact good_next_setting hserving hgood hf hsupported
    | none =>
        by_cases hpreset : call.feature = .soundPreset
        · exact good_next_soundPreset hserving hgood hpreset (hpreset ▸ hsupported)
        · have hnext := next_of_ok (setFeatureValue_of_setting_eq_none device call.value
            (s := a.state.withAnswers call.answers) hf hpreset)
          apply iff_of_true
          · apply good_of_quiet hgood
            · rw [hnext]
              rfl
            · rw [hnext]
              rfl
          · refine .inr (.inr ?_)
            rw [hf]
            exact fun heq => absurd heq hpreset
  · have hnext := next_of_ok (setFeatureValue_of_notMem device
      (s := a.state.withAnswers call.answers) hsupported call.value)
    apply iff_of_true
    · apply good_of_quiet hgood
      · rw [hnext]
        rfl
      · rw [hnext]
        rfl
    · exact .inr (.inl hsupported)

/-- In every run the values accepted are advertised throughout exactly if every call is harmless. -/
theorem Accepting.throughout_good_iff (hserving : Serving device s) (calls : List SetCall) :
    Throughout (next device) Good (start s) calls ↔
      Admits (next device) Harmless (start s) calls := by
  apply Throughout.iff_admits (fun a => Serving device a.state)
  · exact fun a call ha _ => ha.same (same_next device a call)
  · exact fun a call ha hgood => good_next_iff ha hgood call
  · exact hserving.same ⟨rfl, rfl, rfl, rfl⟩
  · exact ⟨fun _ h => absurd h List.not_mem_nil, fun _ h => absurd h List.not_mem_nil⟩

/-- A service whose constructor returned serves. -/
theorem serving_of_returns {before : DacState}
    (hreturns : stops (construct device) before = false) :
    Serving device (final (construct device) before) :=
  (serving_construct device before).of_returns hreturns

/-- Once the constructor has returned, only advertised values are accepted and written
exactly as long as each call has a value between the bounds of its feature or is refused on
its way. -/
theorem accepted_values_advertised_iff (device : Device) (before : DacState)
    (hreturns : stops (construct device) before = false) (calls : List SetCall) :
    let started := start (final (construct device) before)
    Throughout (next device) Good started calls ↔ Admits (next device) Harmless started calls :=
  throughout_good_iff (serving_of_returns hreturns) calls

theorem accepted_values_advertised_iff_volume :
    let started := start (final (construct {}) {})
    let calls : List SetCall := [⟨.avcVolume, -10, {}⟩, ⟨.digitalFilter, 7, {}⟩]
    Throughout (next {}) Good started calls ↔ Admits (next {}) Harmless started calls :=
  accepted_values_advertised_iff {} {} (by decide +kernel) _

/-- The first step of the balance in the settings panel asks for 1, which is out of range, and
the service takes it. -/
theorem not_throughout_good_balance :
    ¬Throughout (next {}) Good (start (final (construct {}) {})) [⟨.balanceLeft, 1, {}⟩] := by
  have hserving : Serving {} (final (construct {}) {}) := serving_of_returns (by decide +kernel)
  exact (not_congr (throughout_good_iff hserving _)).mpr (by decide +kernel)

end LgeHardware.Dac
