import LgeHardware.Provider.Service

/-! # Names and cameras

The framework asks for a camera by a name that the provider told it, in a callback or in the list
of the camera ids. Once the provider is constructed, it finds the camera of each such name for as
long as the camera is there, under no other text, and never takes a name of its own for one of
another version.
-/

namespace LgeHardware.Provider

open LgeHardware.Foundation LgeHardware.Camera ProviderM

theorem atoi_toStr (id : Int32) : atoi (toStr id) = id := by
  rw [atoi, toStr, leadingInt_toString, Option.getD_some, Int32.ofInt_toInt]

/-- The camera can be opened, by its id and by what the module says of its version. -/
def Usable (getDeviceVersion : Int32 → Int) (id : Int32) : Prop :=
  0 ≤ id ∧ (cameraDeviceApiVersion32 : Int) ≤ getDeviceVersion id

theorem construct_of_usable {getDeviceVersion : Int32 → Int} {id : Int32}
    (h : Usable getDeviceVersion id) :
    CameraDevice.construct getDeviceVersion (toStr id) = { mCameraId := toStr id } := by
  rw [CameraDevice.construct, atoi_toStr, decide_eq_false (Int32.not_lt.mpr h.1),
    decide_eq_false (not_lt.mpr h.2)]
  rfl

theorem mInitFail_construct (getDeviceVersion : Int32 → Int) (id : Int32) :
    (CameraDevice.construct getDeviceVersion (toStr id)).mInitFail = true ↔
      ¬Usable getDeviceVersion id := by
  rw [CameraDevice.construct, atoi_toStr, Usable]
  simp only [Bool.or_eq_true, decide_eq_true_eq, not_and_or, Int32.not_le, not_le]

namespace CameraProvider

variable {p : CameraProvider}

/-- The name is that of a camera which is there. -/
def Shows (p : CameraProvider) (id : Int32) (name : String) : Prop :=
  toStr id ∈ p.mCameraIds ∧ name = getAidlDeviceName (toStr id)

/-- The name reads as that of a camera which is there, and is another text. -/
def Mistakes (p : CameraProvider) (id : Int32) (name : String) : Prop :=
  toStr id ∈ p.mCameraIds ∧ name ≠ getAidlDeviceName (toStr id) ∧
    ∃ version, matchDeviceName name = some (version, toStr id)

end CameraProvider

/-- The pairs of the device table are the ids, each with its own name. -/
theorem ProviderCall.Names.mem_names_iff {allowed : Int32 → Prop} {c : ProviderCall}
    (h : c.Names allowed) (hpaired : c.provider.Paired) (key name : String) :
    (key, name) ∈ c.provider.mCameraDeviceNames ↔
      key ∈ c.provider.mCameraIds ∧ name = getAidlDeviceName key := by
  constructor
  · intro hmem
    obtain ⟨id, -, hpair⟩ := h.names _ hmem
    obtain ⟨rfl, rfl⟩ := Prod.mk.inj hpair
    exact ⟨(hpaired (toStr id)).mp hmem, rfl⟩
  · rintro ⟨hkey, rfl⟩
    exact (hpaired key).mpr hkey

namespace ProviderState

/-- What `getCameraDeviceInterface` answers, unless the process ends in it. -/
def lookUp (s : ProviderState) (getDeviceVersion : Int32 → Int) (name : String) :
    Option (Status × Option CameraDevice) :=
  match Provider.getCameraDeviceInterface getDeviceVersion name s.call with
  | .ok answer _ => some answer
  | .error .. => none

/-- The provider answers for every text, in four ways. -/
inductive LooksUp (s : ProviderState) (getDeviceVersion : Int32 → Int) (name : String) : Prop
  | opened (id : Int32) (hshows : s.call.provider.Shows id name)
      (husable : Usable getDeviceVersion id)
      (hanswer : s.lookUp getDeviceVersion name = some (.ok, some { mCameraId := toStr id }))
  | unusable (id : Int32) (hshows : s.call.provider.Shows id name)
      (husable : ¬Usable getDeviceVersion id)
      (hanswer : s.lookUp getDeviceVersion name = some (.internalError, none))
  | unsupported (id : Int32) (hmistakes : s.call.provider.Mistakes id name)
      (hanswer : s.lookUp getDeviceVersion name = some (.operationNotSupported, none))
  | unknown (hshows : ∀ id, ¬s.call.provider.Shows id name)
      (hmistakes : ∀ id, ¬s.call.provider.Mistakes id name)
      (hanswer : s.lookUp getDeviceVersion name = some (.illegalArgument, none))

variable {allowed : Int32 → Prop} {world : ProviderWorld} {s : ProviderState}

theorem lookUp_of_ends {getDeviceVersion : Int32 → Int} {name : String}
    {answer : Status × Option CameraDevice}
    (h : Ends (Provider.getCameraDeviceInterface getDeviceVersion name) s.call
      (fun result _ => result = answer) fun _ _ => False) :
    s.lookUp getDeviceVersion name = some answer := by
  rw [Ends] at h
  rw [lookUp]
  cases hcall : Provider.getCameraDeviceInterface getDeviceVersion name s.call with
  | ok result c =>
      rw [hcall] at h
      exact congrArg some h
  | error e c =>
      rw [hcall] at h
      exact h.elim

/-- A provider that is ready answers every text in one of the four ways. -/
theorem looksUp_of_inv (h : s.Inv allowed) (hready : s.phase = .ready)
    (getDeviceVersion : Int32 → Int) (name : String) : s.LooksUp getDeviceVersion name := by
  have hworks : s.call.provider.Works := by
    have hfits := h.fits
    rwa [hready] at hfits
  -- The cases are those of `getCameraDeviceInterface`: no name at all, the name of a camera,
  -- another name of one, and the name of none.
  cases hmatch : matchDeviceName name with
  | none =>
      refine .unknown ?_ ?_ (lookUp_of_ends ?_)
      · rintro id ⟨-, rfl⟩
        rw [matchDeviceName_getAidlDeviceName] at hmatch
        cases hmatch
      · rintro id ⟨-, -, version, hversion⟩
        rw [hmatch] at hversion
        cases hversion
      · rw [Provider.getCameraDeviceInterface, hmatch]
        rfl
  | some found =>
      obtain ⟨version, cameraId⟩ := found
      have hmem := h.names.mem_names_iff hworks.paired cameraId name
      by_cases hknown : cameraId ∈ s.call.provider.mCameraIds
      · obtain ⟨id, -, rfl⟩ := h.names.ids cameraId hknown
        by_cases hname : name = getAidlDeviceName (toStr id)
        · have hfound : (toStr id, name) ∈ s.call.provider.mCameraDeviceNames :=
            hmem.mpr ⟨hknown, hname⟩
          by_cases husable : Usable getDeviceVersion id
          · refine .opened id ⟨hknown, hname⟩ husable (lookUp_of_ends ?_)
            rw [Provider.getCameraDeviceInterface, hmatch]
            simp only [ends_bind, ends_getProvider]
            rw [if_neg (not_not_intro hfound), ends_bind, ends_useModule, if_pos hworks.mModule,
              construct_of_usable husable]
            rfl
          · refine .unusable id ⟨hknown, hname⟩ husable (lookUp_of_ends ?_)
            rw [Provider.getCameraDeviceInterface, hmatch]
            simp only [ends_bind, ends_getProvider]
            rw [if_neg (not_not_intro hfound), ends_bind, ends_useModule, if_pos hworks.mModule,
              (mInitFail_construct getDeviceVersion id).mpr husable]
            rfl
        · refine .unsupported id ⟨hknown, hname, version, hmatch⟩ (lookUp_of_ends ?_)
          rw [Provider.getCameraDeviceInterface, hmatch]
          simp only [ends_bind, ends_getProvider]
          rw [if_pos fun hfound => hname (hmem.mp hfound).2, if_neg (not_not_intro hknown)]
          rfl
      · refine .unknown ?_ ?_ (lookUp_of_ends ?_)
        · rintro id ⟨hid, rfl⟩
          rw [matchDeviceName_getAidlDeviceName] at hmatch
          cases hmatch
          exact hknown hid
        · rintro id ⟨hid, -, version', hversion⟩
          rw [hmatch] at hversion
          cases hversion
          exact hknown hid
        · rw [Provider.getCameraDeviceInterface, hmatch]
          simp only [ends_bind, ends_getProvider]
          rw [if_pos fun hfound => hknown (hmem.mp hfound).1, if_pos hknown]
          rfl

/-! ## The list of the camera ids -/

end ProviderState

namespace CameraProvider

/-- The camera of a key is one of the module's own and present. -/
def lists (p : CameraProvider) (key : String) : Bool :=
  (stoi key).any (· ∈ p.mLegacyCameras) && p.mCameraStatusMap[key]? == some .present

theorem lists_toStr (p : CameraProvider) (id : Int32) :
    p.lists (toStr id) = true ↔
      id ∈ p.mLegacyCameras ∧ p.mCameraStatusMap[toStr id]? = some .present := by
  rw [lists, stoi_toStr, Option.any_some, Bool.and_eq_true, decide_eq_true_eq, beq_iff_eq]

/-- Looking up a status does not make a camera present. -/
theorem lists_insertIfNew (p : CameraProvider) (key : String) :
    ({ p with mCameraStatusMap := p.mCameraStatusMap.insertIfNew key .notPresent }
      : CameraProvider).lists = p.lists := by
  funext other
  rw [lists, lists]
  congr 1
  dsimp only
  rw [Std.ExtTreeMap.getElem?_insertIfNew_of_eq]
  split
  next hnew =>
    obtain ⟨rfl, hnot⟩ := hnew
    rw [getElem?_neg p.mCameraStatusMap key hnot]
    rfl
  next => rfl

end CameraProvider

/-- The reply has the names that are listed, in the order of the table. -/
theorem cameraIdList_spec {pairs : List (String × String)}
    (hpairs : ∀ pair ∈ pairs, ∃ id, pair = (toStr id, getAidlDeviceName (toStr id)))
    (c : ProviderCall) :
    Ends (cameraIdList pairs) c
      (fun names c' => c'.events = c.events ∧
        names = (pairs.filter fun pair => c.provider.lists pair.1).map Prod.snd)
      fun _ _ => False := by
  induction pairs generalizing c with
  | nil => exact ⟨rfl, rfl⟩
  | cons pair rest ih =>
      obtain ⟨id, rfl⟩ := hpairs _ List.mem_cons_self
      have hrest := fun other hother => hpairs other (List.mem_cons_of_mem _ hother)
      rw [cameraIdList, ends_bind, ends_parse_toStr, ends_bind, ends_getProvider]
      split
      next hforeign =>
        have hnot : c.provider.lists (toStr id) = false :=
          Bool.eq_false_iff.mpr fun h => hforeign ((c.provider.lists_toStr id).mp h).1
        rw [List.filter_cons_of_neg (by simpa using hnot)]
        exact ih hrest c
      next hlegacy =>
        simp only [ends_bind, ProviderM.ends_update, ends_pure]
        apply (ih hrest _).mono
        · rintro names c' ⟨hevents, hnames⟩
          refine ⟨hevents, ?_⟩
          dsimp only at hnames
          rw [CameraProvider.lists_insertIfNew] at hnames
          rw [List.filter_cons]
          split
          next hpresent =>
            rw [if_pos ((c.provider.lists_toStr id).mpr ⟨Decidable.not_not.mp hlegacy, hpresent⟩),
              hnames]
            rfl
          next habsent =>
            rw [if_neg fun h => habsent ((c.provider.lists_toStr id).mp h).2, hnames]
        · exact fun _ _ h => h

namespace ProviderState

variable {allowed : Int32 → Prop} {world : ProviderWorld} {s : ProviderState}

/-- The names in the reply are those of the module's own cameras that are present. -/
structure ListsNames (world : ProviderWorld) (s : ProviderState) (names : List String) : Prop where
  replied : (s.next world .getCameraIdList).call.events = s.call.events ++ [.cameraIdList names]
  once : names.Nodup
  listed : ∀ name, name ∈ names ↔ ∃ id, s.call.provider.Shows id name ∧
    id ∈ s.call.provider.mLegacyCameras ∧
    s.call.provider.mCameraStatusMap[toStr id]? = some .present

theorem exists_listsNames (h : s.Inv allowed) (hready : s.phase = .ready) :
    ∃ names, s.ListsNames world names := by
  have hworks : s.call.provider.Works := by
    have hfits := h.fits
    rwa [hready] at hfits
  have hpairs : ∀ pair ∈ s.call.provider.mCameraDeviceNames.toList,
      ∃ id, pair = (toStr id, getAidlDeviceName (toStr id)) := by
    intro pair hpair
    obtain ⟨id, -, rfl⟩ := h.names.names pair (Std.ExtTreeSet.mem_toList.mp hpair)
    exact ⟨id, rfl⟩
  let names := (s.call.provider.mCameraDeviceNames.toList.filter fun pair =>
    s.call.provider.lists pair.1).map Prod.snd
  have hends : Ends Provider.getCameraIdList s.call
      (fun _ c => c.events = s.call.events ++ [.cameraIdList names]) fun _ _ => False := by
    simp only [Provider.getCameraIdList, ends_bind, ends_getProvider]
    refine (cameraIdList_spec hpairs s.call).mono ?_ fun _ _ h => h
    rintro _ c ⟨hevents, rfl⟩
    rw [ProviderM.ends_emit]
    dsimp only
    rw [hevents]
  refine ⟨names, ?_, ?_, ?_⟩
  · obtain ⟨c, hc, hevents⟩ := perform_of_ends hends
    have hconstructed : s.phase.constructed = true := by rw [hready]; rfl
    rw [next, if_pos hconstructed, hc]
    exact hevents
  · apply List.Nodup.map_on _ ((Std.ExtTreeSet.nodup_toList _).filter _)
    intro a ha b hb hsame
    obtain ⟨i, rfl⟩ := hpairs a (List.mem_of_mem_filter ha)
    obtain ⟨j, rfl⟩ := hpairs b (List.mem_of_mem_filter hb)
    rw [getAidlDeviceName_injective hsame]
  · intro name
    rw [List.mem_map]
    constructor
    · rintro ⟨pair, hpair, rfl⟩
      obtain ⟨hmem, hlists⟩ := List.mem_filter.mp hpair
      obtain ⟨id, rfl⟩ := hpairs pair hmem
      have hid := (hworks.paired (toStr id)).mp (Std.ExtTreeSet.mem_toList.mp hmem)
      exact ⟨id, ⟨hid, rfl⟩, (s.call.provider.lists_toStr id).mp hlists⟩
    · rintro ⟨id, ⟨hid, rfl⟩, hlists⟩
      have hmem := Std.ExtTreeSet.mem_toList.mpr ((hworks.paired (toStr id)).mpr hid)
      exact ⟨_, List.mem_filter.mpr ⟨hmem, (s.call.provider.lists_toStr id).mpr hlists⟩, rfl⟩

/-! ## Runs -/

/-- The names that the framework has been told, the names that the provider finds a camera of,
and the names in its list fit together. -/
structure NamesAgree (world : ProviderWorld) (s : ProviderState) : Prop where
  found : ∀ getDeviceVersion name, s.LooksUp getDeviceVersion name
  told : ∀ event ∈ s.call.events, ∀ name ∈ event.names, ∀ id, ¬s.call.provider.Mistakes id name
  listed : ∃ names, s.ListsNames world names

/-- A name that the provider made is never taken for that of another version. -/
theorem not_mistakes_of_told (h : s.Inv allowed) {event : ProviderEvent}
    (hevent : event ∈ s.call.events) {name : String} (hname : name ∈ event.names) (id : Int32) :
    ¬s.call.provider.Mistakes id name := by
  rintro ⟨-, hother, version, hmatch⟩
  obtain ⟨named, -, rfl⟩ := h.names.events event hevent name hname
  rw [matchDeviceName_getAidlDeviceName] at hmatch
  obtain ⟨-, hsame⟩ := Prod.mk.inj (Option.some_inj.mp hmatch)
  exact hother (congrArg getAidlDeviceName hsame)

end ProviderState

end LgeHardware.Provider
