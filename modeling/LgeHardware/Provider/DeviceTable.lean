import LgeHardware.Foundation.Run
import LgeHardware.Provider.CameraProvider

/-! # The device table follows the reports of the HAL

The provider keeps the status of each id apart from the table of names. While it has
no callback only the status is kept, and `setCallback` brings the table up to date.
It does so for external cameras that have come, and for nothing else.
-/

namespace LgeHardware.Provider

open LgeHardware.Foundation ProviderM

/-! ## What the calls do to the tables -/

/-- The table with the entry of a camera. -/
def CameraProvider.withDevice (p : CameraProvider) (id : Int32) : CameraProvider :=
  { p with
    mCameraIds := p.mCameraIds.insert (toStr id)
    mCameraDeviceNames := p.mCameraDeviceNames.insert (toStr id, getAidlDeviceName (toStr id)) }

def CameraProvider.withoutDevice (p : CameraProvider) (id : Int32) : CameraProvider :=
  { p with
    mCameraIds := p.mCameraIds.erase (toStr id)
    mCameraDeviceNames := p.mCameraDeviceNames.erase (toStr id, getAidlDeviceName (toStr id)) }

/-- Without a module the id is entered and the call ends there. -/
theorem addDeviceNames_spec (id : Int32) (status : CameraDeviceStatus) (camNew : Bool)
    (c : ProviderCall) :
    Ends (addDeviceNames id status camNew) c
      (fun _ c' => c.provider.mModule = true ∧ c' =
        { provider := c.provider.withDevice id
          events := c.events ++
            if camNew then [.cameraDeviceStatusChange (getAidlDeviceName (toStr id)) status]
            else [] })
      (fun _ c' => c.provider.mModule = false ∧ c' =
        { c with provider := { c.provider with
            mCameraIds := c.provider.mCameraIds.insert (toStr id) } }) := by
  simp only [addDeviceNames, ends_bind, ends_update, ends_useModule]
  split
  next hmodule =>
    cases camNew with
    | false =>
        refine ⟨hmodule, ?_⟩
        rw [if_neg Bool.false_ne_true, List.append_nil]
        rfl
    | true => exact ⟨hmodule, rfl⟩
  next hmodule => exact ⟨eq_false_of_ne_true hmodule, trivial⟩

/-- The camera and its names are gone, which the framework is told, unless there is no module. -/
theorem removeDeviceNames_spec (id : Int32) (c : ProviderCall) :
    Ends (removeDeviceNames id) c
      (fun _ c' => c.provider.mModule = true ∧ c' =
        { provider := c.provider.withoutDevice id
          events := c.events ++
            [.cameraDeviceStatusChange (getAidlDeviceName (toStr id)) .notPresent,
              .removeCamera id] })
      (fun _ c' => c.provider.mModule = false ∧ c' =
        { c with provider := { c.provider with
            mCameraIds := c.provider.mCameraIds.erase (toStr id) } }) := by
  simp only [removeDeviceNames, ends_bind, ends_update, ends_useModule]
  split
  next hmodule => exact ⟨hmodule, rfl⟩
  next hmodule => exact ⟨eq_false_of_ne_true hmodule, trivial⟩

def CameraProvider.withStatus (p : CameraProvider) (id : Int32) (status : CameraDeviceStatus) :
    CameraProvider :=
  { p with mCameraStatusMap := p.mCameraStatusMap.insert (toStr id) status }

/-- The provider with the status of an id, and the report of it to the framework. -/
def ProviderCall.reported (c : ProviderCall) (id : Int32) (status : CameraDeviceStatus)
    (names : List String) : ProviderCall :=
  { provider := c.provider.withStatus id status
    events := c.events ++ names.map fun name => .cameraDeviceStatusChange name status }

theorem ends_sCameraDeviceStatusChange (id : Int32) (status : CameraDeviceStatus)
    (c : ProviderCall) {post : PUnit → ProviderCall → Prop} {stop : Unit → ProviderCall → Prop} :
    Ends (sCameraDeviceStatusChange id status) c post stop ↔
      if c.provider.isCameraIdBlacklisted id = true then post ⟨⟩ c
      else if c.provider.mCallbacks = false then post ⟨⟩ (c.reported id status [])
      else
        let names := c.provider.deviceNames (toStr id)
        Ends (updateDeviceNames id status (names ≠ [])) (c.reported id status names) post stop := by
  rw [sCameraDeviceStatusChange, ends_bind, ends_getProvider]
  cases hlisted : c.provider.isCameraIdBlacklisted id with
  | true => rfl
  | false =>
      cases hcallbacks : c.provider.mCallbacks with
      | false =>
          have hreported : c.reported id status [] =
              { c with provider := c.provider.withStatus id status } := by
            rw [ProviderCall.reported, List.map_nil, List.append_nil]
          rw [if_neg Bool.false_ne_true, if_pos rfl, hreported]
          rfl
      | true => rfl

/-! ## What the tables hold -/

/-- The names that the event tells the framework. -/
def ProviderEvent.names : ProviderEvent → List String
  | .cameraDeviceStatusChange name _ | .torchModeStatusChange name _ => [name]
  | .cameraIdList names => names
  | .removeCamera _ => []

/-- The keys of the tables are ids, the names in them and those told the framework are the
names of such ids, and these ids are all allowed. -/
structure ProviderCall.Names (allowed : Int32 → Prop) (c : ProviderCall) : Prop where
  statuses : ∀ key ∈ c.provider.mCameraStatusMap, ∃ id, key = toStr id
  ids : ∀ key ∈ c.provider.mCameraIds, ∃ id, allowed id ∧ key = toStr id
  names : ∀ pair ∈ c.provider.mCameraDeviceNames,
    ∃ id, allowed id ∧ pair = (toStr id, getAidlDeviceName (toStr id))
  events : ∀ event ∈ c.events, ∀ name ∈ event.names,
    ∃ id, allowed id ∧ name = getAidlDeviceName (toStr id)

namespace ProviderCall.Names

variable {allowed : Int32 → Prop} {c : ProviderCall}

theorem emit (h : c.Names allowed) {events : List ProviderEvent}
    (hevents : ∀ event ∈ events, ∀ name ∈ event.names,
      ∃ id, allowed id ∧ name = getAidlDeviceName (toStr id)) :
    ({ c with events := c.events ++ events } : ProviderCall).Names allowed :=
  { h with
    events := fun event hevent =>
      (List.mem_append.mp hevent).elim (h.events event) (hevents event) }

theorem deviceNames (h : c.Names allowed) {cameraId name : String}
    (hname : name ∈ c.provider.deviceNames cameraId) :
    ∃ id, allowed id ∧ cameraId = toStr id ∧ name = getAidlDeviceName (toStr id) := by
  obtain ⟨pair, hpair, rfl⟩ := List.mem_map.mp hname
  obtain ⟨hmem, hkey⟩ := List.mem_filter.mp hpair
  obtain ⟨id, hid, rfl⟩ := h.names pair (Std.ExtTreeSet.mem_toList.mp hmem)
  exact ⟨id, hid, (of_decide_eq_true hkey).symm, rfl⟩

theorem withId (h : c.Names allowed) {id : Int32} (hid : allowed id) :
    ({ c with
      provider := { c.provider with
        mCameraIds := c.provider.mCameraIds.insert (toStr id) } } : ProviderCall).Names
          allowed := by
  refine { h with ids := fun key hkey => ?_ }
  rcases Std.ExtTreeSet.mem_insert_iff.mp hkey with hold | rfl
  · exact h.ids key hold
  · exact ⟨id, hid, rfl⟩

theorem withDevice (h : c.Names allowed) {id : Int32} (hid : allowed id) :
    ({ c with provider := c.provider.withDevice id } : ProviderCall).Names allowed := by
  refine { h.withId hid with names := fun pair hpair => ?_ }
  rcases Std.ExtTreeSet.mem_insert_iff.mp hpair with hold | rfl
  · exact h.names pair hold
  · exact ⟨id, hid, rfl⟩

theorem withoutId (h : c.Names allowed) (id : Int32) :
    ({ c with provider := { c.provider with
        mCameraIds := c.provider.mCameraIds.erase (toStr id) } } : ProviderCall).Names allowed :=
  { h with ids := fun key hkey => h.ids key (Std.ExtTreeSet.mem_erase_iff.mp hkey).1 }

theorem withoutDevice (h : c.Names allowed) (id : Int32) :
    ({ c with provider := c.provider.withoutDevice id } : ProviderCall).Names allowed :=
  { h.withoutId id with
    names := fun pair hpair => h.names pair (Std.ExtTreeSet.mem_erase_iff.mp hpair).1 }

theorem withStatus (h : c.Names allowed) (id : Int32) (status : CameraDeviceStatus) :
    ({ c with provider := c.provider.withStatus id status } : ProviderCall).Names allowed := by
  refine { h with statuses := fun key hkey => ?_ }
  rcases Std.ExtTreeMap.mem_insert_iff.mp hkey with hold | rfl
  · exact h.statuses key hold
  · exact ⟨id, rfl⟩

theorem reported (h : c.Names allowed) (id : Int32) (status : CameraDeviceStatus)
    {names : List String} (hnames : ∀ name ∈ names, ∃ id, allowed id ∧
      name = getAidlDeviceName (toStr id)) : (c.reported id status names).Names allowed := by
  apply (h.withStatus id status).emit
  intro event hevent name hname
  obtain ⟨found, hfound, rfl⟩ := List.mem_map.mp hevent
  rw [List.mem_singleton.mp hname]
  exact hnames found hfound

/-- The keys are ids and the names are theirs, whoever holds the call. -/
theorem addDeviceNames (h : c.Names allowed) {id : Int32} (hid : allowed id)
    (status : CameraDeviceStatus) (camNew : Bool) :
    Ends (addDeviceNames id status camNew) c (fun _ c' => c'.Names allowed)
      fun _ c' => c'.Names allowed := by
  apply (addDeviceNames_spec id status camNew c).mono
  · rintro _ _ ⟨-, rfl⟩
    apply (h.withDevice hid).emit
    intro event hevent name hname
    split at hevent
    next =>
      rw [List.mem_singleton.mp hevent] at hname
      exact ⟨id, hid, List.mem_singleton.mp hname⟩
    next => cases hevent
  · rintro _ _ ⟨-, rfl⟩
    exact h.withId hid

theorem removeDeviceNames (h : c.Names allowed) {id : Int32} (hid : allowed id) :
    Ends (removeDeviceNames id) c (fun _ c' => c'.Names allowed) fun _ c' => c'.Names allowed := by
  apply (removeDeviceNames_spec id c).mono
  · rintro _ _ ⟨-, rfl⟩
    apply (h.withoutDevice id).emit
    intro event hevent name hname
    rcases List.mem_cons.mp hevent with rfl | hlast
    · exact ⟨id, hid, List.mem_singleton.mp hname⟩
    · rw [List.mem_singleton.mp hlast] at hname
      cases hname
  · rintro _ _ ⟨-, rfl⟩
    exact h.withoutId id

theorem updateDeviceNames (h : c.Names allowed) {id : Int32} {status : CameraDeviceStatus}
    {found : Bool} (hfound : found = true → allowed id)
    (hnew : status = .present ∨ status = .enumerating → allowed id) :
    Ends (updateDeviceNames id status found) c (fun _ c' => c'.Names allowed)
      fun _ c' => c'.Names allowed := by
  cases status with
  | present =>
      cases found with
      | true => exact h
      | false => exact h.addDeviceNames (hnew (.inl rfl)) .present true
  | enumerating =>
      cases found with
      | true => exact h
      | false => exact h.addDeviceNames (hnew (.inr rfl)) .enumerating true
  | notPresent =>
      cases found with
      | true => exact h.removeDeviceNames (hfound rfl)
      | false => exact h
  | other value => exact h

theorem sCameraDeviceStatusChange (h : c.Names allowed) {id : Int32}
    {status : CameraDeviceStatus}
    (hid : c.provider.isCameraIdBlacklisted id = false → c.provider.mCallbacks = true →
      status = .present ∨ status = .enumerating → allowed id) :
    Ends (sCameraDeviceStatusChange id status) c (fun _ c' => c'.Names allowed)
      fun _ c' => c'.Names allowed := by
  rw [ends_sCameraDeviceStatusChange]
  split
  next => exact h
  next hlisted =>
    split
    next => exact h.reported id status nofun
    next hcallbacks =>
      have hreported :
          (c.reported id status (c.provider.deviceNames (toStr id))).Names allowed := by
        apply h.reported id status
        intro name hname
        obtain ⟨other, hother, -, hshown⟩ := h.deviceNames hname
        exact ⟨other, hother, hshown⟩
      apply hreported.updateDeviceNames
      · intro hfound
        obtain ⟨name, hname⟩ := List.exists_mem_of_ne_nil _ (of_decide_eq_true hfound)
        obtain ⟨other, hother, hkey, -⟩ := h.deviceNames hname
        rwa [toStr_injective hkey]
      · exact hid (eq_false_of_ne_true hlisted) (eq_true_of_ne_false hcallbacks)

theorem sTorchModeStatusChange (h : c.Names allowed) (cameraId : String) (status : Int32) :
    Ends (sTorchModeStatusChange cameraId status) c (fun _ c' => c'.Names allowed)
      fun _ c' => c'.Names allowed := by
  rw [Provider.sTorchModeStatusChange, ends_bind, parse]
  cases stoi cameraId with
  | none => exact h
  | some id =>
      rw [ends_pure, ends_bind, ends_getProvider]
      split
      next => exact h
      next =>
        split
        next =>
          apply h.emit
          intro event hevent name hname
          obtain ⟨found, hfound, rfl⟩ := List.mem_map.mp hevent
          obtain ⟨other, hother, -, rfl⟩ := h.deviceNames hfound
          exact ⟨other, hother, List.mem_singleton.mp hname⟩
        next => exact h

theorem addPresent {entries : List (String × CameraDeviceStatus)} (h : c.Names allowed)
    (hkeys : ∀ entry ∈ entries, ∃ id, entry.1 = toStr id)
    (hentries : ∀ id status, (toStr id, status) ∈ entries → status ≠ .notPresent →
      id ∉ c.provider.mLegacyCameras → allowed id) :
    Ends (addPresent entries) c (fun _ c' => c'.Names allowed) fun _ c' => c'.Names allowed := by
  induction entries generalizing c with
  | nil => exact h
  | cons entry rest ih =>
      obtain ⟨key, status⟩ := entry
      obtain ⟨id, rfl⟩ := hkeys _ List.mem_cons_self
      have hrest : ∀ c', c'.Names allowed →
          c'.provider.mLegacyCameras = c.provider.mLegacyCameras →
          Ends (Provider.addPresent rest) c' (fun _ c' => c'.Names allowed)
            fun _ c' => c'.Names allowed := by
        intro c' h' hlegacy
        apply ih h'
        · exact fun other hother => hkeys other (List.mem_cons_of_mem _ hother)
        · intro other status hother
          rw [hlegacy]
          exact hentries other status (List.mem_cons_of_mem _ hother)
      rw [Provider.addPresent, ends_bind, ends_parse_toStr, ends_bind, ends_getProvider]
      dsimp only
      split
      next hnew =>
        rw [ends_bind]
        apply ((h.addDeviceNames (hentries id status List.mem_cons_self hnew.2 hnew.1) status
          true).and (addDeviceNames_spec id status true c)).mono
        · rintro _ c' ⟨h', -, rfl⟩
          exact hrest _ h' rfl
        · rintro _ c' ⟨h', -⟩
          exact h'
      next => exact hrest c h rfl

theorem setCallback (h : c.Names allowed) {callback : Bool}
    (hentries : callback = true → ∀ id status,
      c.provider.mCameraStatusMap[toStr id]? = some status → status ≠ .notPresent →
        id ∉ c.provider.mLegacyCameras → allowed id) :
    Ends (setCallback callback) c (fun _ c' => c'.Names allowed) fun _ c' => c'.Names allowed := by
  rw [Provider.setCallback, ends_bind, ends_update]
  cases callback with
  | false => exact { h with }
  | true =>
      have hmem : ∀ key status, (key, status) ∈ c.provider.mCameraStatusMap.toList →
          c.provider.mCameraStatusMap[key]? = some status :=
        fun _ _ => Std.ExtTreeMap.mem_toList_iff_getElem?_eq_some.mp
      apply addPresent (c := { c with provider := { c.provider with mCallbacks := true } })
      · exact { h with }
      · exact fun entry hentry =>
          h.statuses _ (Std.ExtTreeMap.mem_of_getElem? (hmem _ entry.2 hentry))
      · exact fun id status hentry => hentries rfl id status (hmem _ _ hentry)

theorem cameraIdList {pairs : List (String × String)} (h : c.Names allowed)
    (hpairs : ∀ pair ∈ pairs, ∃ id, allowed id ∧ pair = (toStr id, getAidlDeviceName (toStr id))) :
    Ends (cameraIdList pairs) c
      (fun names c' => c'.Names allowed ∧
        ∀ name ∈ names, ∃ id, allowed id ∧ name = getAidlDeviceName (toStr id))
      fun _ c' => c'.Names allowed := by
  induction pairs generalizing c with
  | nil => exact ⟨h, nofun⟩
  | cons pair rest ih =>
      obtain ⟨id, hid, rfl⟩ := hpairs _ List.mem_cons_self
      have hrest := fun other hother => hpairs other (List.mem_cons_of_mem _ hother)
      rw [Provider.cameraIdList, ends_bind, ends_parse_toStr, ends_bind, ends_getProvider]
      split
      next => exact ih h hrest
      next =>
        simp only [ends_bind, ends_update, ends_pure]
        have hcreated : ({ c with provider := { c.provider with
            mCameraStatusMap := c.provider.mCameraStatusMap.insertIfNew (toStr id) .notPresent } }
            : ProviderCall).Names allowed := by
          refine { h with statuses := fun key hkey => ?_ }
          rcases Std.ExtTreeMap.mem_insertIfNew_iff.mp hkey with hold | rfl
          · exact h.statuses key hold
          · exact ⟨id, rfl⟩
        apply (ih hcreated hrest).mono
        · rintro names c' ⟨h', hnames⟩
          refine ⟨h', fun name hname => ?_⟩
          split at hname
          next =>
            rcases List.mem_cons.mp hname with rfl | hother
            · exact ⟨id, hid, rfl⟩
            · exact hnames name hother
          next => exact hnames name hname
        · exact fun _ _ h' => h'

theorem getCameraIdList (h : c.Names allowed) :
    Ends getCameraIdList c (fun _ c' => c'.Names allowed) fun _ c' => c'.Names allowed := by
  simp only [Provider.getCameraIdList, ends_bind, ends_getProvider, ends_emit]
  apply (h.cameraIdList fun pair hpair => h.names pair (Std.ExtTreeSet.mem_toList.mp hpair)).mono
  · rintro names c' ⟨h', hnames⟩
    apply h'.emit
    intro event hevent name hname
    rw [List.mem_singleton.mp hevent] at hname
    exact hnames name hname
  · exact fun _ _ h' => h'

end ProviderCall.Names

/-! ## The table as a whole -/

namespace CameraProvider

/-- The last status that was reported for the id is not `NOT_PRESENT`. -/
def Reported (p : CameraProvider) (key : String) : Prop :=
  ∃ status ∈ p.mCameraStatusMap[key]?, status ≠ .notPresent

instance (p : CameraProvider) (key : String) : Decidable (p.Reported key) :=
  inferInstanceAs (Decidable (∃ status ∈ p.mCameraStatusMap[key]?, status ≠ .notPresent))

/-- The ids in the device table, and those in `mCameraIds`, are the ones reported, and none is
there twice. -/
structure FollowsReports (p : CameraProvider) : Prop where
  ids : ∀ key, key ∈ p.mCameraIds.toList ↔ p.Reported key
  names : ∀ key, key ∈ p.mCameraDeviceNames.toList.map Prod.fst ↔ p.Reported key
  idsOnce : p.mCameraIds.toList.Nodup
  namesOnce : (p.mCameraDeviceNames.toList.map Prod.fst).Nodup

/-- An id is in `mCameraIds` exactly if its name is in the device table. -/
def Paired (p : CameraProvider) : Prop :=
  ∀ key, (key, getAidlDeviceName key) ∈ p.mCameraDeviceNames ↔ key ∈ p.mCameraIds

theorem Paired.withDevice {p : CameraProvider} (h : p.Paired) (id : Int32) :
    (p.withDevice id).Paired := by
  intro key
  rw [CameraProvider.withDevice]
  dsimp only
  rw [Std.ExtTreeSet.mem_insert_iff, Std.ExtTreeSet.mem_insert_iff, h key, Prod.mk.injEq]
  refine or_congr_right ⟨And.left, ?_⟩
  rintro rfl
  exact ⟨rfl, rfl⟩

theorem Paired.withoutDevice {p : CameraProvider} (h : p.Paired) (id : Int32) :
    (p.withoutDevice id).Paired := by
  intro key
  rw [CameraProvider.withoutDevice]
  dsimp only
  rw [Std.ExtTreeSet.mem_erase_iff, Std.ExtTreeSet.mem_erase_iff, h key, ne_eq, Prod.mk.injEq]
  refine and_congr_right fun _ => not_congr ⟨And.left, ?_⟩
  rintro rfl
  exact ⟨rfl, rfl⟩

/-- The cameras that `addPresent` enters. -/
def newDevices (p : CameraProvider) (entries : List (String × CameraDeviceStatus)) : List Int32 :=
  entries.filterMap fun entry => (stoi entry.1).filter fun id =>
    id ∉ p.mLegacyCameras ∧ entry.2 ≠ .notPresent

def withDevices (p : CameraProvider) (ids : List Int32) : CameraProvider :=
  ids.foldl withDevice p

theorem withDevices_frame (p : CameraProvider) (ids : List Int32) :
    p.withDevices ids = { p with
      mCameraIds := (p.withDevices ids).mCameraIds
      mCameraDeviceNames := (p.withDevices ids).mCameraDeviceNames } := by
  induction ids generalizing p with
  | nil => rfl
  | cons id rest ih =>
      rw [withDevices, List.foldl_cons]
      exact ih (p.withDevice id)

theorem Paired.withDevices {p : CameraProvider} (h : p.Paired) (ids : List Int32) :
    (p.withDevices ids).Paired := by
  induction ids generalizing p with
  | nil => exact h
  | cons id rest ih => exact ih (h.withDevice id)

theorem mem_withDevices (p : CameraProvider) (ids : List Int32) (key : String) :
    key ∈ (p.withDevices ids).mCameraIds ↔ key ∈ p.mCameraIds ∨ ∃ id ∈ ids, key = toStr id := by
  induction ids generalizing p with
  | nil => simp [withDevices]
  | cons id rest ih =>
      have hrest := ih (p.withDevice id)
      rw [withDevices, List.foldl_cons]
      refine hrest.trans ?_
      rw [withDevice]
      dsimp only
      rw [Std.ExtTreeSet.mem_insert_iff, or_assoc, List.exists_mem_cons_iff]

end CameraProvider

/-- With a module, the loop of `setCallback` enters the cameras it finds. -/
theorem addPresent_spec {entries : List (String × CameraDeviceStatus)} {c : ProviderCall}
    (hkeys : ∀ entry ∈ entries, ∃ id, entry.1 = toStr id) (hmodule : c.provider.mModule = true) :
    Ends (addPresent entries) c
      (fun _ c' => c'.provider = c.provider.withDevices (c.provider.newDevices entries))
      fun _ _ => False := by
  induction entries generalizing c with
  | nil => rfl
  | cons entry rest ih =>
      obtain ⟨key, status⟩ := entry
      obtain ⟨id, rfl⟩ := hkeys _ List.mem_cons_self
      have hrest := fun other hother => hkeys other (List.mem_cons_of_mem _ hother)
      rw [addPresent, ends_bind, ends_parse_toStr, ends_bind, ends_getProvider]
      dsimp only
      split
      next hnew =>
        have hdevices : c.provider.newDevices ((toStr id, status) :: rest) =
            id :: c.provider.newDevices rest := by
          rw [CameraProvider.newDevices, List.filterMap_cons, stoi_toStr]
          simp [Option.filter, hnew, CameraProvider.newDevices]
        rw [ends_bind]
        apply (addDeviceNames_spec id status true c).mono
        · rintro _ c' ⟨-, rfl⟩
          rw [hdevices]
          exact ih hrest hmodule
        · rintro _ c' ⟨hgone, -⟩
          rw [hmodule] at hgone
          cases hgone
      next hold =>
        have hdevices : c.provider.newDevices ((toStr id, status) :: rest) =
            c.provider.newDevices rest := by
          rw [CameraProvider.newDevices, List.filterMap_cons, stoi_toStr]
          simp [Option.filter, hold, CameraProvider.newDevices]
        rw [hdevices]
        exact ih hrest hmodule

/-- With a working provider, the effect of `setCallback`. -/
def CameraProvider.afterSetCallback (p : CameraProvider) (callback : Bool) : CameraProvider :=
  let p := { p with mCallbacks := callback }
  if callback then p.withDevices (p.newDevices p.mCameraStatusMap.toList) else p

/-- With a callback the table takes in what has been reported before. -/
theorem setCallback_spec (callback : Bool) {c : ProviderCall}
    (hkeys : ∀ key ∈ c.provider.mCameraStatusMap, ∃ id, key = toStr id)
    (hmodule : c.provider.mModule = true) :
    Ends (setCallback callback) c
      (fun _ c' => c'.provider = c.provider.afterSetCallback callback) fun _ _ => False := by
  rw [setCallback, ends_bind, ends_update]
  cases callback with
  | false => rfl
  | true =>
      rw [if_neg (by decide), ends_bind, ends_getProvider]
      apply addPresent_spec (c := { c with provider := { c.provider with mCallbacks := true } })
      · intro entry hentry
        have hread := Std.ExtTreeMap.mem_toList_iff_getElem?_eq_some.mp
          (show (entry.1, entry.2) ∈ c.provider.mCameraStatusMap.toList from hentry)
        exact hkeys entry.1 (Std.ExtTreeMap.mem_of_getElem? hread)
      · exact hmodule

/-- A report on a torch leaves the provider as it is. -/
theorem sTorchModeStatusChange_spec (cameraId : String) (status : Int32) (c : ProviderCall) :
    Ends (sTorchModeStatusChange cameraId status) c (fun _ c' => c'.provider = c.provider)
      fun _ _ => True := by
  rw [sTorchModeStatusChange, ends_bind, parse]
  cases stoi cameraId with
  | none => trivial
  | some id =>
      rw [ends_pure, ends_bind, ends_getProvider]
      split
      next => rfl
      next =>
        split
        next => rfl
        next => rfl

/-- The table after the `switch` of `sCameraDeviceStatusChange`. -/
def CameraProvider.updated (p : CameraProvider) (id : Int32) (status : CameraDeviceStatus)
    (found : Bool) : CameraProvider :=
  match status with
  | .present | .enumerating => if found then p else p.withDevice id
  | .notPresent => if found then p.withoutDevice id else p
  | .other _ => p

/-- The table is updated for the one camera. -/
theorem updateDeviceNames_spec (id : Int32) (status : CameraDeviceStatus) (found : Bool)
    {c : ProviderCall} (hmodule : c.provider.mModule = true) :
    Ends (updateDeviceNames id status found) c
      (fun _ c' => c'.provider = c.provider.updated id status found) fun _ _ => False := by
  have hadd : ∀ status, Ends (addDeviceNames id status true) c
      (fun _ c' => c'.provider = c.provider.withDevice id) fun _ _ => False := by
    intro status
    apply (addDeviceNames_spec id status true c).mono
    · rintro _ c' ⟨-, rfl⟩
      rfl
    · rintro _ c' ⟨hgone, -⟩
      rw [hmodule] at hgone
      cases hgone
  have hremove : Ends (removeDeviceNames id) c
      (fun _ c' => c'.provider = c.provider.withoutDevice id) fun _ _ => False := by
    apply (removeDeviceNames_spec id c).mono
    · rintro _ c' ⟨-, rfl⟩
      rfl
    · rintro _ c' ⟨hgone, -⟩
      rw [hmodule] at hgone
      cases hgone
  cases status with
  | present =>
      cases found with
      | true => rfl
      | false => exact hadd .present
  | enumerating =>
      cases found with
      | true => rfl
      | false => exact hadd .enumerating
  | notPresent =>
      cases found with
      | true => exact hremove
      | false => rfl
  | other value => rfl

/-- The provider after looking up statuses that may not be there. -/
def CameraProvider.lookedUp (p : CameraProvider) (keys : List String) : CameraProvider :=
  { p with
    mCameraStatusMap :=
      keys.foldl (fun m key => m.insertIfNew key .notPresent) p.mCameraStatusMap }

/-- Listing the cameras looks up their statuses, which may add some, and changes nothing else. -/
theorem getCameraIdList_spec {c : ProviderCall} {allowed : Int32 → Prop} (h : c.Names allowed) :
    Ends getCameraIdList c (fun _ c' => ∃ keys, c'.provider = c.provider.lookedUp keys)
      fun _ _ => False := by
  have hloop : ∀ (pairs : List (String × String)) (c : ProviderCall),
      (∀ pair ∈ pairs, ∃ id, pair.1 = toStr id) → Ends (cameraIdList pairs) c
        (fun _ c' => ∃ keys, c'.provider = c.provider.lookedUp keys) fun _ _ => False := by
    intro pairs
    induction pairs with
    | nil => exact fun _ _ => ⟨[], rfl⟩
    | cons pair rest ih =>
        intro c hpairs
        obtain ⟨key, name⟩ := pair
        obtain ⟨id, rfl⟩ := hpairs _ List.mem_cons_self
        have hrest := fun other hother => hpairs other (List.mem_cons_of_mem _ hother)
        rw [cameraIdList, ends_bind, ends_parse_toStr, ends_bind, ends_getProvider]
        split
        next => exact ih c hrest
        next =>
          simp only [ends_bind, ends_update, ends_pure]
          apply (ih _ hrest).mono
          · rintro _ c' ⟨keys, hkeys⟩
            exact ⟨toStr id :: keys, hkeys⟩
          · exact fun _ _ h => h
  simp only [getCameraIdList, ends_bind, ends_getProvider, ends_emit]
  apply hloop
  intro pair hpair
  obtain ⟨id, -, rfl⟩ := h.names pair (Std.ExtTreeSet.mem_toList.mp hpair)
  exact ⟨id, rfl⟩

/-! ## What keeps the table current -/

namespace CameraProvider

variable {p : CameraProvider}

/-- The ids in `mCameraIds` are the ones reported. -/
def Current (p : CameraProvider) : Prop := ∀ key, key ∈ p.mCameraIds ↔ p.Reported key

theorem reported_withStatus (p : CameraProvider) (id : Int32) (status : CameraDeviceStatus)
    (key : String) : (p.withStatus id status).Reported key ↔
      if key = toStr id then status ≠ .notPresent else p.Reported key := by
  rw [Reported, Reported, withStatus, Std.ExtTreeMap.getElem?_insert_of_eq]
  by_cases heq : key = toStr id
  · rw [if_pos heq.symm, if_pos heq]
    simp
  · rw [if_neg (Ne.symm heq), if_neg heq]

theorem reported_lookedUp (p : CameraProvider) (keys : List String) (key : String) :
    (p.lookedUp keys).Reported key ↔ p.Reported key := by
  induction keys generalizing p with
  | nil => rfl
  | cons first rest ih =>
      refine (ih { p with
        mCameraStatusMap := p.mCameraStatusMap.insertIfNew first .notPresent }).trans ?_
      rw [Reported, Reported, Std.ExtTreeMap.getElem?_insertIfNew]
      split
      next h =>
        have hkey := Std.LawfulEqCmp.compare_eq_iff_eq.mp h.1
        rw [← hkey, Std.ExtTreeMap.getElem?_eq_none h.2]
        simp
      next => rfl

/-- A report while there is a callback keeps the table current, if its status is one of the
enumeration. -/
theorem Current.updated (h : p.Current) {id : Int32} {status : CameraDeviceStatus} {found : Bool}
    (hfound : found = true ↔ toStr id ∈ p.mCameraIds) (hstatus : ∀ value, status ≠ .other value) :
    ((p.withStatus id status).updated id status found).Current := by
  have hadd : ∀ status, status ≠ .notPresent → (if found = true then p.withStatus id status
      else (p.withStatus id status).withDevice id).Current := by
    intro status hpresent key
    have hreported := p.reported_withStatus id status key
    split
    next hold =>
      rw [hreported]
      split
      next heq => exact iff_of_true (heq ▸ hfound.mp hold) hpresent
      next => exact h key
    next =>
      refine Iff.trans ?_ hreported.symm
      rw [withDevice]
      dsimp only
      rw [Std.ExtTreeSet.mem_insert_iff]
      split
      next heq => exact iff_of_true (.inr heq) hpresent
      next hne =>
        rw [or_iff_left hne]
        exact h key
  have hremove : (if found = true then (p.withStatus id .notPresent).withoutDevice id
      else p.withStatus id .notPresent).Current := by
    intro key
    have hreported := p.reported_withStatus id .notPresent key
    split
    next =>
      refine Iff.trans ?_ hreported.symm
      rw [withoutDevice]
      dsimp only
      rw [Std.ExtTreeSet.mem_erase_iff]
      split
      next heq => simp [heq]
      next hne =>
        rw [and_iff_left hne]
        exact h key
    next hnew =>
      rw [hreported]
      split
      next heq =>
        rw [heq]
        exact iff_of_false (fun hmem => hnew (hfound.mpr hmem)) fun hne => hne rfl
      next => exact h key
  -- `present` and `enumerating` are treated alike.
  cases status with
  | present => exact hadd .present nofun
  | enumerating => exact hadd .enumerating nofun
  | notPresent => exact hremove
  | other value => exact absurd rfl (hstatus value)

/-- What `setCallback` does not bring up to date is current already: the ids in the table are
reported, and the legacy cameras that are reported are in the table. -/
structure Reconcilable (p : CameraProvider) : Prop where
  present : ∀ key ∈ p.mCameraIds.toList, p.Reported key
  legacy : ∀ id ∈ p.mLegacyCameras.toList, p.Reported (toStr id) → toStr id ∈ p.mCameraIds

instance (p : CameraProvider) : Decidable p.Reconcilable :=
  -- through the lists, and not through the finitely many ids there are
  have : Decidable (∀ id ∈ p.mLegacyCameras.toList,
      p.Reported (toStr id) → toStr id ∈ p.mCameraIds) := List.decidableBAll _ _
  decidable_of_iff ((∀ key ∈ p.mCameraIds.toList, p.Reported key) ∧
      ∀ id ∈ p.mLegacyCameras.toList, p.Reported (toStr id) → toStr id ∈ p.mCameraIds)
    ⟨fun ⟨hpresent, hlegacy⟩ => ⟨hpresent, hlegacy⟩, fun h => ⟨h.present, h.legacy⟩⟩

theorem mem_newDevices (hkeys : ∀ key ∈ p.mCameraStatusMap, ∃ id, key = toStr id) (key : String) :
    (∃ id ∈ p.newDevices p.mCameraStatusMap.toList, key = toStr id) ↔
      p.Reported key ∧ ∀ id, key = toStr id → id ∉ p.mLegacyCameras := by
  have hentry : ∀ key status, (key, status) ∈ p.mCameraStatusMap.toList ↔
      status ∈ p.mCameraStatusMap[key]? :=
    fun _ _ => Std.ExtTreeMap.mem_toList_iff_getElem?_eq_some
  constructor
  · rintro ⟨id, hid, rfl⟩
    obtain ⟨⟨key, status⟩, hmem, hread⟩ := List.mem_filterMap.mp hid
    rw [hentry] at hmem
    obtain ⟨other, rfl⟩ := hkeys key (Std.ExtTreeMap.mem_of_getElem? hmem)
    rw [stoi_toStr, Option.filter_eq_some_iff, Option.some_inj, decide_eq_true_eq] at hread
    obtain ⟨rfl, hlegacy, hstatus⟩ := hread
    refine ⟨⟨status, hmem, hstatus⟩, fun id hsame => ?_⟩
    rwa [← toStr_injective hsame]
  · rintro ⟨⟨status, hmem, hstatus⟩, hlegacy⟩
    obtain ⟨id, rfl⟩ := hkeys key (Std.ExtTreeMap.mem_of_getElem? hmem)
    refine ⟨id, List.mem_filterMap.mpr ⟨(toStr id, status), (hentry _ _).mpr hmem, ?_⟩, rfl⟩
    rw [stoi_toStr, Option.filter_eq_some_iff, decide_eq_true_eq]
    exact ⟨rfl, hlegacy id rfl, hstatus⟩

/-- Setting a callback makes the table current exactly if there was nothing else to do. -/
theorem current_withDevices_iff (hkeys : ∀ key ∈ p.mCameraStatusMap, ∃ id, key = toStr id) :
    (p.withDevices (p.newDevices p.mCameraStatusMap.toList)).Current ↔ p.Reconcilable := by
  have hreported : ∀ key, (p.withDevices (p.newDevices p.mCameraStatusMap.toList)).Reported key ↔
      p.Reported key := by
    intro key
    rw [withDevices_frame]
    rfl
  have hmem := p.mem_withDevices (p.newDevices p.mCameraStatusMap.toList)
  simp only [mem_newDevices hkeys] at hmem
  simp only [Current, hreported, hmem]
  constructor
  · intro h
    constructor
    · exact fun key hkey => (h key).mp (.inl (Std.ExtTreeSet.mem_toList.mp hkey))
    · intro id hid hpresent
      refine ((h (toStr id)).mpr hpresent).resolve_right fun hnew => ?_
      exact hnew.2 id rfl (Std.ExtTreeSet.mem_toList.mp hid)
  · intro h key
    constructor
    · rintro (hold | ⟨hpresent, -⟩)
      · exact h.present key (Std.ExtTreeSet.mem_toList.mpr hold)
      · exact hpresent
    · intro hpresent
      by_cases hlegacy : ∃ id ∈ p.mLegacyCameras, key = toStr id
      · obtain ⟨id, hid, rfl⟩ := hlegacy
        exact .inl (h.legacy id (Std.ExtTreeSet.mem_toList.mpr hid) hpresent)
      · refine .inr ⟨hpresent, fun id hsame hid => hlegacy ⟨id, hid, hsame⟩⟩

end CameraProvider

/-! ## Runs -/

/-- The provider has its module, and its two tables agree. -/
structure CameraProvider.Works (p : CameraProvider) : Prop where
  mModule : p.mModule = true
  paired : p.Paired

theorem CameraProvider.Works.afterSetCallback {p : CameraProvider} (h : p.Works)
    (callback : Bool) : (p.afterSetCallback callback).Works := by
  rw [CameraProvider.afterSetCallback]
  dsimp only
  split
  next =>
    constructor
    · rw [withDevices_frame]
      exact h.mModule
    · exact Paired.withDevices (p := { p with mCallbacks := callback }) h.paired _
  next => exact ⟨h.mModule, h.paired⟩

/-- What is true of a provider by how far its constructor has come. -/
def Phase.Fits (p : CameraProvider) : Phase → Prop
  | .settingCallbacks | .blacklisting _ | .enumerating .. => p.Works ∧ p.mCallbacks = false
  | .ready => p.Works
  | .unloaded | .failed | .aborted => True

/-- With a working provider, the effect of a HAL report on it. -/
def CameraProvider.afterReport (p : CameraProvider) (id : Int32) (status : CameraDeviceStatus) :
    CameraProvider :=
  if p.isCameraIdBlacklisted id then p
  else
    if p.mCallbacks = false then p.withStatus id status
    else (p.withStatus id status).updated id status (p.deviceNames (toStr id) ≠ [])

/-- What a report of the HAL makes of the provider. -/
theorem sCameraDeviceStatusChange_spec (id : Int32) (status : CameraDeviceStatus)
    {c : ProviderCall} (hmodule : c.provider.mModule = true) :
    Ends (sCameraDeviceStatusChange id status) c
      (fun _ c' => c'.provider = c.provider.afterReport id status) fun _ _ => False := by
  rw [ends_sCameraDeviceStatusChange, CameraProvider.afterReport]
  split
  next => rfl
  next =>
    split
    next => rfl
    next => exact updateDeviceNames_spec id status _ hmodule

theorem CameraProvider.updated_frame (p : CameraProvider) (id : Int32)
    (status : CameraDeviceStatus) (found : Bool) :
    p.updated id status found = { p with
      mCameraIds := (p.updated id status found).mCameraIds
      mCameraDeviceNames := (p.updated id status found).mCameraDeviceNames } := by
  cases status <;> cases found <;> rfl

theorem CameraProvider.Paired.updated {p : CameraProvider} (h : p.Paired) (id : Int32)
    (status : CameraDeviceStatus) (found : Bool) : (p.updated id status found).Paired := by
  cases status with
  | present | enumerating =>
      cases found with
      | true => exact h
      | false => exact h.withDevice id
  | notPresent =>
      cases found with
      | true => exact h.withoutDevice id
      | false => exact h
  | other value => exact h

theorem CameraProvider.afterReport_frame (p : CameraProvider) (id : Int32)
    (status : CameraDeviceStatus) :
    p.afterReport id status = { p with
      mCameraStatusMap := (p.afterReport id status).mCameraStatusMap
      mCameraIds := (p.afterReport id status).mCameraIds
      mCameraDeviceNames := (p.afterReport id status).mCameraDeviceNames } := by
  rw [afterReport]
  split
  next => rfl
  next =>
    split
    next => rfl
    next =>
      rw [updated_frame]
      rfl

theorem CameraProvider.Works.afterReport {p : CameraProvider} (h : p.Works) (id : Int32)
    (status : CameraDeviceStatus) : (p.afterReport id status).Works := by
  constructor
  · rw [afterReport_frame]
    exact h.mModule
  · rw [CameraProvider.afterReport]
    split
    next => exact h.paired
    next =>
      split
      next => exact h.paired
      next => exact Paired.updated (p := p.withStatus id status) h.paired id status _

namespace ProviderState

theorem perform_of_ends {s : ProviderState} {call : ProviderM PUnit}
    {post : PUnit → ProviderCall → Prop} (h : Ends call s.call post fun _ _ => False) :
    ∃ c, s.perform call = { call := c, phase := s.phase } ∧ post ⟨⟩ c := by
  rw [Ends] at h
  rw [perform, final, stops]
  cases hcall : call s.call with
  | ok a c =>
      rw [hcall] at h
      exact ⟨c, rfl, h⟩
  | error e c =>
      rw [hcall] at h
      cases h

/-- The tables hold allowed ids, and the provider is as far as its constructor. -/
structure Inv (allowed : Int32 → Prop) (s : ProviderState) : Prop where
  names : s.call.Names allowed
  fits : s.phase.Fits s.call.provider

section

variable {allowed : Int32 → Prop} {world : ProviderWorld} {s : ProviderState}

/-- A call that keeps a working provider working, and its callback as long as the constructor
runs, keeps the invariant. -/
theorem Inv.perform (h : s.Inv allowed) {call : ProviderM PUnit}
    (hnames : Ends call s.call (fun _ c => c.Names allowed) fun _ c => c.Names allowed)
    (hworks : s.call.provider.Works → Ends call s.call
      (fun _ c => c.provider.Works ∧ (s.phase.constructed = true ∨
        c.provider.mCallbacks = s.call.provider.mCallbacks)) fun _ _ => True) :
    (s.perform call).Inv allowed := by
  refine ⟨hnames.holds, ?_⟩
  have hfits := h.fits
  rw [ProviderState.perform, final, stops]
  cases hcall : call s.call with
  | error e c => trivial
  | ok a c =>
      simp only [Ends, hcall] at hworks
      obtain ⟨c₀, phase⟩ := s
      dsimp only at hfits hworks
      cases phase with
      | unloaded | failed | aborted => trivial
      | settingCallbacks | blacklisting _ | enumerating _ _ =>
          obtain ⟨hw, hsame⟩ := hworks hfits.1
          exact ⟨hw, (hsame.resolve_left Bool.false_ne_true).trans hfits.2⟩
      | ready => exact (hworks hfits).1

/-- A provider that gives up keeps the invariant. -/
theorem Inv.giveUp (h : s.Inv allowed) : s.giveUp.Inv allowed where
  names := { h.names with }
  fits := trivial

/-- The loop over the camera ids goes on, with the camera entered or skipped. -/
theorem Inv.enumerate (h : s.Inv allowed) {n : Nat} {id : Int32} {rest : List Int32}
    (hphase : s.phase = .enumerating n (id :: rest))
    (hid : s.call.provider.isCameraIdBlacklisted id = false → allowed id) :
    (s.enumerate world n id rest).Inv allowed := by
  have hfits := h.fits
  rw [hphase] at hfits
  have hskip : ({ s with phase := .enumerating (n + 1) rest } : ProviderState).Inv allowed :=
    ⟨h.names, hfits⟩
  rw [ProviderState.enumerate]
  dsimp only
  split
  next => exact hskip
  next hlisted =>
    split
    next =>
      split
      next => exact hskip
      next => exact h.giveUp
    next =>
      have hlegacy : (s.update (fun p => { p with
          mLegacyCameras := p.mLegacyCameras.insert id }) s.phase).Inv allowed := by
        refine ⟨{ h.names with }, ?_⟩
        rw [hphase]
        exact ⟨⟨hfits.1.mModule, hfits.1.paired⟩, hfits.2⟩
      split
      next => exact hlegacy.giveUp
      next =>
        have hnames := hlegacy.names.withStatus id .present
        apply Inv.perform
        · refine ⟨hnames, ⟨⟨hfits.1.mModule, hfits.1.paired⟩, hfits.2⟩⟩
        · exact hnames.addDeviceNames (hid (eq_false_of_ne_true hlisted)) .present false
        · intro hworks
          apply (addDeviceNames_spec id .present false _).mono
          · rintro _ c ⟨-, rfl⟩
            exact ⟨⟨hworks.mModule, hworks.paired.withDevice id⟩, .inr rfl⟩
          · exact fun _ _ _ => trivial

/-- A step of the constructor keeps the invariant. -/
theorem Inv.construct (h : s.Inv allowed)
    (hid : ∀ n id rest, s.phase = .enumerating n (id :: rest) →
      s.call.provider.isCameraIdBlacklisted id = false → allowed id) :
    (s.construct world).Inv allowed := by
  have hfits := h.fits
  obtain ⟨c, phase⟩ := s
  cases phase with
  | unloaded | ready | failed | aborted => exact h
  | settingCallbacks =>
      rw [ProviderState.construct]
      dsimp only
      split
      next => exact h.giveUp
      next => exact ⟨h.names, hfits⟩
  | blacklisting ids =>
      cases ids with
      | nil =>
          rw [ProviderState.construct]
          dsimp only
          split
          next => exact ⟨h.names, trivial⟩
          next => exact ⟨h.names, hfits⟩
      | cons id rest =>
          rw [ProviderState.construct]
          dsimp only
          split
          next => exact ⟨h.names, trivial⟩
          next =>
            refine ⟨{ h.names with }, ?_⟩
            exact ⟨⟨hfits.1.mModule, hfits.1.paired⟩, hfits.2⟩
  | enumerating n ids =>
      cases ids with
      | nil => exact ⟨h.names, hfits.1⟩
      | cons id rest => exact h.enumerate rfl (hid n id rest rfl)

/-- The operation brings no id into the tables that is not allowed. -/
def Permits (allowed : Int32 → Prop) (s : ProviderState) : ProviderOp → Prop
  | .construct => ∀ n id rest, s.phase = .enumerating n (id :: rest) →
      s.call.provider.isCameraIdBlacklisted id = false → allowed id
  | .cameraDeviceStatusChange id status => s.phase.registered = true →
      s.call.provider.isCameraIdBlacklisted id = false → s.call.provider.mCallbacks = true →
        status = .present ∨ status = .enumerating → allowed id
  | .setCallback callback => callback = true → s.phase.constructed = true → ∀ id status,
      s.call.provider.mCameraStatusMap[toStr id]? = some status → status ≠ .notPresent →
        id ∉ s.call.provider.mLegacyCameras → allowed id
  | .torchModeStatusChange .. | .getCameraIdList => True

/-- Every call that is permitted keeps the invariant. -/
theorem Inv.next (h : s.Inv allowed) {op : ProviderOp} (hop : s.Permits allowed op) :
    (s.next world op).Inv allowed := by
  cases op with
  | construct => exact h.construct hop
  | cameraDeviceStatusChange id status =>
      rw [ProviderState.next]
      split
      next hregistered =>
        apply h.perform (h.names.sCameraDeviceStatusChange (hop hregistered))
        intro hworks
        apply (sCameraDeviceStatusChange_spec id status hworks.mModule).mono
        · intro _ c hc
          rw [hc]
          refine ⟨hworks.afterReport id status, .inr ?_⟩
          rw [CameraProvider.afterReport_frame]
        · exact fun _ _ h => h.elim
      next => exact h
  | torchModeStatusChange id status =>
      rw [ProviderState.next]
      split
      next =>
        apply h.perform (h.names.sTorchModeStatusChange id status)
        intro hworks
        apply (sTorchModeStatusChange_spec id status s.call).mono
        · intro _ c hc
          rw [hc]
          exact ⟨hworks, .inr rfl⟩
        · exact fun _ _ _ => trivial
      next => exact h
  | setCallback callback =>
      rw [ProviderState.next]
      split
      next hconstructed =>
        apply h.perform (h.names.setCallback fun hcallback => hop hcallback hconstructed)
        intro hworks
        apply (setCallback_spec callback h.names.statuses hworks.mModule).mono
        · intro _ c hc
          rw [hc]
          exact ⟨hworks.afterSetCallback callback, .inl hconstructed⟩
        · exact fun _ _ h => h.elim
      next => exact h
  | getCameraIdList =>
      rw [ProviderState.next]
      split
      next =>
        apply h.perform h.names.getCameraIdList
        intro hworks
        apply (getCameraIdList_spec h.names).mono
        · rintro _ c ⟨keys, hc⟩
          rw [hc]
          exact ⟨⟨hworks.mModule, hworks.paired⟩, .inr rfl⟩
        · exact fun _ _ h => h.elim
      next => exact h

end

theorem inv_constructing (allowed : Int32 → Prop) (world : ProviderWorld) :
    (constructing world).Inv allowed := by
  have hnames : ∀ p : CameraProvider, p.mCameraStatusMap = ∅ → p.mCameraIds = ∅ →
      p.mCameraDeviceNames = ∅ → ({ provider := p } : ProviderCall).Names allowed := by
    intro p hstatuses hids hnames
    refine ⟨fun key hkey => ?_, fun key hkey => ?_, fun pair hpair => ?_, nofun⟩
    · rw [hstatuses] at hkey
      exact absurd hkey Std.ExtTreeMap.not_mem_empty
    · rw [hids] at hkey
      exact absurd hkey Std.ExtTreeSet.not_mem_empty
    · rw [hnames] at hpair
      exact absurd hpair Std.ExtTreeSet.not_mem_empty
  rw [constructing]
  split
  next => exact ⟨hnames _ rfl rfl rfl, trivial⟩
  next =>
    refine ⟨hnames _ rfl rfl rfl, ⟨rfl, fun key => ?_⟩, rfl⟩
    exact iff_of_false Std.ExtTreeSet.not_mem_empty Std.ExtTreeSet.not_mem_empty

end ProviderState

/-- Where the two tables agree, both follow the reports if one does. -/
theorem CameraProvider.followsReports_iff {allowed : Int32 → Prop} {c : ProviderCall}
    (hnames : c.Names allowed) (hpaired : c.provider.Paired) :
    c.provider.FollowsReports ↔ c.provider.Current := by
  constructor
  · intro h key
    rw [← h.ids, Std.ExtTreeSet.mem_toList]
  · intro h
    refine ⟨fun key => ?_, fun key => ?_, Std.ExtTreeSet.nodup_toList _, ?_⟩
    · rw [Std.ExtTreeSet.mem_toList]
      exact h key
    · rw [← h key, ← hpaired key, List.mem_map]
      constructor
      · rintro ⟨pair, hpair, rfl⟩
        rw [Std.ExtTreeSet.mem_toList] at hpair
        obtain ⟨id, -, rfl⟩ := hnames.names pair hpair
        exact hpair
      · exact fun hmem => ⟨_, Std.ExtTreeSet.mem_toList.mpr hmem, rfl⟩
    · apply List.Nodup.map_on _ (Std.ExtTreeSet.nodup_toList _)
      intro a ha b hb hsame
      obtain ⟨i, -, rfl⟩ := hnames.names a (Std.ExtTreeSet.mem_toList.mp ha)
      obtain ⟨j, -, rfl⟩ := hnames.names b (Std.ExtTreeSet.mem_toList.mp hb)
      rw [toStr_injective hsame]

theorem CameraProvider.deviceNames_ne_nil {allowed : Int32 → Prop} {c : ProviderCall}
    (hnames : c.Names allowed) (hpaired : c.provider.Paired) (key : String) :
    c.provider.deviceNames key ≠ [] ↔ key ∈ c.provider.mCameraIds := by
  rw [← hpaired key]
  constructor
  · intro hfound
    obtain ⟨name, hname⟩ := List.exists_mem_of_ne_nil _ hfound
    obtain ⟨pair, hpair, -⟩ := List.mem_map.mp hname
    obtain ⟨hmem, hkey⟩ := List.mem_filter.mp hpair
    obtain ⟨id, -, rfl⟩ := hnames.names pair (Std.ExtTreeSet.mem_toList.mp hmem)
    obtain rfl := of_decide_eq_true hkey
    exact Std.ExtTreeSet.mem_toList.mp hmem
  · intro hmem
    apply List.ne_nil_of_mem (a := getAidlDeviceName key)
    apply List.mem_map.mpr
    exact ⟨_, List.mem_filter.mpr ⟨Std.ExtTreeSet.mem_toList.mpr hmem, decide_eq_true rfl⟩, rfl⟩

/-- The HAL reports a status of the enumeration. -/
def ProviderOp.InEnumeration : ProviderOp → Prop
  | .cameraDeviceStatusChange _ status => ∀ value, status ≠ .other value
  | _ => True

namespace ProviderState

/-- With a callback, the table of a ready provider follows the reports. -/
def TableFollows (s : ProviderState) : Prop :=
  s.phase = .ready → s.call.provider.mCallbacks = true → s.call.provider.FollowsReports

/-- A callback is set only where the table needs no more than new external cameras. -/
def Reconciles (s : ProviderState) : ProviderOp → Prop
  | .setCallback callback => callback = true → s.phase = .ready → s.call.provider.Reconcilable
  | _ => True

instance (s : ProviderState) (op : ProviderOp) : Decidable (s.Reconciles op) :=
  match op with
  | .setCallback _ => inferInstanceAs (Decidable (_ → _ → _))
  | .construct | .cameraDeviceStatusChange .. | .torchModeStatusChange .. | .getCameraIdList =>
      isTrue trivial

section

variable {allowed : Int32 → Prop} {world : ProviderWorld} {s : ProviderState}

theorem tableFollows_of_notReady (h : s.phase ≠ .ready) : s.TableFollows :=
  fun hready => absurd hready h

theorem perform_notReady (h : s.phase ≠ .ready) (call : ProviderM PUnit) :
    (s.perform call).phase ≠ .ready := by
  rw [perform]
  dsimp only
  split
  next => nofun
  next => exact h

/-- The constructor makes a provider ready that has no callback. -/
theorem construct_tableFollows (h : s.Inv allowed) (hgood : s.TableFollows) :
    (s.construct world).TableFollows := by
  have hfits := h.fits
  obtain ⟨c, phase⟩ := s
  cases phase with
  | unloaded | failed | aborted => exact hgood
  | ready => exact hgood
  | settingCallbacks =>
      apply tableFollows_of_notReady
      rw [construct]
      dsimp only
      split <;> nofun
  | blacklisting ids =>
      apply tableFollows_of_notReady
      cases ids with
      | nil =>
          rw [construct]
          dsimp only
          split <;> nofun
      | cons id rest =>
          rw [construct]
          dsimp only
          split <;> nofun
  | enumerating n ids =>
      cases ids with
      | nil =>
          intro _ hcallbacks
          exact absurd (hfits.2.symm.trans hcallbacks) Bool.false_ne_true
      | cons id rest =>
          apply tableFollows_of_notReady
          rw [construct]
          simp only [enumerate]
          split
          next => nofun
          next =>
            split
            next => split <;> nofun
            next =>
              split
              next => nofun
              next =>
                apply perform_notReady
                intro hready
                cases hready

/-- The table after a call of a ready provider that does not fail. -/
theorem perform_tableFollows_iff (hready : s.phase = .ready) {call : ProviderM PUnit}
    (hnames : Ends call s.call (fun _ c => c.Names allowed) fun _ c => c.Names allowed)
    {c : ProviderCall} (hc : s.perform call = { call := c, phase := s.phase })
    (hpaired : c.provider.Paired) :
    (s.perform call).TableFollows ↔ (c.provider.mCallbacks = true → c.provider.Current) := by
  have hnamed := hnames.holds
  have hfinal : final call s.call = c := congrArg ProviderState.call hc
  rw [hfinal] at hnamed
  rw [hc, TableFollows]
  dsimp only
  rw [CameraProvider.followsReports_iff hnamed hpaired]
  exact ⟨fun h => h hready, fun h _ => h⟩

theorem torchModeStatusChange_tableFollows (hgood : s.TableFollows) (id : String)
    (status : Int32) : (s.perform (sTorchModeStatusChange id status)).TableFollows := by
  have hspec := sTorchModeStatusChange_spec id status s.call
  rw [Ends] at hspec
  rw [perform, final, stops, TableFollows]
  cases hcall : sTorchModeStatusChange id status s.call with
  | ok a c =>
      rw [hcall] at hspec
      dsimp only at hspec ⊢
      rw [hspec]
      exact hgood
  | error e c => exact fun habort => by cases habort

section

variable (h : s.Inv fun _ => True) (hready : s.phase = .ready)

include h hready

theorem works_of_ready : s.call.provider.Works := by
  have hfits := h.fits
  rwa [hready] at hfits

theorem current_of_tableFollows (hgood : s.TableFollows)
    (hcallbacks : s.call.provider.mCallbacks = true) : s.call.provider.Current :=
  (CameraProvider.followsReports_iff h.names (works_of_ready h hready).paired).mp
    (hgood hready hcallbacks)

/-- A report of a status of the enumeration changes the table with what it reports. -/
theorem cameraDeviceStatusChange_tableFollows (hgood : s.TableFollows) (id : Int32)
    {status : CameraDeviceStatus} (hstatus : ∀ value, status ≠ .other value) :
    (s.perform (sCameraDeviceStatusChange id status)).TableFollows := by
  have hworks := works_of_ready h hready
  obtain ⟨c, hc, hp⟩ := perform_of_ends (sCameraDeviceStatusChange_spec id status hworks.mModule)
  have hiff := perform_tableFollows_iff hready
    (h.names.sCameraDeviceStatusChange fun _ _ _ => trivial) hc
  rw [hp] at hiff
  have hkept : (s.call.provider.afterReport id status).mCallbacks =
      s.call.provider.mCallbacks := by
    rw [CameraProvider.afterReport_frame]
  rw [hiff (hworks.afterReport id status).paired, hkept]
  intro hcallbacks
  have hcurrent := current_of_tableFollows h hready hgood hcallbacks
  rw [CameraProvider.afterReport]
  split
  next => exact hcurrent
  next =>
    split
    next hnone => exact absurd (hnone.symm.trans hcallbacks) Bool.false_ne_true
    next =>
      apply hcurrent.updated _ hstatus
      rw [decide_eq_true_eq]
      exact CameraProvider.deviceNames_ne_nil h.names hworks.paired (toStr id)

/-- After `setCallback` the table follows the reports exactly if it could be brought in line. -/
theorem setCallback_tableFollows_iff (callback : Bool) :
    (s.perform (setCallback callback)).TableFollows ↔ s.Reconciles (.setCallback callback) := by
  have hworks := works_of_ready h hready
  obtain ⟨c, hc, hp⟩ := perform_of_ends (setCallback_spec callback h.names.statuses hworks.mModule)
  have hiff := perform_tableFollows_iff hready
    (h.names.setCallback fun _ _ _ _ _ _ => trivial) hc
  rw [hp] at hiff
  rw [hiff (hworks.afterSetCallback callback).paired, CameraProvider.afterSetCallback]
  cases callback with
  | false => exact iff_of_true nofun nofun
  | true =>
      have hset := CameraProvider.current_withDevices_iff
        (p := { s.call.provider with mCallbacks := true }) h.names.statuses
      constructor
      · intro hcurrent _ _
        have hdone := hset.mp (hcurrent (by rw [CameraProvider.withDevices_frame]; rfl))
        exact ⟨hdone.present, hdone.legacy⟩
      · intro hreconciles _
        have hdone := hreconciles rfl hready
        exact hset.mpr ⟨hdone.present, hdone.legacy⟩

/-- A query only looks statuses up. -/
theorem getCameraIdList_tableFollows (hgood : s.TableFollows) :
    (s.perform getCameraIdList).TableFollows := by
  obtain ⟨c, hc, keys, hp⟩ := perform_of_ends (getCameraIdList_spec h.names)
  have hiff := perform_tableFollows_iff hready h.names.getCameraIdList hc
  rw [hp] at hiff
  rw [hiff (works_of_ready h hready).paired]
  intro hcallbacks key
  rw [CameraProvider.reported_lookedUp]
  exact current_of_tableFollows h hready hgood hcallbacks key

end

/-- An operation keeps the table in step with the reports exactly if it reconciles them. -/
theorem next_tableFollows_iff (h : s.Inv fun _ => True) {op : ProviderOp}
    (hop : op.InEnumeration) (hgood : s.TableFollows) :
    (s.next world op).TableFollows ↔ s.Reconciles op := by
  by_cases hready : s.phase = .ready
  · have hregistered : s.phase.registered = true := hready ▸ rfl
    have hconstructed : s.phase.constructed = true := hready ▸ rfl
    cases op with
    | construct => exact iff_of_true (construct_tableFollows h hgood) trivial
    | cameraDeviceStatusChange id status =>
        rw [next, if_pos hregistered]
        exact iff_of_true (cameraDeviceStatusChange_tableFollows h hready hgood id hop) trivial
    | torchModeStatusChange id status =>
        rw [next, if_pos hregistered]
        exact iff_of_true (torchModeStatusChange_tableFollows hgood id status) trivial
    | setCallback callback =>
        rw [next, if_pos hconstructed]
        exact setCallback_tableFollows_iff h hready callback
    | getCameraIdList =>
        rw [next, if_pos hconstructed]
        exact iff_of_true (getCameraIdList_tableFollows h hready hgood) trivial
  · have hstill : ∀ {present : Bool} {call : ProviderM PUnit},
        (if present = true then s.perform call else s).phase ≠ .ready := by
      intro present call
      split
      next => exact perform_notReady hready call
      next => exact hready
    cases op with
    | construct => exact iff_of_true (construct_tableFollows h hgood) trivial
    | setCallback callback =>
        exact iff_of_true (tableFollows_of_notReady hstill) fun _ => (absurd · hready)
    | cameraDeviceStatusChange _ _ | torchModeStatusChange _ _ | getCameraIdList =>
        exact iff_of_true (tableFollows_of_notReady hstill) trivial

end

/-- The table follows the reports throughout a run exactly if every callback that is set on a
ready provider finds the table without departed cameras and with all legacy cameras that are
there. -/
theorem tableFollows_iff (world : ProviderWorld) {ops : List ProviderOp}
    (h : ∀ op ∈ ops, op.InEnumeration) :
    Throughout (next world) TableFollows (constructing world) ops ↔
      Admits (next world) Reconciles (constructing world) ops := by
  have hguard : Admits (next world) (fun _ => ProviderOp.InEnumeration) (constructing world) ops :=
    Admits.of_forall h
  apply hguard.throughout_iff fun s => s.Inv fun _ => True
  · intro s op hinv _ _
    apply hinv.next
    cases op <;> simp [Permits]
  · exact fun s op hinv hop hgood => next_tableFollows_iff hinv hop hgood
  · exact inv_constructing _ world
  · rw [constructing]
    split
    next => nofun
    next => nofun

/-- The provider of a module without cameras starts, gets a callback and an external camera. -/
def plugIn : List ProviderOp :=
  [.construct, .construct, .construct, .setCallback true, .cameraDeviceStatusChange 5 .present]

theorem tableFollows_plugIn : Throughout (next {}) TableFollows (constructing {}) plugIn :=
  (tableFollows_iff {} (by simp [plugIn, ProviderOp.InEnumeration])).mpr (by decide +kernel)

/-- The camera is unplugged while there is no callback. -/
def unplugUnseen : List ProviderOp :=
  plugIn ++ [.setCallback false, .cameraDeviceStatusChange 5 .notPresent, .setCallback true]

theorem unplugUnseen_stale :
    ¬Throughout (next {}) TableFollows (constructing {}) unplugUnseen := by
  intro h
  have hfollows := h.run (by decide +kernel) (by decide +kernel)
  have hstale : "5" ∈
      (run (next {}) (constructing {}) unplugUnseen).call.provider.mCameraIds.toList := by
    decide +kernel
  have hgone : ¬(run (next {}) (constructing {}) unplugUnseen).call.provider.Reported "5" := by
    decide +kernel
  exact hgone ((hfollows.ids "5").mp hstale)

end ProviderState

end LgeHardware.Provider
