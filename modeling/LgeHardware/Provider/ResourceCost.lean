import LgeHardware.Camera.DeviceQueries
import LgeHardware.Provider.NameLookup

/-! # Conflicting devices

The camera module says by id which cameras a camera cannot be open together with. A device tells
the framework the names of those, from the table that the provider keeps. So the framework gets
names it can ask the provider for, and none of a camera that is gone.
-/

namespace LgeHardware.Provider

open LgeHardware.Foundation LgeHardware.Camera

/-- A camera that is there has one name. -/
theorem deviceNames_eq {allowed : Int32 → Prop} {c : ProviderCall} (hnames : c.Names allowed)
    (hpaired : c.provider.Paired) (key : String) :
    c.provider.deviceNames key =
      if key ∈ c.provider.mCameraIds then [getAidlDeviceName key] else [] := by
  have hmem := hnames.mem_names_iff hpaired key
  split
  next hkey =>
    have hnodup : (c.provider.mCameraDeviceNames.toList.filter (·.1 = key)).Nodup :=
      (Std.ExtTreeSet.nodup_toList _).filter _
    have hone : c.provider.mCameraDeviceNames.toList.filter (·.1 = key) =
        [(key, getAidlDeviceName key)] := by
      apply List.perm_singleton.mp
      apply (List.perm_ext_iff_of_nodup hnodup (List.nodup_singleton _)).mpr
      rintro ⟨other, name⟩
      rw [List.mem_filter, Std.ExtTreeSet.mem_toList, decide_eq_true_eq, List.mem_singleton,
        Prod.mk.injEq]
      constructor
      · rintro ⟨hpair, rfl⟩
        exact ⟨rfl, ((hmem name).mp hpair).2⟩
      · rintro ⟨rfl, rfl⟩
        exact ⟨(hmem _).mpr ⟨hkey, rfl⟩, rfl⟩
    rw [CameraProvider.deviceNames, hone]
    rfl
  next hkey =>
    by_contra hfound
    exact hkey ((CameraProvider.deviceNames_ne_nil hnames hpaired key).mp hfound)

/-- The conflicting devices are the cameras among the conflicts that are there, in their order. -/
theorem flatMap_deviceNames {allowed : Int32 → Prop} {c : ProviderCall} (hnames : c.Names allowed)
    (hpaired : c.provider.Paired) (conflicts : List String) :
    conflicts.flatMap c.provider.deviceNames =
      (conflicts.filter (· ∈ c.provider.mCameraIds)).map getAidlDeviceName := by
  induction conflicts with
  | nil => rfl
  | cons key rest ih =>
      rw [List.flatMap_cons, ih, deviceNames_eq hnames hpaired key]
      by_cases hkey : key ∈ c.provider.mCameraIds
      · rw [if_pos hkey, List.filter_cons_of_pos (by simpa using hkey), List.map_cons,
          List.singleton_append]
      · rw [if_neg hkey, List.filter_cons_of_neg (by simpa using hkey), List.nil_append]

namespace ProviderState

/-- The provider answers for the name with the camera, if that can be opened. -/
structure Opens (s : ProviderState) (getDeviceVersion : Int32 → Int) (id : Int32)
    (name : String) : Prop where
  usable (h : Usable getDeviceVersion id) :
    s.lookUp getDeviceVersion name = some (.ok, some { mCameraId := toStr id })
  unusable (h : ¬Usable getDeviceVersion id) :
    s.lookUp getDeviceVersion name = some (.internalError, none)

/-- The name of a camera that is there is answered with that camera. -/
theorem LooksUp.opens {s : ProviderState} {getDeviceVersion : Int32 → Int} {id : Int32}
    {name : String} (h : s.LooksUp getDeviceVersion name)
    (hshows : s.call.provider.Shows id name) : s.Opens getDeviceVersion id name := by
  have hsame : ∀ other, s.call.provider.Shows other name → other = id := by
    intro other hother
    exact toStr_injective (getAidlDeviceName_injective (hother.2.symm.trans hshows.2))
  cases h with
  | opened other hother husable hanswer =>
      obtain rfl := hsame other hother
      exact ⟨fun _ => hanswer, fun hnot => absurd husable hnot⟩
  | unusable other hother husable hanswer =>
      obtain rfl := hsame other hother
      exact ⟨fun hcan => absurd hcan husable, fun _ => hanswer⟩
  | unsupported other hmistakes hanswer =>
      obtain ⟨-, hname, version, hmatch⟩ := hmistakes
      rw [hshows.2, matchDeviceName_getAidlDeviceName] at hmatch
      obtain ⟨-, hid⟩ := Prod.mk.inj (Option.some_inj.mp hmatch)
      exact absurd (hid ▸ hshows.2) hname
  | unknown hnone => exact absurd hshows (hnone id)

/-- However the HAL and the framework call on the provider, a device tells the framework of the
conflicts that are cameras of the provider at that time, and the provider answers for each of the
names with the camera that it is a conflict with. -/
theorem conflicts_are_cameras (world : ProviderWorld) (ops : List ProviderOp)
    (hready : (run (next world) (constructing world) ops).phase = .ready)
    (d : CameraDevice) (module : CameraModule) (ret : Int) (info : CameraInfo)
    {cost : Int} {names : List String} :
    let s := run (next world) (constructing world) ops
    (d.getResourceCost module s.call.provider.mCameraDeviceNames.toList ret info).value =
        some (cost, names) →
      (names = if module.getModuleApiVersion < cameraModuleApiVersion24 then []
        else (info.conflictingDevices.filter (· ∈ s.call.provider.mCameraIds)).map
          getAidlDeviceName) ∧
      ∀ name ∈ names, ∃ id, toStr id ∈ info.conflictingDevices ∧
        ∀ getDeviceVersion, s.Opens getDeviceVersion id name := by
  intro s hvalue
  have hinv : s.Inv fun _ => True :=
    (Admits.always (constructing world) ops).invariant _
      (fun s op h _ => h.next (s.permits_of_forall (fun _ => trivial) op))
      (inv_constructing _ world)
  have hworks : s.call.provider.Works := by
    have hfits := hinv.fits
    rwa [hready] at hfits
  have hnames : names = if module.getModuleApiVersion < cameraModuleApiVersion24 then []
      else (info.conflictingDevices.filter (· ∈ s.call.provider.mCameraIds)).map
        getAidlDeviceName := by
    rw [CameraDevice.getResourceCost] at hvalue
    split at hvalue
    next => cases hvalue
    next =>
      split at hvalue
      next hold =>
        cases hvalue
        rw [if_pos hold]
      next hnew =>
        rw [if_neg hnew, ← flatMap_deviceNames hinv.names hworks.paired]
        dsimp only at hvalue
        split at hvalue
        next => cases hvalue
        next =>
          cases hvalue
          rfl
  refine ⟨hnames, ?_⟩
  intro name hname
  rw [hnames] at hname
  split at hname
  next => cases hname
  next =>
    obtain ⟨key, hkey, rfl⟩ := List.mem_map.mp hname
    obtain ⟨hconflict, hknown⟩ := List.mem_filter.mp hkey
    have hthere := of_decide_eq_true hknown
    obtain ⟨id, -, rfl⟩ := hinv.names.ids key hthere
    refine ⟨id, hconflict, ?_⟩
    intro getDeviceVersion
    exact (looksUp_of_inv hinv hready getDeviceVersion _).opens ⟨hthere, rfl⟩

/-- A conflict with a camera that was plugged in, and with one that was not. -/
theorem conflicts_are_cameras_plugIn : ∃ id, toStr id ∈ ["7", "5"] ∧
    (run (next {}) (constructing {}) plugIn).Opens (fun _ => 0) id "device@1.1/internal/5" := by
  obtain ⟨id, hconflict, hopens⟩ := (@conflicts_are_cameras {} plugIn (by decide)
    { mCameraId := "0" } {} statusOk { conflictingDevices := ["7", "5"] } 0
    ["device@1.1/internal/5"] (by decide +kernel)).2 _ List.mem_cons_self
  exact ⟨id, hconflict, hopens fun _ => 0⟩

end ProviderState

end LgeHardware.Provider
