import LgeHardware.Provider.DeviceTable

/-! # Blacklisted cameras are hidden

The ids of the blacklist property are read in the middle of the constructor, when the
HAL can call back already. A camera reported before its id was read keeps its status,
and the first callback that is set brings it up.
-/

namespace LgeHardware.Provider

open LgeHardware.Foundation ProviderM

/-- The ids that the blacklist property lists. -/
def ProviderWorld.listedIds (world : ProviderWorld) : List Int32 :=
  world.blacklistedIds.filterMap stoi

namespace ProviderState

/-- The id is in a table of the provider, or the framework was told its name. -/
def Exposes (s : ProviderState) (id : Int32) : Prop :=
  toStr id ∈ s.call.provider.mCameraIds ∨
    (∃ pair ∈ s.call.provider.mCameraDeviceNames,
      pair.1 = toStr id ∨ pair.2 = getAidlDeviceName (toStr id)) ∨
    ∃ event ∈ s.call.events, getAidlDeviceName (toStr id) ∈ event.names

/-- No listed id is exposed. -/
def HidesListed (world : ProviderWorld) (s : ProviderState) : Prop :=
  ∀ id ∈ world.listedIds, ¬s.Exposes id

/-- When a callback is set, no listed id is known to be there; and where the constructor never
came to read the list, no listed id is reported while there is a callback. -/
def Filters (world : ProviderWorld) (s : ProviderState) : ProviderOp → Prop
  | .setCallback callback => callback = true → s.phase.constructed = true →
      ∀ id ∈ world.listedIds, ¬s.call.provider.Reported (toStr id)
  | .cameraDeviceStatusChange id status => s.phase.registered = true →
      s.call.provider.mCallbacks = true → status = .present ∨ status = .enumerating →
        id ∈ world.listedIds → s.call.provider.isCameraIdBlacklisted id = true
  | .construct | .torchModeStatusChange .. | .getCameraIdList => True

instance (world : ProviderWorld) (s : ProviderState) (op : ProviderOp) :
    Decidable (s.Filters world op) :=
  match op with
  | .setCallback _ =>
      have : Decidable (∀ id ∈ world.listedIds, ¬s.call.provider.Reported (toStr id)) :=
        List.decidableBAll _ _
      inferInstanceAs (Decidable (_ → _ → _))
  | .cameraDeviceStatusChange .. => inferInstanceAs (Decidable (_ → _ → _ → _ → _))
  | .construct | .torchModeStatusChange .. | .getCameraIdList => isTrue trivial

/-- How much of the list the constructor has read. -/
def ListRead (listed : List Int32) (s : ProviderState) : Prop :=
  match s.phase with
  | .settingCallbacks => s.call.provider.mBlacklistedCameraIds = []
  | .blacklisting ids =>
      s.call.provider.mBlacklistedCameraIds ++ ids.filterMap stoi = listed
  | .enumerating .. | .ready => s.call.provider.mBlacklistedCameraIds = listed
  | .unloaded | .failed | .aborted => True

section

variable {allowed : Int32 → Prop} {world : ProviderWorld} {s : ProviderState}

/-- The list is not touched by calls. -/
theorem ListRead.perform {listed : List Int32} (h : s.ListRead listed)
    (hfits : s.phase.Fits s.call.provider) {call : ProviderM PUnit}
    (hcall : s.call.provider.Works → Ends call s.call (fun _ c =>
      c.provider.mBlacklistedCameraIds = s.call.provider.mBlacklistedCameraIds) fun _ _ => True) :
    (s.perform call).ListRead listed := by
  rw [ProviderState.perform, final, stops]
  cases hresult : call s.call with
  | error e c => trivial
  | ok a c =>
      simp only [Ends, hresult] at hcall
      obtain ⟨c₀, phase⟩ := s
      dsimp only at hfits hcall
      cases phase with
      | unloaded | failed | aborted => trivial
      | settingCallbacks => exact (hcall hfits.1).trans h
      | blacklisting ids =>
          dsimp only [ListRead] at h ⊢
          rw [hcall hfits.1]
          exact h
      | enumerating n ids => exact (hcall hfits.1).trans h
      | ready => exact (hcall hfits).trans h

theorem ListRead.enumerate (h : s.ListRead world.listedIds) (hinv : s.Inv allowed) {n : Nat}
    {id : Int32} {rest : List Int32} (hphase : s.phase = .enumerating n (id :: rest)) :
    (s.enumerate world n id rest).ListRead world.listedIds := by
  have hread : s.call.provider.mBlacklistedCameraIds = world.listedIds := by
    rw [ListRead, hphase] at h
    exact h
  have hfits := hinv.fits
  rw [hphase] at hfits
  rw [ProviderState.enumerate]
  dsimp only
  split
  next => exact hread
  next =>
    split
    next =>
      split
      next => exact hread
      next => trivial
    next =>
      split
      next => trivial
      next =>
        apply ListRead.perform
        · exact hread
        · exact ⟨⟨hfits.1.mModule, hfits.1.paired⟩, hfits.2⟩
        · intro _
          apply (addDeviceNames_spec id .present false _).mono
          · rintro _ c ⟨-, rfl⟩
            rfl
          · exact fun _ _ _ => trivial

theorem ListRead.construct (h : s.ListRead world.listedIds) (hinv : s.Inv allowed) :
    (s.construct world).ListRead world.listedIds := by
  obtain ⟨c, phase⟩ := s
  cases phase with
  | unloaded | ready | failed | aborted => exact h
  | settingCallbacks =>
      rw [ProviderState.construct]
      dsimp only
      split
      next => trivial
      next =>
        rw [ListRead] at h ⊢
        dsimp only at h ⊢
        rw [h]
        rfl
  | blacklisting ids =>
      cases ids with
      | nil =>
          rw [ProviderState.construct]
          dsimp only
          split
          next => trivial
          next =>
            change c.provider.mBlacklistedCameraIds ++ [].filterMap stoi = _ at h
            rw [List.filterMap_nil, List.append_nil] at h
            exact h
      | cons id rest =>
          rw [ProviderState.construct]
          dsimp only
          split
          next => trivial
          next i hread =>
            change c.provider.mBlacklistedCameraIds ++ (id :: rest).filterMap stoi = _ at h
            rw [List.filterMap_cons, hread] at h
            change (c.provider.mBlacklistedCameraIds ++ [i]) ++ rest.filterMap stoi = _
            rw [List.append_assoc]
            exact h
  | enumerating n ids =>
      cases ids with
      | nil => exact h
      | cons id rest => exact h.enumerate hinv rfl

/-- Every step keeps account of how much of the list was read. -/
theorem ListRead.next (h : s.ListRead world.listedIds) (hinv : s.Inv allowed) (op : ProviderOp) :
    (s.next world op).ListRead world.listedIds := by
  -- Only the construction reads the list, and no other call touches it.
  cases op with
  | construct => exact h.construct hinv
  | cameraDeviceStatusChange id status =>
      rw [ProviderState.next]
      split
      next =>
        apply h.perform hinv.fits
        intro hworks
        apply (sCameraDeviceStatusChange_spec id status hworks.mModule).mono
        · intro _ c hc
          rw [hc, CameraProvider.afterReport_frame]
        · exact fun _ _ _ => trivial
      next => exact h
  | torchModeStatusChange id status =>
      rw [ProviderState.next]
      split
      next =>
        apply h.perform hinv.fits
        intro _
        apply (sTorchModeStatusChange_spec id status s.call).mono
        · intro _ c hc
          rw [hc]
        · exact fun _ _ _ => trivial
      next => exact h
  | setCallback callback =>
      rw [ProviderState.next]
      split
      next =>
        apply h.perform hinv.fits
        intro hworks
        apply (setCallback_spec callback hinv.names.statuses hworks.mModule).mono
        · intro _ c hc
          rw [hc, CameraProvider.afterSetCallback]
          dsimp only
          split
          next => rw [CameraProvider.withDevices_frame]
          next => rfl
        · exact fun _ _ _ => trivial
      next => exact h
  | getCameraIdList =>
      rw [ProviderState.next]
      split
      next =>
        apply h.perform hinv.fits
        intro _
        apply (getCameraIdList_spec hinv.names).mono
        · rintro _ c ⟨keys, hc⟩
          rw [hc]
          rfl
        · exact fun _ _ _ => trivial
      next => exact h

end

theorem Filters.permits {world : ProviderWorld} {s : ProviderState} {op : ProviderOp}
    (h : s.Filters world op) (hread : s.ListRead world.listedIds) :
    s.Permits (· ∉ world.listedIds) op := by
  cases op with
  | construct =>
      intro n id rest hphase hlisted hid
      rw [ListRead, hphase] at hread
      rw [CameraProvider.isCameraIdBlacklisted, hread] at hlisted
      exact of_decide_eq_false hlisted hid
  | cameraDeviceStatusChange id status =>
      intro hregistered hlisted hcallbacks hpresent hid
      have hskipped := h hregistered hcallbacks hpresent hid
      exact Bool.false_ne_true (hlisted.symm.trans hskipped)
  | torchModeStatusChange _ _ => trivial
  | setCallback callback =>
      intro hcallback hconstructed id status hstatus hpresent _ hid
      exact h hcallback hconstructed id hid ⟨status, hstatus, hpresent⟩
  | getCameraIdList => trivial

/-- Tables without listed ids hide them. -/
theorem hidesListed_of_names {world : ProviderWorld} {s : ProviderState}
    (h : s.call.Names (· ∉ world.listedIds)) : s.HidesListed world := by
  rintro id hid (hkey | ⟨pair, hpair, hnamed⟩ | ⟨event, hevent, hname⟩)
  · obtain ⟨other, hother, hsame⟩ := h.ids _ hkey
    exact hother (toStr_injective hsame ▸ hid)
  · obtain ⟨other, hother, rfl⟩ := h.names pair hpair
    apply hother
    rcases hnamed with hsame | hsame
    · rwa [toStr_injective hsame]
    · rwa [toStr_injective (getAidlDeviceName_injective hsame)]
  · obtain ⟨other, hother, hsame⟩ := h.events event hevent _ hname
    exact hother (toStr_injective (getAidlDeviceName_injective hsame) ▸ hid)

/-- No listed camera is exposed in a run whose steps all filter. -/
theorem hidesListed_run (world : ProviderWorld) {ops : List ProviderOp}
    (h : Admits (next world) (Filters world) (constructing world) ops) :
    Throughout (next world) (HidesListed world) (constructing world) ops := by
  apply h.throughout fun s => s.Inv (· ∉ world.listedIds) ∧ s.ListRead world.listedIds
  · rintro s op ⟨hinv, hread⟩ hop
    exact ⟨hinv.next (hop.permits hread), hread.next hinv op⟩
  · exact fun s hinv => hidesListed_of_names hinv.1.names
  · refine ⟨inv_constructing _ world, ?_⟩
    rw [constructing]
    split
    next => trivial
    next => rfl

/-- Three cameras, the last of them blacklisted, come up, and the HAL reports it all the same. -/
def reportListed : List ProviderOp :=
  List.replicate 7 .construct ++ [.setCallback true, .cameraDeviceStatusChange 2 .present,
    .cameraDeviceStatusChange 3 .present, .getCameraIdList]

theorem hidesListed_run_reportListed :
    Throughout (next { getNumberOfCameras := 3, blacklistedCameraProp := "2,5" })
      (HidesListed { getNumberOfCameras := 3, blacklistedCameraProp := "2,5" })
      (constructing { getNumberOfCameras := 3, blacklistedCameraProp := "2,5" }) reportListed :=
  hidesListed_run _ (by decide +kernel)

/-- The HAL reports a listed camera before the constructor has read the list. -/
def reportEarly : List ProviderOp :=
  .cameraDeviceStatusChange 5 .present :: List.replicate 5 .construct ++ [.setCallback true]

theorem reportEarly_exposed :
    ¬Throughout (next { blacklistedCameraProp := "2,5" })
      (HidesListed { blacklistedCameraProp := "2,5" })
      (constructing { blacklistedCameraProp := "2,5" }) reportEarly := by
  intro h
  apply h.run 5 (by decide +kernel)
  left
  decide +kernel

end ProviderState

end LgeHardware.Provider
