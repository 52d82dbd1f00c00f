import LgeHardware.Provider.DeviceTable

/-! # Status callbacks

A status change of a camera is told the framework from three places: the loop over the
known names, `addDeviceNames` for a camera that has come, and `removeDeviceNames` for one
that is gone. The last one comes on top of the loop.
-/

namespace LgeHardware.Provider

open LgeHardware.Foundation ProviderM

/-- The status changes that the framework was told, each with the name of its camera. -/
def ProviderCall.statusChanges (c : ProviderCall) : List (String × CameraDeviceStatus) :=
  c.events.filterMap fun
    | .cameraDeviceStatusChange name status => some (name, status)
    | .torchModeStatusChange .. | .cameraIdList _ | .removeCamera _ => none

namespace CameraProvider

/-- The table has a name of the camera. -/
def Knows (p : CameraProvider) (id : Int32) : Prop := p.deviceNames (toStr id) ≠ []

instance (p : CameraProvider) (id : Int32) : Decidable (p.Knows id) :=
  inferInstanceAs (Decidable (_ ≠ _))

/-- The callbacks that a report of the HAL leads to, by the statuses they carry. Without the
module the process ends at `getDeviceVersion`, before the last one. -/
def callbacksFor (p : CameraProvider) (id : Int32) (status : CameraDeviceStatus) :
    List CameraDeviceStatus :=
  (if p.Knows id then [status] else []) ++
    if p.mModule = false then []
    else
      match status with
      | .present | .enumerating => if p.Knows id then [] else [status]
      | .notPresent => if p.Knows id then [.notPresent] else []
      | .other _ => []

theorem callbacksFor_of_unknown {p : CameraProvider} {id : Int32} (h : ¬p.Knows id)
    (status : CameraDeviceStatus) : p.callbacksFor id status =
      if p.mModule = true ∧ (status = .present ∨ status = .enumerating) then [status]
      else [] := by
  cases hmodule : p.mModule <;> cases status <;> simp [callbacksFor, h, hmodule]

theorem callbacksFor_of_known {p : CameraProvider} {id : Int32} (h : p.Knows id)
    (status : CameraDeviceStatus) : p.callbacksFor id status =
      if p.mModule = true ∧ status = .notPresent then [.notPresent, .notPresent]
      else [status] := by
  cases hmodule : p.mModule <;> cases status <;> simp [callbacksFor, h, hmodule]

/-- A camera has one name. -/
theorem deviceNames_toStr {allowed : Int32 → Prop} {c : ProviderCall} (h : c.Names allowed)
    (id : Int32) : c.provider.deviceNames (toStr id) =
      if c.provider.Knows id then [getAidlDeviceName (toStr id)] else [] := by
  split
  next hknows =>
    have hpairs : ∀ pair ∈ c.provider.mCameraDeviceNames.toList.filter (·.1 = toStr id),
        pair = (toStr id, getAidlDeviceName (toStr id)) := by
      intro pair hpair
      obtain ⟨hmem, hkey⟩ := List.mem_filter.mp hpair
      obtain ⟨other, -, rfl⟩ := h.names pair (Std.ExtTreeSet.mem_toList.mp hmem)
      rw [toStr_injective (of_decide_eq_true hkey)]
    have hnodup := (Std.ExtTreeSet.nodup_toList c.provider.mCameraDeviceNames).filter
      (·.1 = toStr id)
    have hlength := List.eq_replicate_of_mem hpairs
    rw [Knows, deviceNames] at hknows
    rw [deviceNames]
    rw [hlength, List.nodup_replicate] at hnodup
    rw [hlength] at hknows ⊢
    generalize (c.provider.mCameraDeviceNames.toList.filter (·.1 = toStr id)).length = n at *
    obtain rfl | rfl : n = 0 ∨ n = 1 := by omega
    · exact absurd rfl hknows
    · rfl
  next hnot => exact not_not.mp hnot

theorem knows_withDevice (p : CameraProvider) (id : Int32) : (p.withDevice id).Knows id := by
  have hmem : (toStr id, getAidlDeviceName (toStr id)) ∈
      (p.withDevice id).mCameraDeviceNames.toList :=
    Std.ExtTreeSet.mem_toList.mpr Std.ExtTreeSet.mem_insert_self
  apply List.ne_nil_of_mem (a := getAidlDeviceName (toStr id))
  exact List.mem_map.mpr ⟨_, List.mem_filter.mpr ⟨hmem, decide_eq_true rfl⟩, rfl⟩

end CameraProvider

/-- From one state to the other, the framework was told these statuses of the camera. An
unknown camera became known if it was told any. -/
structure ProviderCall.Tells (c c' : ProviderCall) (id : Int32)
    (statuses : List CameraDeviceStatus) : Prop where
  statusChanges : c'.statusChanges =
    c.statusChanges ++ statuses.map (getAidlDeviceName (toStr id), ·)
  knows : ¬c.provider.Knows id → (c'.provider.Knows id ↔ statuses ≠ [])

/-- Of a known camera it only matters what the framework was told. -/
theorem ProviderCall.Tells.of_known {c c' : ProviderCall} {id : Int32}
    {statuses : List CameraDeviceStatus} (hknows : c.provider.Knows id)
    (hsent : c'.statusChanges =
      c.statusChanges ++ statuses.map (getAidlDeviceName (toStr id), ·)) :
    c.Tells c' id statuses :=
  ⟨hsent, fun hnot => absurd hknows hnot⟩

section

variable {allowed : Int32 → Prop} {c : ProviderCall} {id : Int32}

/-- The loop over the names tells the status of a known camera. -/
theorem statusChanges_reported (h : c.Names allowed) (id : Int32)
    (status : CameraDeviceStatus) :
    (c.reported id status (c.provider.deviceNames (toStr id))).statusChanges =
      c.statusChanges ++ if c.provider.Knows id then [(getAidlDeviceName (toStr id), status)]
        else [] := by
  rw [CameraProvider.deviceNames_toStr h]
  split <;> simp [ProviderCall.reported, ProviderCall.statusChanges]

/-- A known camera is told of by the loop, and again when it is removed. -/
theorem updateDeviceNames_of_known (h : c.Names allowed) (hknows : c.provider.Knows id)
    (status : CameraDeviceStatus) :
    Ends (updateDeviceNames id status true)
      (c.reported id status (c.provider.deviceNames (toStr id)))
      (fun _ c' => c.Tells c' id (c.provider.callbacksFor id status))
      fun _ c' => c.Tells c' id (c.provider.callbacksFor id status) := by
  have hreported := statusChanges_reported h id status
  rw [if_pos hknows] at hreported
  rw [CameraProvider.callbacksFor_of_known hknows]
  cases status with
  | present | enumerating | other value =>
      apply ProviderCall.Tells.of_known hknows
      rw [hreported, if_neg (by simp)]
      rfl
  | notPresent =>
      apply (removeDeviceNames_spec id _).mono
      · rintro _ _ ⟨hmodule, rfl⟩
        have hloaded : c.provider.mModule = true := hmodule
        apply ProviderCall.Tells.of_known hknows
        rw [if_pos ⟨hloaded, rfl⟩, ProviderCall.statusChanges, List.filterMap_append]
        change ProviderCall.statusChanges _ ++ _ = _
        rw [hreported, List.append_assoc]
        rfl
      · rintro _ _ ⟨hmodule, rfl⟩
        have hgone : c.provider.mModule = false := hmodule
        apply ProviderCall.Tells.of_known hknows
        rw [if_neg (by simp [hgone])]
        exact hreported

/-- An unknown camera that is added becomes known and is told of. -/
theorem addDeviceNames_tells (h : c.Names allowed) (hnot : ¬c.provider.Knows id)
    (status : CameraDeviceStatus) :
    Ends (addDeviceNames id status true)
      (c.reported id status (c.provider.deviceNames (toStr id)))
      (fun _ c' => c.provider.mModule = true ∧ c.Tells c' id [status])
      fun _ c' => c.provider.mModule = false ∧ c.Tells c' id [] := by
  have hreported := statusChanges_reported h id status
  rw [if_neg hnot, List.append_nil] at hreported
  apply (addDeviceNames_spec id status true _).mono
  · rintro _ _ ⟨hmodule, rfl⟩
    refine ⟨hmodule, ?_, fun _ => ?_⟩
    · rw [if_pos rfl, ProviderCall.statusChanges, List.filterMap_append]
      exact congrArg (· ++ _) hreported
    · exact iff_of_true (CameraProvider.knows_withDevice _ id) (List.cons_ne_nil _ _)
  · rintro _ _ ⟨hmodule, rfl⟩
    exact ⟨hmodule, hreported.trans (List.append_nil _).symm,
      fun _ => iff_of_false hnot fun hne => hne rfl⟩

/-- An unknown camera is told of only when it is added. -/
theorem updateDeviceNames_of_unknown (h : c.Names allowed) (hnot : ¬c.provider.Knows id)
    (status : CameraDeviceStatus) :
    Ends (updateDeviceNames id status false)
      (c.reported id status (c.provider.deviceNames (toStr id)))
      (fun _ c' => c.Tells c' id (c.provider.callbacksFor id status))
      fun _ c' => c.Tells c' id (c.provider.callbacksFor id status) := by
  have hreported := statusChanges_reported h id status
  rw [if_neg hnot, List.append_nil] at hreported
  rw [CameraProvider.callbacksFor_of_unknown hnot]
  cases status with
  | present | enumerating =>
      apply (addDeviceNames_tells h hnot _).mono
      · rintro _ c' ⟨hmodule, htells⟩
        rwa [if_pos ⟨hmodule, by simp⟩]
      · rintro _ c' ⟨hmodule, htells⟩
        rwa [if_neg (by simp [hmodule])]
  | notPresent | other value =>
      refine ⟨?_, fun _ => iff_of_false hnot fun hne => hne (if_neg (by simp))⟩
      rw [hreported, if_neg (by simp), List.map_nil, List.append_nil]

/-- A report that gets past the checks of the callback tells the framework what the table
says. -/
theorem sCameraDeviceStatusChange_tells (h : c.Names allowed) (status : CameraDeviceStatus)
    (hlisted : c.provider.isCameraIdBlacklisted id = false)
    (hcallbacks : c.provider.mCallbacks = true) :
    Ends (sCameraDeviceStatusChange id status) c
      (fun _ c' => c.Tells c' id (c.provider.callbacksFor id status))
      fun _ c' => c.Tells c' id (c.provider.callbacksFor id status) := by
  rw [ends_sCameraDeviceStatusChange, hlisted, hcallbacks, if_neg (by decide), if_neg (by decide)]
  by_cases hknows : c.provider.Knows id
  · have hfound : decide (c.provider.deviceNames (toStr id) ≠ []) = true := decide_eq_true hknows
    dsimp only
    rw [hfound]
    exact updateDeviceNames_of_known h hknows status
  · have hfound : decide (c.provider.deviceNames (toStr id) ≠ []) = false :=
      decide_eq_false hknows
    dsimp only
    rw [hfound]
    exact updateDeviceNames_of_unknown h hknows status

end

namespace ProviderState

/-- A report of the HAL on a camera that is not blacklisted, while there is a callback, is told
the framework by exactly one callback if the camera is known or becomes known, and by none if
it was unknown and is gone. -/
def TellsOnce (world : ProviderWorld) (s : ProviderState) : ProviderOp → Prop
  | .cameraDeviceStatusChange id status =>
      let s' := s.next world (.cameraDeviceStatusChange id status)
      s.phase.registered = true → s.call.provider.mCallbacks = true →
        s.call.provider.isCameraIdBlacklisted id = false →
          (s.call.provider.Knows id ∨ s'.call.provider.Knows id →
            s'.call.statusChanges =
              s.call.statusChanges ++ [(getAidlDeviceName (toStr id), status)]) ∧
          (¬s.call.provider.Knows id → status = .notPresent →
            s'.call.statusChanges = s.call.statusChanges)
  | .construct | .torchModeStatusChange .. | .setCallback _ | .getCameraIdList => True

instance (world : ProviderWorld) (s : ProviderState) (op : ProviderOp) :
    Decidable (s.TellsOnce world op) :=
  match op with
  | .cameraDeviceStatusChange .. => inferInstanceAs (Decidable (_ → _ → _ → _ ∧ _))
  | .construct | .torchModeStatusChange .. | .setCallback _ | .getCameraIdList => isTrue trivial

/-- The report does not say that a known camera is gone, while there is a callback. -/
def LosesNone (s : ProviderState) : ProviderOp → Prop
  | .cameraDeviceStatusChange id status =>
      s.phase.registered = true → s.call.provider.mCallbacks = true →
        s.call.provider.isCameraIdBlacklisted id = false →
          ¬(s.call.provider.mModule = true ∧ s.call.provider.Knows id ∧ status = .notPresent)
  | .construct | .torchModeStatusChange .. | .setCallback _ | .getCameraIdList => True

/-- One report is told once exactly if it does not say that a known camera is gone. -/
theorem tellsOnce_iff_losesNone {allowed : Int32 → Prop} {world : ProviderWorld}
    {s : ProviderState} (h : s.Inv allowed) (op : ProviderOp) :
    s.TellsOnce world op ↔ s.LosesNone op := by
  cases op with
  | construct | torchModeStatusChange _ _ | setCallback _ | getCameraIdList => exact Iff.rfl
  | cameraDeviceStatusChange id status =>
      rw [TellsOnce, LosesNone]
      refine forall_congr' fun hregistered => forall_congr' fun hcallbacks =>
        forall_congr' fun hlisted => ?_
      have htells := (sCameraDeviceStatusChange_tells h.names status hlisted hcallbacks).holds
      rw [next, if_pos hregistered, perform]
      generalize final (sCameraDeviceStatusChange id status) s.call = c' at htells
      dsimp only
      rw [htells.statusChanges, List.append_right_inj, List.append_right_eq_self]
      by_cases hknows : s.call.provider.Knows id
      · rw [CameraProvider.callbacksFor_of_known hknows]
        simp [hknows]
      · rw [htells.knows hknows, CameraProvider.callbacksFor_of_unknown hknows]
        refine iff_of_true ⟨fun htold => ?_, fun _ hgone => ?_⟩ fun hlost => hknows hlost.2.1
        · have hadded := htold.resolve_left hknows
          rw [ite_ne_right_iff] at hadded
          rw [if_pos hadded.1]
          rfl
        · simp [hgone]

/-- In every run the framework is told every change of a camera exactly once, if and only if
no known camera is reported as gone. -/
theorem tellsOnce_iff (world : ProviderWorld) (ops : List ProviderOp) :
    Admits (next world) (TellsOnce world) (constructing world) ops ↔
      Admits (next world) LosesNone (constructing world) ops := by
  apply (Admits.always (constructing world) ops).congr fun s => s.Inv fun _ => True
  · intro s op hinv _
    apply hinv.next
    cases op <;> simp [Permits]
  · exact fun s op hinv _ => tellsOnce_iff_losesNone hinv op
  · exact inv_constructing _ world

/-- An external camera comes and goes. -/
def plugInAndOut : List ProviderOp := plugIn ++ [.cameraDeviceStatusChange 5 .notPresent]

/-- The framework is told twice that the camera is gone. -/
theorem plugInAndOut_toldTwice :
    ¬Admits (next {}) (TellsOnce {}) (constructing {}) plugInAndOut := by
  decide +kernel

end ProviderState

end LgeHardware.Provider
