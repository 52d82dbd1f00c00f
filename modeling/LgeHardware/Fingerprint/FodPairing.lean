import LgeHardware.Fingerprint.BiometricsFingerprint

/-! # Scans and high brightness

Both sections under `mSetHbmFodMutex` do nothing unless they change the flag, so a flag
that starts out clear says at any time whether a scan runs. A flag that starts out set
speaks of a scan that nobody has started.
-/

namespace LgeHardware.Fingerprint

open LgeHardware.Foundation

/-- The commands alternate, beginning with a start. -/
def Alternates (cmds : List ScanCmd) : Prop :=
  ∀ i (h : i < cmds.length), cmds[i] = if i % 2 = 0 then .scanStart else .scanStop

instance (cmds : List ScanCmd) : Decidable (Alternates cmds) :=
  inferInstanceAs (Decidable (∀ i (h : i < cmds.length), cmds[i] = _))

/-- The last command started a scan. -/
def Running (cmds : List ScanCmd) : Prop := cmds.getLast? = some .scanStart

instance (cmds : List ScanCmd) : Decidable (Running cmds) :=
  inferInstanceAs (Decidable (_ = _))

/-- Of commands that alternate an odd number leaves a scan running. -/
theorem Alternates.running_iff {cmds : List ScanCmd} (h : Alternates cmds) :
    Running cmds ↔ cmds.length % 2 = 1 := by
  rcases cmds.eq_nil_or_concat' with rfl | ⟨earlier, last, rfl⟩
  · simp [Running]
  · have hlast := h earlier.length (by simp)
    rw [List.getElem_concat_length rfl] at hlast
    rw [Running, List.getLast?_concat, List.length_append, List.length_singleton, hlast]
    by_cases heven : earlier.length % 2 = 0
    · simp only [heven, if_true, true_iff]
      omega
    · simp only [heven, if_false, Option.some.injEq, reduceCtorEq, false_iff]
      omega

/-- The next command alternates if it is the one that the number of commands asks for. -/
theorem Alternates.concat {cmds : List ScanCmd} (h : Alternates cmds) {cmd : ScanCmd}
    (hcmd : cmd = if cmds.length % 2 = 0 then .scanStart else .scanStop) :
    Alternates (cmds ++ [cmd]) := by
  intro i hi
  rw [List.length_append, List.length_singleton] at hi
  by_cases hlast : i = cmds.length
  · subst hlast
    rw [List.getElem_concat_length rfl]
    exact hcmd
  · have hearlier : i < cmds.length := by omega
    rw [List.getElem_append_left hearlier]
    exact h i hearlier

namespace BiometricsFingerprint

/-- The scan commands alternate, and while no call is in progress the panel is at high
brightness exactly if the last of them started a scan. -/
def Paired (s : BiometricsFingerprint) : Prop :=
  Alternates s.scans ∧ (s.pending = [] → (s.panel.hbm = true ↔ Running s.scans))

instance (s : BiometricsFingerprint) : Decidable s.Paired :=
  inferInstanceAs (Decidable (_ ∧ (_ → _)))

/-- The first `onFingerDown` starts a scan. -/
def FirstDownStarts (start : BiometricsFingerprint) : Prop :=
  ∀ before, .onFingerDown ∉ before →
    (run next start (before ++ [.onFingerDown])).scans =
      (run next start before).scans ++ [.scanStart]

/-- The flag says whether a scan runs, and the panel follows it. -/
structure Tracks (s : BiometricsFingerprint) : Prop where
  alternates : Alternates s.scans
  flag : s.hbmFodEnabled = true ↔ s.scans.length % 2 = 1
  hbm : s.panel.hbm = s.hbmFodEnabled
  node : s.panel.HasNode s.mHbmPath

variable {s : BiometricsFingerprint}

/-- A state that keeps track has its commands paired. -/
theorem Tracks.paired (h : s.Tracks) : s.Paired := by
  refine ⟨h.alternates, fun _ => ?_⟩
  rw [h.hbm, h.alternates.running_iff]
  exact h.flag

/-! ## The two sections -/

theorem scans_emit (event : FingerprintEvent) (h : ∀ cmd param, event ≠ .doExtraApiIn cmd param) :
    (s.emit event).scans = s.scans := by
  rw [scans, scans, emit, List.filterMap_append]
  cases event with
  | doExtraApiIn cmd param => exact absurd rfl (h cmd param)
  | writeFile | cancelDevice | returnStatus | client => exact List.append_nil _

theorem scans_doExtraApiIn (cmd : ScanCmd) (param : Nat) :
    (s.emit (.doExtraApiIn cmd param)).scans = s.scans ++ [cmd] := by
  rw [scans, scans, emit, List.filterMap_append]
  rfl

theorem scans_writeStringToFile (content path : String) :
    (s.writeStringToFile content path).scans = s.scans :=
  scans_emit (.writeFile path content) nofun

/-- A write keeps the files of the panel. -/
theorem hasNode_writeStringToFile (content path other : String) (h : s.panel.HasNode other) :
    (s.writeStringToFile content path).panel.HasNode other := by
  rw [writeStringToFile, Panel.write]
  split <;> exact h

/-- The node takes the brightness that is written to it. -/
theorem hbm_setFodHbm (h : s.panel.HasNode s.mHbmPath) (status : Bool) :
    (s.setFodHbm status).panel.hbm = status := by
  rw [setFodHbm, writeStringToFile, Panel.write]
  change (if s.panel.HasNode s.mHbmPath then _ else _ : Panel).hbm = status
  rw [if_pos h]
  cases status <;> rfl

/-- The reset of the touch panel does not touch the brightness. -/
theorem panel_resetLgeTouchPanel : s.resetLgeTouchPanel.panel = s.panel := by
  have hother : ¬s.panel.HasNode lgeTouchResetPath := by
    rintro (⟨hpath, -⟩ | ⟨hpath, -⟩)
    · exact absurd hpath (by decide)
    · exact absurd hpath (by decide)
  rw [resetLgeTouchPanel, writeStringToFile, Panel.write, if_neg hother]

/-- A scan starts unless the flag says that one runs. -/
theorem scans_enableHighBrightFod (h : s.hbmFodEnabled = false) :
    s.enableHighBrightFod.scans = s.scans ++ [.scanStart] := by
  rw [enableHighBrightFod, if_neg (by rw [h]; nofun)]
  exact (scans_writeStringToFile _ _).trans (scans_doExtraApiIn .scanStart 0)

/-- A scan stops only if the flag says that one runs. -/
theorem scans_disableHighBrightFod (h : s.hbmFodEnabled = true) :
    s.disableHighBrightFod.scans = s.scans ++ [.scanStop] := by
  rw [disableHighBrightFod, if_neg (by rw [h]; nofun)]
  exact (scans_writeStringToFile _ _).trans
    ((scans_writeStringToFile _ _).trans (scans_doExtraApiIn .scanStop 0))

theorem panel_disableHighBrightFod (h : s.hbmFodEnabled = true) :
    s.disableHighBrightFod.panel = (s.setFodHbm false).panel := by
  rw [disableHighBrightFod, if_neg (by rw [h]; nofun)]
  exact panel_resetLgeTouchPanel

/-- Starting a scan keeps track, whether one runs or not. -/
theorem Tracks.enableHighBrightFod (h : s.Tracks) : s.enableHighBrightFod.Tracks := by
  cases hflag : s.hbmFodEnabled with
  | true =>
      rw [BiometricsFingerprint.enableHighBrightFod, if_pos hflag]
      exact h
  | false =>
      have heven : s.scans.length % 2 = 0 := by
        have hodd := h.flag.not.mp (by rw [hflag]; nofun)
        omega
      have hscans := scans_enableHighBrightFod hflag
      refine ⟨?_, ?_, ?_, ?_⟩
      · rw [hscans]
        exact h.alternates.concat (if_pos heven).symm
      · rw [hscans, List.length_append, List.length_singleton,
          BiometricsFingerprint.enableHighBrightFod, if_neg (by rw [hflag]; nofun)]
        simp only [true_iff]
        omega
      · rw [BiometricsFingerprint.enableHighBrightFod, if_neg (by rw [hflag]; nofun)]
        exact hbm_setFodHbm h.node true
      · rw [BiometricsFingerprint.enableHighBrightFod, if_neg (by rw [hflag]; nofun)]
        exact hasNode_writeStringToFile _ _ _ h.node

/-- Stopping a scan keeps track. -/
theorem Tracks.disableHighBrightFod (h : s.Tracks) : s.disableHighBrightFod.Tracks := by
  cases hflag : s.hbmFodEnabled with
  | false =>
      rw [BiometricsFingerprint.disableHighBrightFod, if_pos (by rw [hflag]; rfl)]
      exact h
  | true =>
      have hodd : s.scans.length % 2 = 1 := h.flag.mp hflag
      have hscans := scans_disableHighBrightFod hflag
      have hpanel := panel_disableHighBrightFod hflag
      refine ⟨?_, ?_, ?_, ?_⟩
      · rw [hscans]
        exact h.alternates.concat (by rw [hodd]; rfl)
      · rw [hscans, List.length_append, List.length_singleton,
          BiometricsFingerprint.disableHighBrightFod, if_neg (by rw [hflag]; nofun)]
        simp only [Bool.false_eq_true, false_iff]
        omega
      · rw [hpanel, hbm_setFodHbm h.node, BiometricsFingerprint.disableHighBrightFod,
          if_neg (by rw [hflag]; nofun)]
      · rw [hpanel, BiometricsFingerprint.disableHighBrightFod, if_neg (by rw [hflag]; nofun)]
        exact hasNode_writeStringToFile _ _ _ h.node

/-! ## Runs -/

/-- The flag, the panel and the scans are all that a step has to keep. -/
theorem Tracks.congr {s' : BiometricsFingerprint} (h : s.Tracks) (hscans : s'.scans = s.scans)
    (hflag : s'.hbmFodEnabled = s.hbmFodEnabled) (hpanel : s'.panel = s.panel)
    (hpath : s'.mHbmPath = s.mHbmPath) : s'.Tracks where
  alternates := by rw [hscans]; exact h.alternates
  flag := by rw [hscans, hflag]; exact h.flag
  hbm := by rw [hpanel, hflag]; exact h.hbm
  node := by rw [hpanel, hpath]; exact h.node

theorem scans_cancelDevice (ret : Int) : (s.cancelDevice ret).scans = s.scans :=
  (scans_emit (.returnStatus (errorFilter ret)) nofun).trans (scans_emit .cancelDevice nofun)

/-- The call of the device changes nothing that is tracked. -/
theorem Tracks.cancelDevice (h : s.Tracks) (ret : Int) : (s.cancelDevice ret).Tracks :=
  h.congr (scans_cancelDevice ret) rfl rfl rfl

/-- The second half of a call keeps track. -/
theorem Tracks.proceed (h : s.Tracks) (call : PendingCall) : (s.proceed call).Tracks := by
  cases call with
  | cancel ret => exact h.disableHighBrightFod.cancelDevice ret
  | notify => exact h.disableHighBrightFod

/-- A message to the client is no scan command. -/
theorem scans_client (calls : List ClientCall) :
    ({ s with log := s.log ++ calls.map FingerprintEvent.client } :
      BiometricsFingerprint).scans = s.scans := by
  simp [scans, List.filterMap_append, List.filterMap_map]

/-- Every operation keeps track, between whichever others it comes. -/
theorem Tracks.next (h : s.Tracks) (op : FingerprintOp) : (s.next op).Tracks := by
  cases op with
  | setNotify clientCallback =>
      rw [BiometricsFingerprint.next]
      split
      next => exact h
      next => exact h.congr rfl rfl rfl rfl
  | onFingerDown => exact h.enableHighBrightFod
  | onFingerUp => exact h.disableHighBrightFod
  | cancel ret =>
      rw [BiometricsFingerprint.next, cancel]
      split
      next => exact h.congr rfl rfl rfl rfl
      next => exact h.cancelDevice ret
  | notify msg =>
      rw [BiometricsFingerprint.next, notify]
      split
      next => exact h
      next =>
        split
        next => exact h
        next =>
          dsimp only
          split
          next => exact h.congr (scans_client _) rfl rfl rfl
          next => exact h.congr (scans_client _) rfl rfl rfl
  | proceed i =>
      rw [BiometricsFingerprint.next]
      split
      next => exact h
      next call _ =>
        have hrest : ({ s with pending := s.pending.eraseIdx i } : BiometricsFingerprint).Tracks :=
          h.congr rfl rfl rfl rfl
        exact hrest.proceed call

/-- A service that finds its flag cleared keeps track from the start. -/
theorem tracks_construct {panel : Panel} (h : panel.hbm = false) :
    (construct false panel).Tracks where
  alternates := nofun
  flag := by simp [construct, scans]
  hbm := h
  node := by
    have hpresent := panel.present
    rw [construct]
    cases hlegacy : panel.legacy with
    | true => exact .inl ⟨rfl, hlegacy⟩
    | false =>
        rw [hlegacy, Bool.false_or] at hpresent
        rw [hpresent]
        exact .inr ⟨rfl, hpresent⟩

/-- Only `onFingerDown` sets the flag. -/
theorem hbmFodEnabled_next {op : FingerprintOp} (hop : op ≠ .onFingerDown)
    (h : s.hbmFodEnabled = false) : (s.next op).hbmFodEnabled = false := by
  have hdisable : s.disableHighBrightFod = s := if_pos (by rw [h]; rfl)
  cases op with
  | setNotify clientCallback =>
      rw [next]
      split <;> exact h
  | onFingerDown => exact absurd rfl hop
  | onFingerUp =>
      rw [next, onFingerUp, hdisable]
      exact h
  | cancel ret =>
      rw [next, cancel, if_neg (by rw [h]; nofun)]
      exact h
  | notify msg =>
      rw [next, notify]
      split
      next => exact h
      next =>
        split
        next => exact h
        next =>
          dsimp only
          split <;> exact h
  | proceed i =>
      rw [next]
      split
      next => exact h
      next call _ =>
        have hrest : ({ s with pending := s.pending.eraseIdx i } :
            BiometricsFingerprint).disableHighBrightFod =
            { s with pending := s.pending.eraseIdx i } := if_pos (by rw [h]; rfl)
        cases call with
        | cancel ret =>
            rw [proceed, onFingerUp, hrest]
            exact h
        | notify =>
            rw [proceed, onFingerUp, hrest]
            exact h

/-- With a cleared flag the first touch starts a scan. -/
theorem firstDownStarts {start : BiometricsFingerprint} (h : start.hbmFodEnabled = false) :
    start.FirstDownStarts := by
  intro before hbefore
  have hflag : (run next start before).hbmFodEnabled = false := by
    induction before generalizing start with
    | nil => exact h
    | cons op rest ih =>
        have hop : op ≠ .onFingerDown := fun heq => hbefore (heq ▸ List.mem_cons_self)
        have hrest : .onFingerDown ∉ rest := fun hmem => hbefore (List.mem_cons_of_mem op hmem)
        exact ih (hbmFodEnabled_next hop h) hrest
  rw [run_append]
  exact scans_enableHighBrightFod hflag

/-- Scans and high brightness stay paired in every run, and the first finger starts a scan,
exactly if the flag happens to start out clear and the panel at normal brightness. -/
theorem fod_paired_iff (hbmFodEnabled : Bool) (panel : Panel) :
    ((∀ ops, Throughout next Paired (construct hbmFodEnabled panel) ops) ∧
        (construct hbmFodEnabled panel).FirstDownStarts) ↔
      hbmFodEnabled = false ∧ panel.hbm = false := by
  constructor
  · rintro ⟨hpaired, hfirst⟩
    constructor
    · cases hflag : hbmFodEnabled with
      | false => rfl
      | true =>
          have hdown := hfirst [] List.not_mem_nil
          rw [hflag] at hdown
          have hnothing : ([] : List ScanCmd) = [.scanStart] := hdown
          contradiction
    · have hidle := (hpaired []).2 rfl
      have hrunning : ¬Running [] := nofun
      exact Bool.eq_false_iff.mpr fun hhbm => hrunning (hidle.mp hhbm)
  · rintro ⟨rfl, hhbm⟩
    refine ⟨fun ops => ?_, firstDownStarts rfl⟩
    exact (Admits.always _ ops).throughout Tracks (fun s op h _ => h.next op)
      (fun s h => h.paired) (tracks_construct hhbm)

def darkPanel : Panel := { legacy := false, current := true, present := rfl, hbm := false }

/-- With the flag set by chance, the first finger starts no scan and its leaving stops one. -/
theorem flagSet_unpaired :
    ¬((∀ ops, Throughout next Paired (construct true darkPanel) ops) ∧
      (construct true darkPanel).FirstDownStarts) := by
  rintro ⟨hpaired, -⟩
  exact absurd (hpaired [.onFingerDown, .onFingerUp]) (by decide)

end BiometricsFingerprint

end LgeHardware.Fingerprint
