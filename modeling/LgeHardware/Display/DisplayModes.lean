import LgeHardware.Foundation.Decimal
import LgeHardware.Foundation.Latest

/-! # The display modes

`DisplayModes` sets the mode of the panel, and keeps the default mode both in memory and in a file
that the next start of the service reads. Opening a file for writing empties it, and a stream
reports neither that what was put into it is lost when it is closed.
-/

namespace LgeHardware.Display

open LgeHardware.Foundation

/-! ## The service -/

/-- The statuses that the service returns. -/
inductive ModeStatus
  | ok
  | unsupportedOperation
  deriving DecidableEq, Repr

def kModeMap : List (Int32 × String) :=
  [(0, "Auto"), (1, "Cinema"), (2, "Photos"), (3, "Web"), (4, "Sports"), (5, "Game")]

/-- `kModeMap.find(modeID) != kModeMap.end()`. -/
def known (modeID : Int32) : Bool := kModeMap.any (·.1 = modeID)

/-- What becomes of a stream: whether the file opens, and whether what was put into the stream
reaches the file when it is closed. -/
structure Stream where
  opens : Bool := true
  written : Bool := true
  deriving DecidableEq, Repr

/-- The streams of a call to the node of the panel and to the file of the default mode. -/
structure Streams where
  mode : Stream := {}
  default : Stream := {}
  deriving DecidableEq, Repr

/-- The service, the text that the panel gives as its mode, and the text in the file of the default
mode. A file that cannot be read has none. -/
structure DisplayModes where
  mDefaultModeId : Int32 := 0
  modeFile : Option String := none
  defaultFile : Option String := none
  deriving DecidableEq, Repr

namespace DisplayModes

/-- What `file >> value` reads, `none` where the stream fails. -/
def extract (file : Option String) : Option Int32 := file.bind stoi

/-- The node of the panel keeps its mode until a new one gets through. -/
def afterMode (s : DisplayModes) (stream : Stream) (modeID : Int32) : DisplayModes :=
  if stream.written then { s with modeFile := some (toStr modeID) } else s

/-- Opening the file empties it. -/
def afterDefault (s : DisplayModes) (stream : Stream) (modeID : Int32) : DisplayModes :=
  { s with defaultFile := some (if stream.written then toStr modeID else "") }

/-- `modeFile` is closed last, when the call returns. -/
def setDisplayMode (s : DisplayModes) (modeID : Int32) (makeDefault : Bool) (streams : Streams) :
    ModeStatus × DisplayModes :=
  if !known modeID then (.unsupportedOperation, s)
  else if !streams.mode.opens then (.unsupportedOperation, s)
  else if makeDefault then
    if !streams.default.opens then (.unsupportedOperation, s.afterMode streams.mode modeID)
    else
      let s := { s.afterDefault streams.default modeID with mDefaultModeId := modeID }
      (.ok, s.afterMode streams.mode modeID)
  else (.ok, s.afterMode streams.mode modeID)

/-- The constructor. -/
def construct (s : DisplayModes) (streams : Streams) : DisplayModes :=
  let s := { s with mDefaultModeId := 0 }
  match extract s.defaultFile with
  | none => s
  | some value =>
      let s := if known value then { s with mDefaultModeId := value } else s
      (s.setDisplayMode s.mDefaultModeId false streams).2

/-- `kModeMap.at`, `none` where it throws. -/
def modeName (modeID : Int32) : Option String := (kModeMap.find? (·.1 = modeID)).map Prod.snd

def currentModeId (s : DisplayModes) : Int32 :=
  match extract s.modeFile with
  | none => s.mDefaultModeId
  | some value => if known value then value else s.mDefaultModeId

/-- `none` where the call throws. -/
def getCurrentDisplayMode (s : DisplayModes) : Option (Int32 × String) :=
  (modeName s.currentModeId).map (s.currentModeId, ·)

/-- `none` where the call throws. -/
def getDefaultDisplayMode (s : DisplayModes) : Option (Int32 × String) :=
  (modeName s.mDefaultModeId).map (s.mDefaultModeId, ·)

def getDisplayModes : List (Int32 × String) :=
  kModeMap.filter fun entry => entry.1.toInt < kModeMap.length

end DisplayModes

/-! ## The service over time -/

/-- A call, a start of the service anew, or a change of the panel that is not of its making. -/
inductive DisplayOp
  | setDisplayMode (modeID : Int32) (makeDefault : Bool) (streams : Streams)
  | restart (streams : Streams)
  | panel (modeFile : Option String)
  deriving DecidableEq, Repr

namespace DisplayOp

/-- The mode that becomes the default, with the streams that it goes through. -/
def newDefault : DisplayOp → Option (Int32 × Streams)
  | .setDisplayMode modeID makeDefault streams =>
      if makeDefault ∧ known modeID = true ∧ streams.mode.opens ∧ streams.default.opens then
        some (modeID, streams)
      else none
  | .restart _ | .panel _ => none

/-- The default mode for as long as the service runs. -/
def announced (op : DisplayOp) : Option Int32 := op.newDefault.map Prod.fst

/-- The default mode for the next start of the service: a mode that is lost on its way to the file
leaves the file empty. -/
def stored (op : DisplayOp) : Option Int32 :=
  op.newDefault.map fun (modeID, streams) => if streams.default.written then modeID else 0

def restarts : DisplayOp → Bool
  | .restart _ => true
  | .setDisplayMode .. | .panel _ => false

end DisplayOp

namespace DisplayModes

def next (s : DisplayModes) : DisplayOp → DisplayModes
  | .setDisplayMode modeID makeDefault streams => (s.setDisplayMode modeID makeDefault streams).2
  | .restart streams => s.construct streams
  | .panel modeFile => { s with modeFile }

/-- The mode that a start of the service takes as its default. -/
def storedMode (s : DisplayModes) : Int32 :=
  match extract s.defaultFile with
  | none => 0
  | some value => if known value then value else 0

@[simp] theorem afterMode_mDefaultModeId (s : DisplayModes) (stream : Stream) (modeID : Int32) :
    (s.afterMode stream modeID).mDefaultModeId = s.mDefaultModeId := by
  rw [afterMode]
  split <;> rfl

@[simp] theorem afterMode_defaultFile (s : DisplayModes) (stream : Stream) (modeID : Int32) :
    (s.afterMode stream modeID).defaultFile = s.defaultFile := by
  rw [afterMode]
  split <;> rfl

theorem storedMode_congr {s s' : DisplayModes} (h : s'.defaultFile = s.defaultFile) :
    s'.storedMode = s.storedMode := by
  rw [storedMode, h, storedMode]

/-- What is put into the file is what the next start reads, or nothing. -/
theorem storedMode_afterDefault (s : DisplayModes) (stream : Stream) {modeID : Int32}
    (hknown : known modeID = true) :
    (s.afterDefault stream modeID).storedMode = if stream.written then modeID else 0 := by
  rw [storedMode, afterDefault, extract, Option.bind_some]
  cases stream.written with
  | true =>
      rw [if_pos rfl, if_pos rfl, stoi_toStr]
      exact if_pos hknown
  | false => rfl

variable {s : DisplayModes}

/-- A call makes a mode the default, in memory and in the file, or changes the panel at most. -/
theorem setDisplayMode_cases (s : DisplayModes) (modeID : Int32) (makeDefault : Bool)
    (streams : Streams) :
    (DisplayOp.newDefault (.setDisplayMode modeID makeDefault streams) = some (modeID, streams) ∧
        known modeID = true ∧ s.setDisplayMode modeID makeDefault streams =
          (.ok, { s.afterDefault streams.default modeID with
            mDefaultModeId := modeID }.afterMode streams.mode modeID)) ∨
      DisplayOp.newDefault (.setDisplayMode modeID makeDefault streams) = none ∧
        ((s.setDisplayMode modeID makeDefault streams).2 = s ∨
          (s.setDisplayMode modeID makeDefault streams).2 =
            s.afterMode streams.mode modeID) := by
  rw [setDisplayMode, DisplayOp.newDefault]
  cases hknown : known modeID with
  | false => exact .inr ⟨if_neg (by simp), .inl rfl⟩
  | true =>
      cases hmode : streams.mode.opens with
      | false => exact .inr ⟨if_neg (by simp), .inl rfl⟩
      | true =>
          cases makeDefault with
          | false => exact .inr ⟨if_neg (by simp), .inr rfl⟩
          | true =>
              cases hdefault : streams.default.opens with
              | false => exact .inr ⟨if_neg (by simp), .inr rfl⟩
              | true => exact .inl ⟨if_pos (by simp), rfl, rfl⟩

/-- A call sets the default and what is stored to its mode, or leaves them, as its streams end. -/
theorem setDisplayMode_registers (modeID : Int32) (makeDefault : Bool) (streams : Streams) :
    (s.setDisplayMode modeID makeDefault streams).2.mDefaultModeId =
        (DisplayOp.announced (.setDisplayMode modeID makeDefault streams)).getD s.mDefaultModeId ∧
      (s.setDisplayMode modeID makeDefault streams).2.storedMode =
        (DisplayOp.stored (.setDisplayMode modeID makeDefault streams)).getD s.storedMode := by
  rw [DisplayOp.announced, DisplayOp.stored]
  rcases s.setDisplayMode_cases modeID makeDefault streams with
    ⟨hnew, hknown, hset⟩ | ⟨hnew, hset | hset⟩
  · rw [hnew, hset]
    refine ⟨afterMode_mDefaultModeId _ _ _, ?_⟩
    dsimp only
    rw [storedMode_congr (afterMode_defaultFile _ _ _)]
    exact storedMode_afterDefault s streams.default hknown
  · rw [hnew, hset]
    exact ⟨rfl, rfl⟩
  · rw [hnew, hset]
    exact ⟨afterMode_mDefaultModeId _ _ _, storedMode_congr (afterMode_defaultFile _ _ _)⟩

/-- The service starts with what is stored, and stores nothing by that. -/
theorem construct_registers (s : DisplayModes) (streams : Streams) :
    (s.construct streams).mDefaultModeId = s.storedMode ∧
      (s.construct streams).storedMode = s.storedMode := by
  have hplain : ∀ (s : DisplayModes) (modeID : Int32),
      (s.setDisplayMode modeID false streams).2.mDefaultModeId = s.mDefaultModeId ∧
        (s.setDisplayMode modeID false streams).2.storedMode = s.storedMode := by
    intro s modeID
    have h := @setDisplayMode_registers s modeID false streams
    rw [DisplayOp.announced, DisplayOp.stored, DisplayOp.newDefault, if_neg (by simp)] at h
    exact h
  rw [construct]
  cases hread : extract s.defaultFile with
  | none =>
      refine ⟨?_, rfl⟩
      rw [storedMode, hread]
  | some value =>
      have hstored : s.storedMode = if known value = true then value else 0 := by
        rw [storedMode, hread]
      dsimp only
      by_cases hknown : known value = true
      · rw [if_pos hknown] at hstored ⊢
        rw [(hplain _ _).1, (hplain _ _).2]
        exact ⟨hstored.symm, storedMode_congr rfl⟩
      · rw [if_neg hknown] at hstored ⊢
        rw [(hplain _ _).1, (hplain _ _).2]
        exact ⟨hstored.symm, storedMode_congr rfl⟩

/-! ## The default mode -/

/-- After any operations the mode stored is the one stored last. -/
theorem storedMode_run (s : DisplayModes) (ops : List DisplayOp) :
    (run next s ops).storedMode = latest DisplayOp.stored s.storedMode ops := by
  refine view_run (fun s op => ?_) s ops
  cases op with
  | setDisplayMode modeID makeDefault streams =>
      exact (setDisplayMode_registers modeID makeDefault streams).2
  | restart streams => exact (construct_registers s streams).2
  | panel modeFile => rfl

/-- While the service runs, the default mode is what it has announced last. -/
theorem mDefaultModeId_run (s : DisplayModes) {ops : List DisplayOp}
    (h : ∀ op ∈ ops, op.restarts = false) :
    (run next s ops).mDefaultModeId = latest DisplayOp.announced s.mDefaultModeId ops := by
  refine (Admits.of_forall h).view_run (fun _ => True) (fun _ _ _ _ => trivial) ?_ trivial
  intro s op _ hop
  cases op with
  | setDisplayMode modeID makeDefault streams =>
      exact (setDisplayMode_registers modeID makeDefault streams).1
  | restart streams => cases hop
  | panel modeFile => rfl

theorem known_storedMode (s : DisplayModes) : known s.storedMode = true := by
  rw [storedMode]
  split
  next => rfl
  next =>
    split
    next hknown => exact hknown
    next => rfl

/-- The default stays one of the modes that are listed. -/
theorem known_run {s : DisplayModes} (h : known s.mDefaultModeId = true) (ops : List DisplayOp) :
    known (run next s ops).mDefaultModeId = true := by
  refine (Admits.always s ops).invariant (fun s => known s.mDefaultModeId = true) ?_ h
  intro s op h _
  cases op with
  | setDisplayMode modeID makeDefault streams =>
      rw [next, (setDisplayMode_registers modeID makeDefault streams).1, DisplayOp.announced]
      rcases s.setDisplayMode_cases modeID makeDefault streams with ⟨hnew, hknown, -⟩ | ⟨hnew, -⟩
      · rw [hnew]
        exact hknown
      · rw [hnew]
        exact h
  | restart streams =>
      rw [next, (construct_registers s streams).1]
      exact s.known_storedMode
  | panel modeFile => exact h

/-! ## What is reported -/

/-- The service reports modes that it lists. -/
structure Reports (s : DisplayModes) : Prop where
  default : ∃ name, s.getDefaultDisplayMode = some (s.mDefaultModeId, name) ∧
    (s.mDefaultModeId, name) ∈ getDisplayModes
  current : ∃ name, s.getCurrentDisplayMode = some (s.currentModeId, name) ∧
    (s.currentModeId, name) ∈ getDisplayModes

theorem modeName_of_known {modeID : Int32} (h : known modeID = true) :
    ∃ name, modeName modeID = some name ∧ (modeID, name) ∈ getDisplayModes := by
  have hlisted : ∃ entry ∈ kModeMap, decide (entry.1 = modeID) = true := List.any_eq_true.mp h
  obtain ⟨entry, hentry⟩ := Option.isSome_iff_exists.mp (List.find?_isSome.mpr hlisted)
  have hmodes : getDisplayModes = kModeMap := by decide
  have hid := List.find?_some hentry
  rw [decide_eq_true_eq] at hid
  refine ⟨entry.2, ?_, ?_⟩
  · rw [modeName, hentry]
    rfl
  · rw [hmodes, ← hid]
    exact List.mem_of_find?_eq_some hentry

theorem known_currentModeId {s : DisplayModes} (h : known s.mDefaultModeId = true) :
    known s.currentModeId = true := by
  rw [currentModeId]
  split
  next => exact h
  next =>
    split
    next hknown => exact hknown
    next => exact h

theorem reports_of_known {s : DisplayModes} (h : known s.mDefaultModeId = true) : s.Reports := by
  obtain ⟨name, hname, hmem⟩ := modeName_of_known h
  obtain ⟨current, hcurrent, hcurrentMem⟩ := modeName_of_known (known_currentModeId h)
  refine ⟨⟨name, ?_, hmem⟩, current, ?_, hcurrentMem⟩
  · rw [getDefaultDisplayMode, hname]
    rfl
  · rw [getCurrentDisplayMode, hcurrent]
    rfl

/-- A start of the service puts the panel into the default mode, if there is one in the file and
the panel takes it. -/
theorem currentModeId_construct {s : DisplayModes} {streams : Streams}
    (hread : (extract s.defaultFile).isSome = true) (hopens : streams.mode.opens = true)
    (hwritten : streams.mode.written = true) :
    (s.construct streams).currentModeId = s.storedMode := by
  obtain ⟨value, hvalue⟩ := Option.isSome_iff_exists.mp hread
  have hstored : s.storedMode = if known value = true then value else 0 := by
    rw [storedMode, hvalue]
  have hknown := s.known_storedMode
  have hset : ∀ s : DisplayModes, known s.mDefaultModeId = true →
      (s.setDisplayMode s.mDefaultModeId false streams).2.currentModeId = s.mDefaultModeId := by
    intro s h
    have hpanel : (s.setDisplayMode s.mDefaultModeId false streams).2 =
        { s with modeFile := some (toStr s.mDefaultModeId) } := by
      rw [setDisplayMode, h, hopens, afterMode, if_pos hwritten]
      rfl
    rw [hpanel, currentModeId, extract, Option.bind_some, stoi_toStr]
    exact if_pos h
  rw [hstored] at hknown ⊢
  rw [construct, hvalue]
  dsimp only
  split
  next h =>
    rw [if_pos h] at hknown
    exact hset _ hknown
  next h =>
    exact hset _ rfl

/-! ## Runs -/

/-- However often the service starts and whatever is lost on the way to its files, it reports modes
that it lists, and its default is the one that was announced last since it started, or else the one
that was stored last before. -/
theorem default_mode_survives (modeFile defaultFile : Option String) (first streams : Streams)
    (before : List DisplayOp) {after : List DisplayOp}
    (hafter : ∀ op ∈ after, op.restarts = false) :
    let start := construct { modeFile, defaultFile } first
    (run next start (before ++ .restart streams :: after)).Reports ∧
      (run next start (before ++ .restart streams :: after)).mDefaultModeId =
        latest DisplayOp.announced (latest DisplayOp.stored start.storedMode before) after ∧
      ((extract (run next start before).defaultFile).isSome = true →
        streams.mode.opens = true → streams.mode.written = true →
        (run next start (before ++ [.restart streams])).currentModeId =
          latest DisplayOp.stored start.storedMode before) := by
  intro start
  have hstart : known start.mDefaultModeId = true := by
    rw [(construct_registers _ first).1]
    exact known_storedMode _
  refine ⟨reports_of_known (known_run hstart _), ?_, fun hread hopens hwritten => ?_⟩
  · rw [run_append, run_cons, mDefaultModeId_run _ hafter, next, (construct_registers _ streams).1,
      storedMode_run]
  · rw [run_append, run_cons, run_nil, next, currentModeId_construct hread hopens hwritten,
      storedMode_run]

/-- The default is set twice, the second time without reaching the file. -/
def lostDefault : List DisplayOp :=
  [.setDisplayMode 2 true {}, .setDisplayMode 4 true { default := { written := false } }]

theorem default_mode_survives_lostDefault :
    let start := construct { defaultFile := some "3" } {}
    (run next start (lostDefault ++ .restart {} :: [.setDisplayMode 5 true {}])).Reports ∧
      (run next start
        (lostDefault ++ .restart {} :: [.setDisplayMode 5 true {}])).mDefaultModeId =
          latest DisplayOp.announced (latest DisplayOp.stored start.storedMode lostDefault)
            [.setDisplayMode 5 true {}] ∧
      ((extract (run next start lostDefault).defaultFile).isSome = true → true = true →
        true = true → (run next start (lostDefault ++ [.restart {}])).currentModeId =
          latest DisplayOp.stored start.storedMode lostDefault) :=
  default_mode_survives none (some "3") {} {} lostDefault (by decide)

end DisplayModes

end LgeHardware.Display
