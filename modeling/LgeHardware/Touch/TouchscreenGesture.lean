import LgeHardware.Foundation.Decimal
import LgeHardware.Foundation.Latest
import LgeHardware.Foundation.OrdMap

/-! # Touchscreen gestures

The driver says which of six swipes it can recognise. The service numbers those from zero, shows
the numbers to the framework, and turns a number back into the swipe when a gesture is switched.
So every swipe is as it was asked for last, under whatever number it is shown.
-/

namespace LgeHardware.Touch

open LgeHardware.Foundation

/-! ## The service -/

structure GestureInfo where
  swipeId : Int32
  keycode : Int32
  name : String
  deriving DecidableEq, Repr

def kGestureNames : List String :=
  ["Swipe Down", "Swipe Up", "Swipe Right", "Swipe Left", "Swipe Bottom Right",
    "Swipe Bottom Left"]

/-- The lines by which the driver says that it has a swipe. -/
def availableLines : List String := ["0 1", "1 1", "2 1", "3 1", "4 1", "5 1"]

/-- `gestureAvailable` after one more line of the driver. -/
def readLine (gestureAvailable : List Bool) (line : String) : List Bool :=
  match availableLines.idxOf? line with
  | some i => gestureAvailable.set i true
  | none => gestureAvailable

/-- `gestureAvailable` after all lines of the driver. -/
def readLines (lines : List String) : List Bool := lines.foldl readLine (List.replicate 6 false)

/-- `GestureInfo g` of a swipe. -/
def gestureInfo (i : Nat) : GestureInfo :=
  { swipeId := Int32.ofNat i
    keycode := Int32.ofNat (247 + i)
    name := kGestureNames.getD i "" }

/-- The loop of the constructor from swipe `i` on, which gives the number `j` to the next. -/
def fillGestures (gestureAvailable : List Bool) :
    List Nat → Int → Std.ExtTreeMap Int GestureInfo → Std.ExtTreeMap Int GestureInfo
  | [], _, kGestureInfoMap => kGestureInfoMap
  | i :: rest, j, kGestureInfoMap =>
      if gestureAvailable.getD i false then
        fillGestures gestureAvailable rest (j + 1) (kGestureInfoMap.insertIfNew j (gestureInfo i))
      else fillGestures gestureAvailable rest j kGestureInfoMap

/-- The statuses that the service returns. -/
inductive GestureStatus
  | ok
  | transactionFailed
  deriving DecidableEq, Repr

structure TouchscreenGesture where
  kGestureInfoMap : Std.ExtTreeMap Int GestureInfo

/-- A call of `setGestureEnabled` for a gesture of the id, and what becomes of its stream. -/
structure GestureCall where
  id : Int
  enabled : Bool
  opens : Bool := true
  written : Bool := true
  deriving DecidableEq, Repr

namespace TouchscreenGesture

/-- The constructor, with the lines of the driver. -/
def construct (lines : List String) : TouchscreenGesture where
  kGestureInfoMap := fillGestures (readLines lines) (List.range 6) 0 ∅

/-- `getSupportedGestures`, with the id, the name and the keycode of each gesture. -/
def getSupportedGestures (t : TouchscreenGesture) : List (Int × String × Int32) :=
  t.kGestureInfoMap.toList.map fun (id, info) => (id, info.name, info.keycode)

/-- What is put into the stream of a swipe. -/
def gestureOutput (swipeId : Int32) (enabled : Bool) : String :=
  toStr swipeId ++ " " ++ if enabled then "1" else "0"

/-- `setGestureEnabled`, with the lines that reach the driver. The stream only knows whether the
file could be opened, since it is flushed when it is closed. -/
def setGestureEnabled (t : TouchscreenGesture) (call : GestureCall) : GestureStatus × List String :=
  match t.kGestureInfoMap[call.id]? with
  | none => (.ok, [])
  | some info =>
      if call.opens then
        (.ok, if call.written then [gestureOutput info.swipeId call.enabled] else [])
      else (.transactionFailed, [])

end TouchscreenGesture

/-! ## The swipes of the driver -/

theorem length_readLine (gestureAvailable : List Bool) (line : String) :
    (readLine gestureAvailable line).length = gestureAvailable.length := by
  rw [readLine]
  split
  · exact List.length_set
  · rfl

theorem idxOf?_availableLines {line : String} {i : Nat} (hi : i < availableLines.length) :
    availableLines.idxOf? line = some i ↔ line = availableLines[i] := by
  have hnodup : availableLines.Nodup := by decide
  rw [List.idxOf?_eq_some_iff]
  constructor
  · intro h
    obtain ⟨_, h, _⟩ := h
    exact h.symm
  · intro h
    subst h
    refine ⟨hi, rfl, ?_⟩
    intro j hj heq
    have := hnodup.getElem_inj_iff.mp heq
    omega

/-- A line makes the swipe available that it is about, and no other. -/
theorem getD_readLine {gestureAvailable : List Bool} (hlength : gestureAvailable.length = 6)
    (line : String) {i : Nat} (hi : i < availableLines.length) :
    (readLine gestureAvailable line).getD i false = true ↔
      gestureAvailable.getD i false = true ∨ line = availableLines[i] := by
  have hsize : i < gestureAvailable.length := hlength ▸ hi
  rw [readLine, ← idxOf?_availableLines hi]
  cases hj : availableLines.idxOf? line with
  | none => simp
  | some j =>
      by_cases h : j = i
      · subst h
        simp [List.getD_eq_getElem?_getD, hsize]
      · simp [List.getD_eq_getElem?_getD, List.getElem?_set_ne h, h]

theorem getD_foldl_readLine (lines : List String) {gestureAvailable : List Bool}
    (hlength : gestureAvailable.length = 6) {i : Nat} (hi : i < availableLines.length) :
    (lines.foldl readLine gestureAvailable).getD i false = true ↔
      gestureAvailable.getD i false = true ∨ availableLines[i] ∈ lines := by
  induction lines generalizing gestureAvailable with
  | nil => simp
  | cons line rest ih =>
      rw [List.foldl_cons, ih (by rw [length_readLine, hlength]), getD_readLine hlength line hi,
        List.mem_cons, or_assoc, eq_comm (a := line)]

/-- The swipes that the driver has. -/
def availableSwipes (lines : List String) : List Nat :=
  (List.range 6).filter fun i => (readLines lines).getD i false

/-- A swipe is available if the driver said so in some line. -/
theorem availableSwipes_eq (lines : List String) : availableSwipes lines =
    (List.range 6).filter fun swipe => availableLines.getD swipe "" ∈ lines := by
  refine List.filter_congr fun swipe hswipe => ?_
  have hswipe : swipe < availableLines.length := List.mem_range.mp hswipe
  have hnone : (List.replicate 6 false).getD swipe false = false := by
    rw [List.getD_eq_getElem?_getD, List.getElem?_replicate]
    split <;> rfl
  have hread := @getD_foldl_readLine lines (List.replicate 6 false) rfl swipe hswipe
  rw [hnone, or_iff_right Bool.false_ne_true] at hread
  rw [List.getD_eq_getElem?_getD (l := availableLines), List.getElem?_eq_getElem hswipe, readLines]
  exact Bool.eq_iff_iff.mpr (hread.trans decide_eq_true_iff.symm)

theorem lt_of_mem_availableSwipes {lines : List String} {swipe : Nat}
    (h : swipe ∈ availableSwipes lines) : swipe < 6 :=
  List.mem_range.mp (List.mem_filter.mp h).1

/-! ## The numbers of the gestures -/

theorem fillGestures_of_lt {gestureAvailable : List Bool} {id j : Int} (hid : id < j)
    (swipes : List Nat) (m : Std.ExtTreeMap Int GestureInfo) :
    (fillGestures gestureAvailable swipes j m)[id]? = m[id]? := by
  induction swipes generalizing j m with
  | nil => rfl
  | cons i rest ih =>
      rw [fillGestures]
      split
      next =>
        rw [ih (by omega), Std.ExtTreeMap.getElem?_insertIfNew_of_eq, if_neg fun h => by omega]
      next => exact ih hid m

/-- From a number on, the swipes that the driver has get the numbers in their order. -/
theorem getElem?_fillGestures {gestureAvailable : List Bool} (swipes : List Nat) {j : Int}
    {m : Std.ExtTreeMap Int GestureInfo} (hfresh : ∀ id, j ≤ id → m[id]? = none) (k : Nat) :
    (fillGestures gestureAvailable swipes j m)[j + k]? =
      (swipes.filter fun i => gestureAvailable.getD i false)[k]?.map gestureInfo := by
  induction swipes generalizing j m k with
  | nil => exact hfresh _ (by omega)
  | cons i rest ih =>
      rw [fillGestures, List.filter_cons]
      split
      next hi =>
        cases k with
        | zero =>
            have hnew : j ∉ m := by
              rw [Std.ExtTreeMap.mem_iff_isSome_getElem?, hfresh j le_rfl]
              exact Bool.false_ne_true
            rw [fillGestures_of_lt (by omega), Std.ExtTreeMap.getElem?_insertIfNew_of_eq, if_pos]
            · rfl
            · exact ⟨by simp, hnew⟩
        | succ k =>
            have hnext := @ih (j + 1) (m.insertIfNew j (gestureInfo i)) (by
              intro id hid
              rw [Std.ExtTreeMap.getElem?_insertIfNew_of_eq, if_neg fun h => by omega]
              exact hfresh id (by omega)) k
            rw [List.getElem?_cons_succ, ← hnext]
            congr 1
            push_cast
            omega
      next => exact ih hfresh k

/-- The swipe that has a number. -/
def numbered (lines : List String) (id : Int) : Option Nat :=
  if id < 0 then none else (availableSwipes lines)[id.toNat]?

namespace TouchscreenGesture

theorem getElem?_construct (lines : List String) (id : Int) :
    (construct lines).kGestureInfoMap[id]? = (numbered lines id).map gestureInfo := by
  rw [construct, numbered]
  by_cases hid : id < 0
  · rw [if_pos hid, fillGestures_of_lt hid]
    exact Std.ExtTreeMap.getElem?_empty
  · have hfilled := @getElem?_fillGestures (readLines lines) (List.range 6) 0 ∅
      (fun _ _ => Std.ExtTreeMap.getElem?_empty) id.toNat
    rw [if_neg hid, ← availableSwipes.eq_def] at *
    rw [← hfilled]
    congr 1
    omega

theorem mem_getSupportedGestures {lines : List String} {id : Int} {name : String}
    {keycode : Int32} :
    (id, name, keycode) ∈ (construct lines).getSupportedGestures ↔
      ∃ swipe, numbered lines id = some swipe ∧ name = (gestureInfo swipe).name ∧
        keycode = (gestureInfo swipe).keycode := by
  rw [getSupportedGestures, List.mem_map]
  constructor
  · intro h
    obtain ⟨⟨id', info⟩, hentry, heq⟩ := h
    rw [Std.ExtTreeMap.mem_toList_iff_getElem?_eq_some, getElem?_construct,
      Option.map_eq_some_iff] at hentry
    obtain ⟨swipe, hswipe, rfl⟩ := hentry
    simp only [Prod.mk.injEq] at heq
    obtain ⟨rfl, rfl, rfl⟩ := heq
    exact ⟨swipe, hswipe, rfl, rfl⟩
  · intro h
    obtain ⟨swipe, hswipe, rfl, rfl⟩ := h
    refine ⟨(id, gestureInfo swipe), ?_, rfl⟩
    rw [Std.ExtTreeMap.mem_toList_iff_getElem?_eq_some, getElem?_construct, hswipe]
    rfl

end TouchscreenGesture

theorem numbered_lt {lines : List String} {id : Int} {swipe : Nat}
    (h : numbered lines id = some swipe) : swipe < 6 := by
  rw [numbered] at h
  split at h
  · cases h
  · exact lt_of_mem_availableSwipes (List.mem_of_getElem? h)

/-- The gestures that the lines of the driver stand for: its swipes in their order, numbered from
zero on. -/
def listedGestures (lines : List String) : List (Int × String × Int32) :=
  ((List.range 6).filter fun swipe => availableLines.getD swipe "" ∈ lines).zipIdx.map
    fun (swipe, number) => (number, (gestureInfo swipe).name, (gestureInfo swipe).keycode)

namespace TouchscreenGesture

theorem toList_construct (lines : List String) : (construct lines).kGestureInfoMap.toList =
    (availableSwipes lines).zipIdx.map
      fun (swipe, number) => ((number : Int), gestureInfo swipe) := by
  have hsnd : ((availableSwipes lines).zipIdx.map Prod.snd).Pairwise (· < ·) := by
    rw [List.zipIdx_map_snd]
    exact List.pairwise_lt_range'
  apply Std.ExtTreeMap.toList_eq_of_ordered
  · rw [List.pairwise_map]
    refine (List.pairwise_map.mp hsnd).imp fun {first second} hlt => ?_
    exact compare_lt_iff_lt.mpr (Int.ofNat_lt.mpr hlt)
  · intro id info
    rw [getElem?_construct, numbered, List.mem_map, Option.map_eq_some_iff]
    constructor
    · rintro ⟨⟨swipe, number⟩, hmem, heq⟩
      cases heq
      refine ⟨swipe, ?_, rfl⟩
      rw [if_neg (by omega)]
      exact List.mem_zipIdx_iff_getElem?.mp hmem
    · rintro ⟨swipe, hnumber, rfl⟩
      split at hnumber
      next => cases hnumber
      next hid =>
        refine ⟨(swipe, id.toNat), List.mem_zipIdx_iff_getElem?.mpr hnumber, ?_⟩
        dsimp only
        rw [Int.toNat_of_nonneg (not_lt.mp hid)]

/-- The service shows the gestures that the lines of the driver stand for. -/
theorem getSupportedGestures_construct (lines : List String) :
    (construct lines).getSupportedGestures = listedGestures lines := by
  rw [getSupportedGestures, toList_construct, List.map_map, availableSwipes_eq]
  rfl

/-- A number that no gesture has: nothing reaches the driver. -/
theorem setGestureEnabled_of_unlisted {lines : List String} {call : GestureCall}
    (hid : call.id ∉ (listedGestures lines).map Prod.fst) :
    (construct lines).setGestureEnabled call = (.ok, []) := by
  rw [setGestureEnabled]
  cases hinfo : (construct lines).kGestureInfoMap[call.id]? with
  | none => rfl
  | some info =>
      refine absurd ?_ hid
      rw [← getSupportedGestures_construct, getSupportedGestures, List.map_map]
      exact List.mem_map.mpr ⟨(call.id, info),
        Std.ExtTreeMap.mem_toList_iff_getElem?_eq_some.mpr hinfo, rfl⟩

end TouchscreenGesture

/-! ## What the driver is told -/

/-- What a line to the driver says: the swipe, and whether it is on. -/
def readGesture (line : String) : Option (Int32 × Bool) :=
  match line.toList.splitOn ' ' with
  | [swipe, on] => (stoi (String.ofList swipe)).map (·, decide (on = ['1']))
  | _ => none

namespace TouchscreenGesture

/-- A line to the driver says what was meant. -/
theorem readGesture_gestureOutput (swipeId : Int32) (enabled : Bool) :
    readGesture (gestureOutput swipeId enabled) = some (swipeId, enabled) := by
  have hfields : (gestureOutput swipeId enabled).toList =
      [' '].intercalate [(toStr swipeId).toList, [if enabled then '1' else '0']] := by
    rw [gestureOutput, String.toList_append, String.toList_append, List.append_assoc]
    cases enabled <;> simp [List.intercalate]
  have hspaces : ∀ field ∈ [(toStr swipeId).toList, [if enabled then '1' else '0']],
      ' ' ∉ field := by
    intro field hfield
    rcases List.mem_pair.mp hfield with rfl | rfl
    · exact not_mem_toStr (by decide) (by decide) swipeId
    · cases enabled <;> decide
  rw [readGesture, hfields, List.splitOn_intercalate ' ' hspaces (List.cons_ne_nil _ _)]
  dsimp only
  rw [String.ofList_toList, stoi_toStr]
  cases enabled <;> rfl

end TouchscreenGesture

/-- How the driver takes a line for a swipe. -/
def heard (swipe : Nat) (line : String) : Option Bool :=
  (readGesture line).bind fun (swipeId, enabled) =>
    if swipeId = Int32.ofNat swipe then some enabled else none

/-- What a call asks of the swipe that is shown under its number, if it reaches the driver. -/
def asked (lines : List String) (swipe : Nat) (call : GestureCall) : Option Bool :=
  let gesture := (call.id, (gestureInfo swipe).name, (gestureInfo swipe).keycode)
  if gesture ∈ (TouchscreenGesture.construct lines).getSupportedGestures ∧
      call.opens ∧ call.written then
    some call.enabled
  else none

theorem keycode_inj {i j : Nat} (hi : i < 6) (hj : j < 6)
    (h : (gestureInfo i).keycode = (gestureInfo j).keycode) : i = j := by
  have hall : ∀ i < 6, ∀ j < 6, Int32.ofNat (247 + i) = Int32.ofNat (247 + j) → i = j := by decide
  exact hall i hi j hj h

/-- No two gestures have one identifier. -/
theorem swipeId_eq_iff {i j : Nat} (hi : i < 6) (hj : j < 6) :
    (gestureInfo i).swipeId = Int32.ofNat j ↔ i = j := by
  have hall : ∀ i < 6, ∀ j < 6, Int32.ofNat i = Int32.ofNat j ↔ i = j := by decide
  exact hall i hi j hj

namespace TouchscreenGesture

/-- A gesture is shown under the numbers of its swipe. -/
theorem shown_iff {lines : List String} {id : Int} {swipe : Nat} (hswipe : swipe < 6) :
    (id, (gestureInfo swipe).name, (gestureInfo swipe).keycode) ∈
        (construct lines).getSupportedGestures ↔ numbered lines id = some swipe := by
  rw [mem_getSupportedGestures]
  constructor
  · intro h
    obtain ⟨other, hother, -, hkeycode⟩ := h
    rw [keycode_inj hswipe (numbered_lt hother) hkeycode, hother]
  · intro h
    exact ⟨swipe, h, rfl, rfl⟩

/-- A call is heard by the swipe that is shown under its number, and by no other. -/
theorem latest_setGestureEnabled (lines : List String) {swipe : Nat} (hswipe : swipe < 6)
    (initial : Bool) (call : GestureCall) :
    latest (heard swipe) initial ((construct lines).setGestureEnabled call).2 =
      (asked lines swipe call).getD initial := by
  rw [setGestureEnabled, getElem?_construct, asked]
  simp only [shown_iff hswipe]
  cases hnumber : numbered lines call.id with
  | none => simp
  | some other =>
      have hother := numbered_lt hnumber
      cases hopens : call.opens with
      | false => simp
      | true =>
          cases hwritten : call.written with
          | false => simp
          | true =>
              dsimp only [Option.map_some]
              rw [if_pos rfl, if_pos rfl, latest_cons, latest_nil, heard,
                readGesture_gestureOutput, Option.bind_some]
              simp [swipeId_eq_iff hother hswipe]

/-- Whatever the driver has, the service shows its swipes, numbered in their order from zero on, and
nothing else. A call with any other number reaches no driver, and after any calls every swipe is as
it was asked for last under a number that it is shown with. -/
theorem gestures_follow_calls (lines : List String) (calls : List GestureCall) :
    (construct lines).getSupportedGestures = listedGestures lines ∧
      (∀ call : GestureCall, call.id ∉ (listedGestures lines).map Prod.fst →
        (construct lines).setGestureEnabled call = (.ok, [])) ∧
      ∀ swipe < availableLines.length, ∀ initial,
        latest (heard swipe) initial
            (calls.flatMap fun call => ((construct lines).setGestureEnabled call).2) =
          latest (asked lines swipe) initial calls := by
  refine ⟨getSupportedGestures_construct lines, fun _ => setGestureEnabled_of_unlisted, ?_⟩
  intro swipe hswipe initial
  induction calls generalizing initial with
  | nil => rfl
  | cons call rest ih =>
      rw [List.flatMap_cons, latest_append, latest_setGestureEnabled lines hswipe, latest_cons, ih]

/-- With a driver that has the second and the fifth swipe only, the number one is the fifth, and
two is no number. -/
theorem gestures_follow_calls_secondNumber :
    let lines := ["1 1", "4 1"]
    let calls : List GestureCall := [⟨1, true, true, true⟩, ⟨0, false, true, true⟩]
    listedGestures lines = [(0, "Swipe Up", 248), (1, "Swipe Bottom Right", 251)] ∧
      (construct lines).setGestureEnabled ⟨2, true, true, true⟩ = (.ok, []) ∧
      latest (heard 4) false
          (calls.flatMap fun call => ((construct lines).setGestureEnabled call).2) =
        latest (asked lines 4) false calls := by
  obtain ⟨-, hother, hlatest⟩ := gestures_follow_calls ["1 1", "4 1"]
    [⟨1, true, true, true⟩, ⟨0, false, true, true⟩]
  exact ⟨by decide, hother ⟨2, true, true, true⟩ (by decide), hlatest 4 (by decide) false⟩

end TouchscreenGesture

end LgeHardware.Touch
