import LgeHardware.Foundation.Hexadecimal
import LgeHardware.Foundation.Latest
import LgeHardware.Light.Backlight

/-! # What the lights show after a run

Each of the three lights behind the LED keeps the state that it was set to last. The LED is told
to show the first of them that is lit, or nothing, and the text it is told that with can be read
back. The panels are told the brightness of the last backlight. Neither depends on the other.
-/

namespace LgeHardware.Light

open LgeHardware.Foundation

/-! ## The LED as an observer sees it -/

/-- What an LED shows. -/
inductive Led
  | off
  | steady (color : Nat)
  | blinking (color : Nat) (onMs offMs : Int32)
  deriving DecidableEq, Repr

namespace Led

/-- The 24 bits of a colour. -/
def rgb (state : HwLightState) : Nat :=
  (state.color &&& (0x00ffffff : Int32)).toUInt32.toNat

/-- A lit state is shown steadily, unless it is timed and has a time to be dark. -/
def ofState (state : HwLightState) : Led :=
  if state.flashMode = .timed ∧ 0 < state.flashOffMs then
    blinking (rgb state) state.flashOnMs state.flashOffMs
  else steady (rgb state)

/-- What a write tells the LED, as far as it is one of the two forms. -/
def read : Write → Option Led
  | (_, .int _) => none
  | (path, .text text) =>
      match text.toList.splitOn ',' with
      | [color] =>
          if path = led ++ onoffPattern then
            (leadingNatAnyBase color).map fun c => if c = 0 then off else steady c
          else none
      | [color, onMs, offMs] =>
          if path = led ++ blinkPattern then
            (leadingNatAnyBase color).bind fun c =>
              (stoi (String.ofList onMs)).bind fun on =>
                (stoi (String.ofList offMs)).map fun off => blinking c on off
          else none
      | _ => none

end Led

/-! ## Texts -/

/-- A state is lit if its colour is not black, whatever the alpha. -/
theorem isLit_iff (state : HwLightState) : isLit state = true ↔ Led.rgb state ≠ 0 := by
  have hzero : Led.rgb state = 0 ↔ state.color &&& (0x00ffffff : Int32) = 0 := by
    rw [Led.rgb, ← UInt32.toNat_zero, UInt32.toNat_inj]
    constructor
    · intro h
      rw [← Int32.toInt32_toUInt32 (state.color &&& (0x00ffffff : Int32)), h]
      rfl
    · intro h
      rw [h]
      rfl
  rw [isLit, decide_eq_true_eq]
  exact not_congr hzero.symm

theorem toList_hexColor (color : UInt32) : (hexColor color).toList =
    '0' :: 'x' :: (Nat.toDigits 16 color.toNat).leftpad 6 '0' := by
  simp [hexColor]

theorem allHex_leftpad (n : Nat) : AllHex ((Nat.toDigits 16 n).leftpad 6 '0') :=
  (allHex_zeros _).append (allHex_toDigits n)

theorem leadingNatAnyBase_hexColor (color : UInt32) :
    leadingNatAnyBase (hexColor color).toList = some color.toNat := by
  have hne : (Nat.toDigits 16 color.toNat).leftpad 6 '0' ≠ [] := by
    rw [List.leftpad]
    exact List.append_ne_nil_of_right_ne_nil _ Nat.toDigits_ne_nil
  rw [toList_hexColor, leadingNatAnyBase_hex hne (allHex_leftpad _), leadingHex_leftpad]

theorem comma_not_mem_hexColor (color : UInt32) : ',' ∉ (hexColor color).toList := by
  rw [toList_hexColor]
  intro hc
  rcases List.mem_cons.mp hc with hc | hc
  · exact absurd hc (by decide)
  · rcases List.mem_cons.mp hc with hc | hc
    · exact absurd hc (by decide)
    · exact absurd (allHex_leftpad _ ',' hc) (by decide)

/-- A text with one field. -/
theorem splitOn_hexColor (color : UInt32) :
    (hexColor color).toList.splitOn ',' = [(hexColor color).toList] := by
  have hfields : ([','].intercalate [(hexColor color).toList]).splitOn ',' =
      [(hexColor color).toList] :=
    List.splitOn_intercalate ',' (by simpa using comma_not_mem_hexColor color) (by simp)
  simpa using hfields

/-- A text with three fields. -/
theorem splitOn_pattern (color : UInt32) (onMs offMs : Int32) :
    (hexColor color ++ "," ++ toString onMs.toInt ++ "," ++ toString offMs.toInt).toList.splitOn
      ',' = [(hexColor color).toList, (toStr onMs).toList, (toStr offMs).toList] := by
  have hjoined : (hexColor color ++ "," ++ toString onMs.toInt ++ "," ++
      toString offMs.toInt).toList = [','].intercalate
        [(hexColor color).toList, (toStr onMs).toList, (toStr offMs).toList] := by
    have hcomma : ",".toList = [','] := rfl
    simp only [String.toList_append, hcomma, List.intercalate_cons_cons,
      List.intercalate_singleton, List.append_assoc, toStr]
  rw [hjoined]
  refine List.splitOn_intercalate _ ?_ (List.cons_ne_nil _ _)
  intro field hfield
  simp only [List.mem_cons, List.not_mem_nil, or_false] at hfield
  rcases hfield with rfl | rfl | rfl
  · exact comma_not_mem_hexColor color
  · exact comma_not_mem_toStr onMs
  · exact comma_not_mem_toStr offMs

/-! ## What is written can be read back -/

/-- The writes for a lit state end with one that tells the LED what the state is. -/
theorem read_setLightLocked {state : HwLightState} (hlit : isLit state = true) :
    ((setLightLocked state).getLast?).bind Led.read = some (Led.ofState state) := by
  have hcolor : Led.rgb state ≠ 0 := (isLit_iff state).mp hlit
  have htimes : 0 < (flashTimes state).2 ↔ state.flashMode = .timed ∧ 0 < state.flashOffMs := by
    rw [flashTimes]
    cases state.flashMode with
    | timed => simp
    | none => simp
    | other value =>
        simp only [reduceCtorEq, false_and, iff_false]
        decide
  rw [setLightLocked, Led.ofState]
  dsimp only
  split
  next hsteady =>
    rw [if_neg (mt htimes.mpr (Int32.not_lt.mpr hsteady)), List.getLast?_singleton,
      Option.bind_some, Led.read]
    simp only [splitOn_hexColor, leadingNatAnyBase_hexColor, Option.map_some, if_true]
    exact congrArg some (if_neg hcolor)
  next hblinking =>
    obtain ⟨hmode, hoff⟩ := htimes.mp (Int32.not_le.mp hblinking)
    rw [if_pos ⟨hmode, hoff⟩, List.getLast?_singleton, Option.bind_some, Led.read]
    simp only [splitOn_pattern, leadingNatAnyBase_hexColor, String.ofList_toList, stoi_toStr,
      Option.map_some, Option.bind_some, if_true]
    simp only [flashTimes, hmode, Led.rgb]

/-- The writes that turn the LED off end with one that tells it so. -/
theorem read_off (write : Write) :
    ([write, (led ++ onoffPattern, .text "0x0")].getLast?).bind Led.read = some .off := by
  have hsplit : "0x0".toList.splitOn ',' = ["0x0".toList] := by decide
  have hzero : leadingNatAnyBase "0x0".toList = some 0 := by decide
  rw [List.getLast?_cons_cons, List.getLast?_singleton, Option.bind_some, Led.read]
  simp only [hsplit, hzero, Option.map_some, if_true]

/-! ## Runs -/

/-- A call of `setLightState`. -/
abbrev LightCall := LightType × HwLightState

/-- The lights that the LED stands for, the one that goes first in front. -/
def ledLights : List LightType := [.notifications, .attention, .battery]

/-- What a call asks of a light. -/
def requested (type : LightType) (call : LightCall) : Option HwLightState :=
  if call.1 = type then some call.2 else none

/-- What the LED is to show: the first light that is lit by what was last asked of it. -/
def shown (calls : List LightCall) : Led :=
  match (ledLights.map fun type => latest (requested type) {} calls).find? isLit with
  | some state => .ofState state
  | none => .off

/-- A write that the LED gets. -/
def toLed (write : Write) : Bool :=
  write.1 = led ++ onoffPattern || write.1 = led ++ blinkPattern

/-- A write that a panel gets. -/
def toPanel (panel : Panel) (write : Write) : Bool := write.1 = panel.path ++ brightness

/-- The brightness that a panel with a maximum gets for a state. -/
def panelValue (max : Int32) (state : HwLightState) : Int32 :=
  if rgbToBrightness state < 35 then rgbToBrightness state * 2
  else rgbToBrightness state * max / 255

/-- What a panel with a maximum is to show: the last backlight. -/
def panelShown (max : Int32) (calls : List LightCall) : Value :=
  .int (panelValue max (latest (requested .backlight) {} calls))

namespace Lights

/-- The service after a call. -/
def next (lights : Lights) (call : LightCall) : Lights :=
  ((lights.setLightState call.1 call.2).map Prod.fst).getD lights

/-- The writes of a call. -/
def writes (lights : Lights) (call : LightCall) : List Write :=
  ((lights.setLightState call.1 call.2).map Prod.snd).getD []

/-- What the LED is to show for the states that the service keeps. -/
def display (lights : Lights) : Led :=
  match [lights.mNotificationState, lights.mAttentionState, lights.mBatteryState].find? isLit with
  | some state => .ofState state
  | none => .off

variable {lights : Lights}

/-! ### What a call does -/

theorem mNotificationState_next (call : LightCall) : (lights.next call).mNotificationState =
    (requested .notifications call).getD lights.mNotificationState := by
  obtain ⟨type, state⟩ := call
  cases type <;> rfl

theorem mAttentionState_next (call : LightCall) : (lights.next call).mAttentionState =
    (requested .attention call).getD lights.mAttentionState := by
  obtain ⟨type, state⟩ := call
  cases type <;> rfl

theorem mBatteryState_next (call : LightCall) : (lights.next call).mBatteryState =
    (requested .battery call).getD lights.mBatteryState := by
  obtain ⟨type, state⟩ := call
  cases type <;> rfl

/-- No call changes what is known of the panels. -/
theorem maxOf_next (call : LightCall) (panel : Panel) :
    (lights.next call).maxOf panel = lights.maxOf panel := by
  obtain ⟨type, state⟩ := call
  cases type <;> cases panel <;> rfl

/-- No call changes the maximum of a panel. -/
theorem maxOf_run (calls : List LightCall) (panel : Panel) :
    (run next lights calls).maxOf panel = lights.maxOf panel := by
  induction calls generalizing lights with
  | nil => rfl
  | cons call rest ih => rw [run_cons, ih, maxOf_next]

/-- A call for one of the lights of the LED writes what there is to show after it. -/
theorem writes_of_led {call : LightCall} (hcall : call.1 ∈ ledLights) :
    lights.writes call = (lights.next call).checkLightStateLocked := by
  obtain ⟨type, state⟩ := call
  simp only [ledLights, List.mem_cons, List.not_mem_nil, or_false] at hcall
  rcases hcall with rfl | rfl | rfl <;> rfl

theorem writes_of_backlight (state : HwLightState) : lights.writes (.backlight, state) =
    [(bl ++ brightness, .int (panelValue lights.mMaxBrightness state)),
      (blEx ++ brightness, .int (panelValue lights.mMaxBrightnessEx state))] := by
  simp only [writes, setLightState, mLights, handleBacklight, Option.map_some, Option.getD_some,
    apply_ite Prod.fst, apply_ite Prod.snd, panelValue]

/-- A call for a light that there is not does nothing. -/
theorem writes_of_other {call : LightCall} (hled : call.1 ∉ ledLights)
    (hbacklight : call.1 ≠ .backlight) : lights.writes call = [] := by
  obtain ⟨type, state⟩ := call
  cases type with
  | backlight => exact absurd rfl hbacklight
  | other value => rfl
  | battery | notifications | attention => simp [ledLights] at hled

/-! ### What is written last -/

/-- The states that the service keeps are the ones that were asked for last. -/
theorem display_run (read : String → Option Int32) (calls : List LightCall) :
    (run next (construct read) calls).display = shown calls := by
  have hnotification : (run next (construct read) calls).mNotificationState = _ :=
    view_run (fun _ call => mNotificationState_next call) _ calls
  have hattention : (run next (construct read) calls).mAttentionState = _ :=
    view_run (fun _ call => mAttentionState_next call) _ calls
  have hbattery : (run next (construct read) calls).mBatteryState = _ :=
    view_run (fun _ call => mBatteryState_next call) _ calls
  rw [display, hnotification, hattention, hbattery]
  rfl

theorem filter_toLed_checkLightStateLocked :
    lights.checkLightStateLocked.filter toLed = lights.checkLightStateLocked := by
  have hset : ∀ state, (setLightLocked state).filter toLed = setLightLocked state := by
    intro state
    rw [setLightLocked]
    dsimp only
    split <;> rfl
  rw [checkLightStateLocked]
  split
  next => exact hset _
  next =>
    split
    next => exact hset _
    next =>
      split
      next => exact hset _
      next => rfl

/-- The LED is told what there is to show. -/
theorem lastTold_checkLightStateLocked :
    lastTold toLed Led.read lights.checkLightStateLocked = some lights.display := by
  rw [lastTold, filter_toLed_checkLightStateLocked, checkLightStateLocked, display]
  cases hnotification : isLit lights.mNotificationState with
  | true =>
      rw [if_pos rfl, List.find?_cons_of_pos hnotification]
      exact read_setLightLocked hnotification
  | false =>
      rw [List.find?_cons_of_neg (Bool.not_eq_true _ ▸ hnotification), if_neg Bool.false_ne_true]
      cases hattention : isLit lights.mAttentionState with
      | true =>
          rw [if_pos rfl, List.find?_cons_of_pos hattention]
          exact read_setLightLocked hattention
      | false =>
          rw [List.find?_cons_of_neg (Bool.not_eq_true _ ▸ hattention), if_neg Bool.false_ne_true]
          cases hbattery : isLit lights.mBatteryState with
          | true =>
              rw [if_pos rfl, List.find?_cons_of_pos hbattery]
              exact read_setLightLocked hbattery
          | false =>
              rw [List.find?_cons_of_neg (Bool.not_eq_true _ ▸ hbattery),
                if_neg Bool.false_ne_true]
              exact read_off _

/-- What is asked of another light does not change what was asked of one. -/
theorem latest_requested_append {type : LightType} {call : LightCall} (hother : call.1 ≠ type)
    (before : List LightCall) :
    latest (requested type) {} (before ++ [call]) = latest (requested type) {} before := by
  rw [latest_append, latest_cons, requested, if_neg hother]
  rfl

theorem shown_append {call : LightCall} (hcall : call.1 ∉ ledLights) (before : List LightCall) :
    shown (before ++ [call]) = shown before := by
  have hsame : (ledLights.map fun type => latest (requested type) {} (before ++ [call])) =
      ledLights.map fun type => latest (requested type) {} before := by
    refine List.map_congr_left fun type htype => latest_requested_append ?_ before
    exact fun heq => hcall (heq ▸ htype)
  rw [shown, hsame, shown]

theorem filter_toLed_writes {call : LightCall} (hcall : call.1 ∉ ledLights) :
    (lights.writes call).filter toLed = [] := by
  by_cases hbacklight : call.1 = .backlight
  · obtain ⟨type, state⟩ := call
    subst hbacklight
    rw [writes_of_backlight]
    rfl
  · rw [writes_of_other hcall hbacklight]
    rfl

theorem filter_toPanel_writes {call : LightCall} (hcall : call.1 ≠ .backlight) (panel : Panel) :
    (lights.writes call).filter (toPanel panel) = [] := by
  by_cases hled : call.1 ∈ ledLights
  · have hset : ∀ write : Write, toLed write = true → toPanel panel write = false := by
      intro write hwrite
      rw [toLed, Bool.or_eq_true, decide_eq_true_eq, decide_eq_true_eq] at hwrite
      rw [toPanel]
      rcases hwrite with heq | heq <;> rw [heq] <;> cases panel <;> decide
    rw [writes_of_led hled, List.filter_eq_nil_iff]
    intro write hwrite
    rw [← filter_toLed_checkLightStateLocked, List.mem_filter] at hwrite
    rw [hset write hwrite.2]
    exact Bool.false_ne_true
  · rw [writes_of_other hled hcall]
    rfl

theorem lastTold_writes_of_backlight (panel : Panel) (state : HwLightState) :
    lastTold (toPanel panel) (some ·.2) (lights.writes (.backlight, state)) =
      some (.int (panelValue (lights.maxOf panel) state)) := by
  rw [writes_of_backlight]
  cases panel <;> rfl

/-- The LED shows the first light that is lit by what was last asked of it, and either panel has
the brightness of the last backlight, whatever calls for which lights came in which order. -/
theorem lights_show_latest (read : String → Option Int32) (calls : List LightCall) :
    let log := outputs next writes (construct read) calls
    lastTold toLed Led.read log =
        (if calls.any (·.1 ∈ ledLights) then some (shown calls) else none) ∧
      (∀ panel, lastTold (toPanel panel) (some ·.2) log =
        if calls.any (·.1 = .backlight) then
          some (panelShown ((construct read).maxOf panel) calls)
        else none) := by
  refine ⟨lastTold_outputs ?_ ?_ calls, fun panel => lastTold_outputs ?_ ?_ calls⟩
  · intro before call hcall
    rw [writes_of_led (of_decide_eq_true hcall), lastTold_checkLightStateLocked, ← display_run read,
      run_append]
    rfl
  · intro before call hcall
    have hnot : call.1 ∉ ledLights := of_decide_eq_false hcall
    exact ⟨filter_toLed_writes hnot, shown_append hnot before⟩
  · intro before call hcall
    obtain ⟨type, state⟩ := call
    obtain rfl : type = .backlight := of_decide_eq_true hcall
    rw [lastTold_writes_of_backlight, maxOf_run, panelShown, latest_append]
    rfl
  · intro before call hcall
    have hnot : call.1 ≠ .backlight := of_decide_eq_false hcall
    refine ⟨filter_toPanel_writes hnot panel, ?_⟩
    rw [panelShown, latest_requested_append hnot, panelShown]

end Lights

end LgeHardware.Light
