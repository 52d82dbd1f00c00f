import Mathlib.Algebra.Group.Int.Defs
import Mathlib.Tactic.Common

/-! # The lights

`setLightState` sets the brightness of both panels for the backlight. The attention, battery
and notification lights are one LED, which shows the first of them that is lit: notifications,
then attention, then battery.
-/

namespace LgeHardware.Light

/-- `FlashMode`. -/
inductive FlashMode
  | none
  | timed
  | other (value : Int32)
  deriving DecidableEq, Repr

/-- `HwLightState`, without the brightness mode. -/
structure HwLightState where
  color : Int32 := 0
  flashMode : FlashMode := .none
  flashOnMs : Int32 := 0
  flashOffMs : Int32 := 0
  deriving DecidableEq, Repr

/-- `LightType`. -/
inductive LightType
  | backlight
  | battery
  | notifications
  | attention
  | other (value : Int32)
  deriving DecidableEq, Repr

/-! ## Nodes -/

/-- `BL`. -/
def bl : String := "/sys/class/backlight/panel0-backlight/"
/-- `BL_EX`. -/
def blEx : String := "/sys/class/backlight/panel0-backlight-ex/"
/-- `LED`. -/
def led : String := "/sys/class/lg_rgb_led/use_patterns/"

/-- `BRIGHTNESS`. -/
def brightness : String := "brightness"
/-- `MAX_BRIGHTNESS`. -/
def maxBrightness : String := "max_brightness"

/-- `BLINK_PATTERN`. -/
def blinkPattern : String := "blink_patterns"
/-- `ONOFF_PATTERN`. -/
def onoffPattern : String := "onoff_patterns"

/-- What is written to a node. -/
inductive Value
  | int (value : Int32)
  | text (value : String)
  deriving DecidableEq, Repr

/-- A call of `set`: the path and the value. -/
abbrev Write := String × Value

/-! ## The service -/

/-- `Lights`. -/
structure Lights where
  mMaxBrightness : Int32 := 255
  mMaxBrightnessEx : Int32 := 255
  mAttentionState : HwLightState := {}
  mBatteryState : HwLightState := {}
  mNotificationState : HwLightState := {}
  deriving DecidableEq, Repr

/-- The constructor. `read` is what a number is read as from a node, if there is one. -/
def Lights.construct (read : String → Option Int32) : Lights :=
  let mMaxBrightness := (read (bl ++ maxBrightness)).getD (-1)
  let mMaxBrightnessEx := (read (blEx ++ maxBrightness)).getD (-1)
  { mMaxBrightness := if mMaxBrightness < 0 then 255 else mMaxBrightness
    mMaxBrightnessEx := if mMaxBrightnessEx < 0 then 255 else mMaxBrightnessEx }

/-- A byte of a colour. -/
def channel (color shift : Int32) : Int32 := color >>> shift &&& 0x00ff

def rgbToBrightness (state : HwLightState) : Int32 :=
  let color : Int32 := state.color &&& 0x00ffffff
  (77 * channel color 16 + 150 * channel color 8 + 29 * channel color 0) >>> (8 : Int32)

def isLit (state : HwLightState) : Bool := state.color &&& (0x00ffffff : Int32) ≠ 0

/-- `0x%06x`. -/
def hexColor (color : UInt32) : String :=
  "0x" ++ String.ofList ((Nat.toDigits 16 color.toNat).leftpad 6 '0')

/-- The times of a flash, on and off. -/
def flashTimes (state : HwLightState) : Int32 × Int32 :=
  match state.flashMode with
  | .timed => (state.flashOnMs, state.flashOffMs)
  | .none => (0, 0)
  | .other _ => (-1, -1)

def setLightLocked (state : HwLightState) : List Write :=
  let (onMS, offMS) := flashTimes state
  let color := hexColor (state.color &&& (0x00ffffff : Int32)).toUInt32
  if offMS ≤ 0 then [(led ++ onoffPattern, .text color)]
  else
    [(led ++ blinkPattern, .text (color ++ "," ++ toString onMS.toInt ++ "," ++
      toString offMS.toInt))]

namespace Lights

variable (lights : Lights)

def checkLightStateLocked : List Write :=
  if isLit lights.mNotificationState then setLightLocked lights.mNotificationState
  else if isLit lights.mAttentionState then setLightLocked lights.mAttentionState
  else if isLit lights.mBatteryState then setLightLocked lights.mBatteryState
  else [(led ++ blinkPattern, .text "0x0,-1,-1"), (led ++ onoffPattern, .text "0x0")]

def handleAttention (state : HwLightState) : Lights × List Write :=
  let lights := { lights with mAttentionState := state }
  (lights, lights.checkLightStateLocked)

def handleBattery (state : HwLightState) : Lights × List Write :=
  let lights := { lights with mBatteryState := state }
  (lights, lights.checkLightStateLocked)

def handleNotifications (state : HwLightState) : Lights × List Write :=
  let lights := { lights with mNotificationState := state }
  (lights, lights.checkLightStateLocked)

def handleBacklight (state : HwLightState) : Lights × List Write :=
  let sentBrightness := rgbToBrightness state
  let (panel, panelEx) :=
    if sentBrightness < 35 then (sentBrightness * 2, sentBrightness * 2)
    else
      (sentBrightness * lights.mMaxBrightness / 255,
        sentBrightness * lights.mMaxBrightnessEx / 255)
  (lights, [(bl ++ brightness, .int panel), (blEx ++ brightness, .int panelEx)])

/-- `mLights`: the handlers of the lights that there are. -/
def mLights : LightType → Option (HwLightState → Lights × List Write)
  | .backlight => some lights.handleBacklight
  | .attention => some lights.handleAttention
  | .battery => some lights.handleBattery
  | .notifications => some lights.handleNotifications
  | .other _ => none

/-- `setLightState`, which is `none` for `EX_UNSUPPORTED_OPERATION`. The id of a light is the
number of its type. -/
def setLightState (type : LightType) (state : HwLightState) : Option (Lights × List Write) :=
  (lights.mLights type).map (· state)

end Lights

end LgeHardware.Light
