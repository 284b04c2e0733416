import CameraAcquisition.Geometry.Grid
import CameraAcquisition.Sdk.Attr

/-!
# Camera settings

The settings a camera is opened with: which camera, the timings of the acquisition worker,
the sensor set-points applied on opening (temperature target, fan speed, gain), the external
trigger scheme and edge, and an optional grid that regions of interest are snapped to.

Settings are valid when the abort retry interval and the internal trigger period are
positive and the grid's alignment is a power of two.

## What this module delivers

- `ExtTrigger`, `EdgeSetting`, `Gain` with their names and camera values.
- `Settings` with `Settings.default` and `Settings.validate`.
-/

set_option autoImplicit false

namespace CameraAcquisition

/-- The hardware trigger scheme used by the external trigger modes. -/
inductive ExtTrigger where
  | standard
  | synchronous
  | global
  deriving Repr, BEq, DecidableEq, Inhabited

namespace ExtTrigger

/-- The name of a scheme. -/
def name : ExtTrigger → String
  | standard => "standard"
  | synchronous => "synchronous"
  | global => "global"

/-- All schemes, in order. -/
def all : List ExtTrigger := [standard, synchronous, global]

/-- The scheme of a name. -/
def ofName? (s : String) : Option ExtTrigger := all.find? (·.name == s)

/-- The capture mode a scheme arms the camera in. -/
def captureMode : ExtTrigger → Sdk.CaptureMode
  | standard => .triggerStandard
  | synchronous => .triggerSynchronous
  | global => .triggerGlobal

end ExtTrigger

/-- The active edge of the external trigger input. -/
inductive EdgeSetting where
  | rising
  | falling
  deriving Repr, BEq, DecidableEq, Inhabited

namespace EdgeSetting

/-- The name of an edge. -/
def name : EdgeSetting → String
  | rising => "rising"
  | falling => "falling"

/-- Both edges, in order. -/
def all : List EdgeSetting := [rising, falling]

/-- The edge of a name. -/
def ofName? (s : String) : Option EdgeSetting := all.find? (·.name == s)

/-- The camera's trigger edge. -/
def toSdk : EdgeSetting → Sdk.TriggerEdge
  | rising => .rising
  | falling => .falling

end EdgeSetting

/-- The sensor gain. -/
inductive Gain where
  | hdr
  | high
  | low
  deriving Repr, BEq, DecidableEq, Inhabited

namespace Gain

/-- The name of a gain. -/
def name : Gain → String
  | hdr => "hdr"
  | high => "high"
  | low => "low"

/-- The name of a gain as the command line prints it. -/
def title : Gain → String
  | hdr => "Hdr"
  | high => "High"
  | low => "Low"

/-- All gains, in order. -/
def all : List Gain := [hdr, high, low]

/-- The gain of a name. -/
def ofName? (s : String) : Option Gain := all.find? (·.name == s)

/-- The value of the gain property. -/
def propValue : Gain → Float
  | hdr => 0.0
  | high => 1.0
  | low => 2.0

/-- The gain a property value stands for: the value is rounded half away from zero, and NaN
counts as zero. -/
def ofPropValue (v : Float) : Option Gain :=
  let r := v.round
  if r.isNaN || r == 0.0 then some hdr
  else if r == 1.0 then some high
  else if r == 2.0 then some low
  else none

end Gain

/-- Why settings are not valid. -/
inductive SettingsFault where
  | abortRetryZero
  | triggerPeriodZero
  | alignment (a : Nat)
  deriving Repr, BEq, DecidableEq, Inhabited

namespace SettingsFault

/-- The text of a fault. -/
def message : SettingsFault → String
  | abortRetryZero => "abort_retry_ms must be positive"
  | triggerPeriodZero => "internal_trigger_period_ms must be positive"
  | alignment a => s!"ROI alignment {a} is not a power of two"

end SettingsFault

/-- The settings of a camera. -/
structure Settings where
  cameraIndex : Nat
  /-- Software trigger period in internal trigger mode, in milliseconds. -/
  internalTriggerPeriodMs : Nat
  /-- Pause after arming the capture before frames are expected. -/
  armSettleMs : Nat
  /-- Interval at which a stop repeats the abort of the frame wait. -/
  abortRetryMs : Nat
  /-- Consecutive failed frame waits that end an acquisition in fault; zero never does. -/
  maxConsecutiveWaitFailures : Nat
  temperatureTarget : Option Float
  fanSpeed : Option Int
  globalGain : Option Gain
  triggerMode : ExtTrigger
  triggerEdge : EdgeSetting
  roiConstraint : Option Grid
  deriving Inhabited

namespace Settings

/-- The default settings. -/
def default : Settings where
  cameraIndex := 0
  internalTriggerPeriodMs := 999
  armSettleMs := 100
  abortRetryMs := 50
  maxConsecutiveWaitFailures := 10
  temperatureTarget := none
  fanSpeed := none
  globalGain := none
  triggerMode := .standard
  triggerEdge := .rising
  roiConstraint := none

/-- Checks the settings. -/
def validate (s : Settings) : Except SettingsFault Unit :=
  if s.abortRetryMs = 0 then .error .abortRetryZero
  else if s.internalTriggerPeriodMs = 0 then .error .triggerPeriodZero
  else match s.roiConstraint with
    | some g => if g.isValid then .ok () else .error (.alignment g.alignment)
    | none => .ok ()

end Settings

end CameraAcquisition
