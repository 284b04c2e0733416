/-!
# Identifiers and attribute records of the camera SDK

The SDK addresses floating point properties, integer capabilities and information entries
by identifier, and reads or writes whole records for the trigger set-up, the region of
interest and the trigger outputs.

## What this module delivers

- `PropId`, `CapaId`, `InfoId`, `CaptureMode`, `TriggerExposure`, `TriggerEdge`,
  `OutputSignal`, `SignalEdge`, each with its name and `ofName?`.
- The records `PropAttr`, `InfoValue`, `TriggerAttr`, `RoiAttr`, `TriggerOutAttr`.
-/

set_option autoImplicit false

namespace CameraAcquisition.Sdk

/-- Floating point properties. -/
inductive PropId where
  /-- Exposure time in milliseconds. -/
  | exposureTime
  /-- Sensor temperature set point, in the raw units of the camera. -/
  | temperature
  | globalGain
  deriving Repr, BEq, DecidableEq, Inhabited

/-- Integer capabilities. -/
inductive CapaId where
  | fanGear
  | resolution
  deriving Repr, BEq, DecidableEq, Inhabited

/-- Device information entries. -/
inductive InfoId where
  | cameraModel
  | versionApi
  | versionFirmware
  deriving Repr, BEq, DecidableEq, Inhabited

/-- How a capture is paced. -/
inductive CaptureMode where
  /-- Free running. -/
  | sequence
  | triggerStandard
  | triggerSynchronous
  | triggerGlobal
  | triggerSoftware
  deriving Repr, BEq, DecidableEq, Inhabited

/-- What sets the length of an exposure in the trigger modes. -/
inductive TriggerExposure where
  /-- The exposure time property. -/
  | exposureTime
  /-- The width of the trigger pulse. -/
  | width
  deriving Repr, BEq, DecidableEq, Inhabited

/-- Active edge of the trigger input. -/
inductive TriggerEdge where
  | rising
  | falling
  deriving Repr, BEq, DecidableEq, Inhabited

/-- Signal routed to an trigger output. -/
inductive OutputSignal where
  /-- Copy of the trigger input. -/
  | trigIn
  /-- Exposure start (rolling shutter). -/
  | exposureStart
  /-- Global exposure. -/
  | globalExposure
  | readEnd
  deriving Repr, BEq, DecidableEq, Inhabited

/-- Edge of an output signal. -/
inductive SignalEdge where
  | rising
  | falling
  deriving Repr, BEq, DecidableEq, Inhabited

namespace PropId
/-- The name of a property. -/
def name : PropId → String
  | exposureTime => "ExposureTime"
  | temperature => "Temperature"
  | globalGain => "GlobalGain"
/-- All properties. -/
def all : List PropId := [exposureTime, temperature, globalGain]
/-- The property with the given name. -/
def ofName? (s : String) : Option PropId := all.find? (·.name == s)
end PropId

namespace CapaId
/-- The name of a capability. -/
def name : CapaId → String
  | fanGear => "FanGear"
  | resolution => "Resolution"
/-- All capabilities. -/
def all : List CapaId := [fanGear, resolution]
/-- The capability with the given name. -/
def ofName? (s : String) : Option CapaId := all.find? (·.name == s)
end CapaId

namespace InfoId
/-- The name of an information entry. -/
def name : InfoId → String
  | cameraModel => "CameraModel"
  | versionApi => "VersionApi"
  | versionFirmware => "VersionFirmware"
/-- All information entries. -/
def all : List InfoId := [cameraModel, versionApi, versionFirmware]
/-- The entry with the given name. -/
def ofName? (s : String) : Option InfoId := all.find? (·.name == s)
end InfoId

namespace CaptureMode
/-- The name of a capture mode. -/
def name : CaptureMode → String
  | sequence => "Sequence"
  | triggerStandard => "TriggerStandard"
  | triggerSynchronous => "TriggerSynchronous"
  | triggerGlobal => "TriggerGlobal"
  | triggerSoftware => "TriggerSoftware"
/-- All capture modes. -/
def all : List CaptureMode :=
  [sequence, triggerStandard, triggerSynchronous, triggerGlobal, triggerSoftware]
/-- The capture mode with the given name. -/
def ofName? (s : String) : Option CaptureMode := all.find? (·.name == s)
end CaptureMode

namespace TriggerExposure
/-- The name of an exposure source. -/
def name : TriggerExposure → String
  | exposureTime => "ExposureTime"
  | width => "Width"
/-- All exposure sources. -/
def all : List TriggerExposure := [exposureTime, width]
/-- The exposure source with the given name. -/
def ofName? (s : String) : Option TriggerExposure := all.find? (·.name == s)
end TriggerExposure

namespace TriggerEdge
/-- The name of an edge. -/
def name : TriggerEdge → String
  | rising => "Rising"
  | falling => "Falling"
/-- Both edges. -/
def all : List TriggerEdge := [rising, falling]
/-- The edge with the given name. -/
def ofName? (s : String) : Option TriggerEdge := all.find? (·.name == s)
end TriggerEdge

namespace OutputSignal
/-- The name of an output signal. -/
def name : OutputSignal → String
  | trigIn => "TrigIn"
  | exposureStart => "ExposureStart"
  | globalExposure => "GlobalExposure"
  | readEnd => "ReadEnd"
/-- All output signals. -/
def all : List OutputSignal := [trigIn, exposureStart, globalExposure, readEnd]
/-- The signal with the given name. -/
def ofName? (s : String) : Option OutputSignal := all.find? (·.name == s)
end OutputSignal

namespace SignalEdge
/-- The name of a signal edge. -/
def name : SignalEdge → String
  | rising => "Rising"
  | falling => "Falling"
/-- Both edges. -/
def all : List SignalEdge := [rising, falling]
/-- The edge with the given name. -/
def ofName? (s : String) : Option SignalEdge := all.find? (·.name == s)
end SignalEdge

/-- Range, default and step of a property. -/
structure PropAttr where
  min : Float
  max : Float
  default : Float
  step : Float
  deriving Inhabited

/-- An information entry: a text and a number. -/
structure InfoValue where
  text : String
  value : Int
  deriving Repr, BEq, DecidableEq, Inhabited

/-- The trigger set-up of a capture. -/
structure TriggerAttr where
  mode : CaptureMode
  exposure : TriggerExposure
  edge : TriggerEdge
  /-- Frames per trigger. -/
  frames : Nat
  /-- Delay in microseconds. -/
  delay : Nat
  deriving Repr, BEq, DecidableEq

/-- Free running, exposure by time, rising edge, one frame, no delay. -/
def TriggerAttr.default : TriggerAttr :=
  { mode := .sequence, exposure := .exposureTime, edge := .rising, frames := 1, delay := 0 }

instance : Inhabited TriggerAttr := ⟨TriggerAttr.default⟩

/-- The region of interest as the SDK holds it: disabled means the whole sensor. -/
structure RoiAttr where
  enable : Bool
  hOffset : Nat
  vOffset : Nat
  width : Nat
  height : Nat
  deriving Repr, BEq, DecidableEq, Inhabited

/-- An trigger output: its signal, edge, and delay and pulse width in microseconds;
an absent delay or width keeps the current value when written. -/
structure TriggerOutAttr where
  channel : Nat
  signal : OutputSignal
  edge : SignalEdge
  delay : Option Nat
  width : Option Nat
  deriving Repr, BEq, DecidableEq, Inhabited

end CameraAcquisition.Sdk
