/-!
# Return codes and errors of the camera SDK

Every SDK call either succeeds or answers a return code; the code together with the name of
the call is a `CallError`. Opening a device adds two errors of its own: no camera at all,
and an index past the cameras found.

## What this module delivers

- `Code` with its SDK symbol (`TUCAMRET_…`) and its short name.
- `CallError` with its text `TUCAM error: <symbol> in <call>` and `CallError.isAbort`.
- `DeviceError` with its texts, `DeviceError.kind` and `DeviceError.isAbort`.
-/

set_option autoImplicit false

namespace CameraAcquisition.Sdk

/-- The return codes of the SDK other than success. -/
inductive Code where
  | failure
  | noMemory
  | noResource
  | noModule
  | noDriver
  | noCamera
  | notInit
  | notOpened
  | invalidParam
  | invalidIdProp
  | invalidIdCapa
  | invalidIdInfo
  | outOfRange
  | notSupported
  | busy
  | timeout
  | abort
  | driverFailure
  deriving Repr, BEq, DecidableEq, Inhabited

namespace Code

/-- The SDK's symbol for a code. -/
def symbol : Code → String
  | failure => "TUCAMRET_FAILURE"
  | noMemory => "TUCAMRET_NO_MEMORY"
  | noResource => "TUCAMRET_NO_RESOURCE"
  | noModule => "TUCAMRET_NO_MODULE"
  | noDriver => "TUCAMRET_NO_DRIVER"
  | noCamera => "TUCAMRET_NO_CAMERA"
  | notInit => "TUCAMRET_NOT_INIT"
  | notOpened => "TUCAMRET_NOT_OPENED"
  | invalidParam => "TUCAMRET_INVALID_PARAM"
  | invalidIdProp => "TUCAMRET_INVALID_IDPROP"
  | invalidIdCapa => "TUCAMRET_INVALID_IDCAPA"
  | invalidIdInfo => "TUCAMRET_INVALID_IDINFO"
  | outOfRange => "TUCAMRET_OUT_OF_RANGE"
  | notSupported => "TUCAMRET_NOT_SUPPORT"
  | busy => "TUCAMRET_BUSY"
  | timeout => "TUCAMRET_TIMEOUT"
  | abort => "TUCAMRET_ABORT"
  | driverFailure => "TUCAMRET_FAILURE_DRIVER"

/-- The short name of a code. -/
def name : Code → String
  | failure => "Failure"
  | noMemory => "NoMemory"
  | noResource => "NoResource"
  | noModule => "NoModule"
  | noDriver => "NoDriver"
  | noCamera => "NoCamera"
  | notInit => "NotInit"
  | notOpened => "NotOpened"
  | invalidParam => "InvalidParam"
  | invalidIdProp => "InvalidIdProp"
  | invalidIdCapa => "InvalidIdCapa"
  | invalidIdInfo => "InvalidIdInfo"
  | outOfRange => "OutOfRange"
  | notSupported => "NotSupported"
  | busy => "Busy"
  | timeout => "Timeout"
  | abort => "Abort"
  | driverFailure => "DriverFailure"

/-- All codes. -/
def all : List Code :=
  [failure, noMemory, noResource, noModule, noDriver, noCamera, notInit, notOpened,
    invalidParam, invalidIdProp, invalidIdCapa, invalidIdInfo, outOfRange, notSupported, busy,
    timeout, abort, driverFailure]

/-- The code with the given short name. -/
def ofName? (s : String) : Option Code := all.find? (·.name == s)

end Code

/-- A call refused by the SDK: the code it answered and the call's name. -/
structure CallError where
  code : Code
  call : String
  deriving Repr, BEq, DecidableEq, Inhabited

namespace CallError

/-- `TUCAM error: <symbol> in <call>`. -/
def message (e : CallError) : String := s!"TUCAM error: {e.code.symbol} in {e.call}"

/-- Whether a frame wait ended because it was aborted. -/
def isAbort (e : CallError) : Bool := e.code == .abort

end CallError

/-- Why a device could not be used: a refused call, no camera, or an index past the cameras
found. -/
inductive DeviceError where
  | call (e : CallError)
  | noCamera
  | noSuchCamera (index count : Nat)
  deriving Repr, BEq, DecidableEq, Inhabited

namespace DeviceError

/-- The text of a device error. -/
def message : DeviceError → String
  | call e => e.message
  | noCamera => "no camera found"
  | noSuchCamera index count => s!"camera index {index} not available ({count} cameras found)"

/-- Only an aborted call is an abort. -/
def isAbort : DeviceError → Bool
  | call e => e.isAbort
  | _ => false

/-- The name of the kind of error. -/
def kind : DeviceError → String
  | call _ => "Tucam"
  | noCamera => "NoCamera"
  | noSuchCamera .. => "NoSuchCamera"

end DeviceError

end CameraAcquisition.Sdk
