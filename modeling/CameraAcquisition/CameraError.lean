import CameraAcquisition.Sdk.Code
import CameraAcquisition.Host.Error

/-!
# Errors of the camera

What a camera operation can fail with: a device error, an invalid value, an unsupported
feature, a start while running, a start before preparing, a busy camera, invalid settings,
an unreadable settings document, a file that cannot be read, or a failed worker. An overflow of
the word arithmetic is carried with them, though it is no error the camera returns: it stops
the program, and every layer passes it on as it is.

The host sees three classes: invalid values and invalid or unreadable settings are invalid
values, unsupported features stay unsupported, and everything else is a hardware error with
the camera's text.

## What this module delivers

- `CameraError` with `CameraError.message`, `CameraError.chain`, `CameraError.kind` and
  `CameraError.toHost`.
-/

set_option autoImplicit false

namespace CameraAcquisition

/-- An error of a camera operation. -/
inductive CameraError where
  | device (e : Sdk.DeviceError)
  | invalidValue (msg : String)
  | notSupported (msg : String)
  | alreadyRunning
  | notPrepared
  | busy (msg : String)
  | config (msg : String)
  /-- An unreadable settings document, with the reader's text. -/
  | document (msg : String)
  | io (msg : String)
  | thread (msg : String)
  /-- An overflow that stopped the program. -/
  | overflow (o : Overflow)
  deriving Repr, BEq, DecidableEq, Inhabited

namespace CameraError

/-- A refused SDK call. -/
def ofCall (e : Sdk.CallError) : CameraError := device (.call e)

/-- The text of an error. -/
def message : CameraError → String
  | device e => e.message
  | invalidValue m => s!"invalid value: {m}"
  | notSupported m => s!"not supported: {m}"
  | alreadyRunning => "acquisition already running"
  | notPrepared => "acquisition not prepared"
  | busy m => s!"camera busy: {m}"
  | config m => s!"configuration error: {m}"
  | document m => s!"TOML deserialization error: {m}"
  | io m => s!"IO error: {m}"
  | thread m => s!"acquisition thread error: {m}"
  | overflow o => o.message

/-- The error followed by the errors that caused it, outermost first, as a report lists
them. A refused SDK call sits inside a device error inside the camera error, so its text
comes three times; another device error comes twice; an unreadable document or file comes
with the reader's own error. -/
def chain : CameraError → List String
  | device (.call e) => [e.message, e.message, e.message]
  | device e => [e.message, e.message]
  | document m => [s!"TOML deserialization error: {m}", m]
  | io m => [s!"IO error: {m}", m]
  | e => [e.message]

/-- The name of the kind of error; device errors are named inside the camera's kind. -/
def kind : CameraError → String
  | device e => "Tucam." ++ e.kind
  | invalidValue _ => "InvalidValue"
  | notSupported _ => "NotSupported"
  | alreadyRunning => "AlreadyRunning"
  | notPrepared => "NotPrepared"
  | busy _ => "Busy"
  | config _ => "Config"
  | document _ => "TomlDe"
  | io _ => "Io"
  | thread _ => "Thread"
  | overflow _ => "panic"

/-- The error as the host classifies it. -/
def toHost : CameraError → HostError
  | invalidValue m | config m | document m => .invalidValue m
  | notSupported m => .notSupported m
  | overflow o => .overflow o
  | e => .hardwareError e.message

end CameraError

end CameraAcquisition
