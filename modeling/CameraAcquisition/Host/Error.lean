import CameraAcquisition.Word

/-!
# Errors the host sees

The host knows three classes of error: a value it passed is invalid, a feature is not
supported, or the hardware failed. Free texts become hardware errors. An overflow of the
camera's word arithmetic is no error of these: it stops the program, and it reaches whoever
runs the program as it is.

## What this module delivers

- `HostError` with `HostError.message`, `HostError.kind` and `HostError.ofText`.
-/

set_option autoImplicit false

namespace CameraAcquisition

/-- An error as the host classifies it. -/
inductive HostError where
  | invalidValue (msg : String)
  | notSupported (msg : String)
  | hardwareError (msg : String)
  /-- An overflow that stopped the program. -/
  | overflow (o : Overflow)
  deriving Repr, BEq, DecidableEq, Inhabited

namespace HostError

/-- The text of an error. -/
def message : HostError → String
  | invalidValue m => s!"invalid value: {m}"
  | notSupported m => s!"not supported: {m}"
  | hardwareError m => s!"hardware error: {m}"
  | overflow o => o.message

/-- The name of the kind of error. -/
def kind : HostError → String
  | invalidValue _ => "InvalidValue"
  | notSupported _ => "NotSupported"
  | hardwareError _ => "HardwareError"
  | overflow _ => "panic"

/-- A free text is a hardware error. -/
def ofText (m : String) : HostError := hardwareError m

end HostError

end CameraAcquisition
