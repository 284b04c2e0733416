import CameraAcquisition.Settings
import CameraAcquisition.CameraError
import CameraAcquisition.Toml.Decode

/-!
# Loading settings from a TOML document

Settings are written as a TOML document with one key per setting, in snake case; the grid
is a table `roi_constraint` with `alignment` and `min_size`, each one by default. Unknown
keys are refused, and so is a key given twice. Absent keys take their default values.

A document that cannot be read is a document error with the reader's text; settings that
read but are not valid are a configuration error.

## What this module delivers

- `settingsShape`, the shape of the document.
- `Settings.ofDatum` and `loadSettings`.
-/

set_option autoImplicit false

namespace CameraAcquisition

/-- The largest 32-bit unsigned value. -/
def u32Max : Nat := Nat.pow 2 32 - 1

/-- The largest 64-bit unsigned value. -/
def u64Max : Nat := Nat.pow 2 64 - 1

/-- The shape of the grid table. -/
def gridShape : Toml.Shape :=
  .record "RoiConstraint" [("alignment", .unsigned "u32" u32Max), ("min_size", .unsigned "u32" u32Max)]

/-- The shape of a settings document. -/
def settingsShape : Toml.Shape :=
  .record "Settings" [
    ("camera_index", .unsigned "u32" u32Max),
    ("internal_trigger_period_ms", .unsigned "u64" u64Max),
    ("arm_settle_ms", .unsigned "u64" u64Max),
    ("abort_retry_ms", .unsigned "u64" u64Max),
    ("max_consecutive_wait_failures", .unsigned "u32" u32Max),
    ("temperature_target", .optional .real),
    ("fan_speed", .optional (.signed "i32" (Nat.pow 2 31) (Nat.pow 2 31 - 1))),
    ("global_gain", .optional (.choice (Gain.all.map Gain.name))),
    ("trigger_mode", .choice (ExtTrigger.all.map ExtTrigger.name)),
    ("trigger_edge", .choice (EdgeSetting.all.map EdgeSetting.name)),
    ("roi_constraint", .optional gridShape)]

/-- A whole number, or a default. -/
def wholeOr (d : Option Toml.Datum) (default : Int) : Int :=
  match d with
  | some (.whole i) => i
  | _ => default

/-- A float, if present. -/
def realOf (d : Option Toml.Datum) : Option Float :=
  match d with
  | some (.real f) => some f
  | _ => none

/-- The choice made, if any. -/
def pickOf {α : Type} (all : List α) (d : Option Toml.Datum) : Option α :=
  match d with
  | some (.pick i) => all[i]?
  | _ => none

/-- A grid, if present; its absent fields are one. -/
def gridOf (d : Option Toml.Datum) : Option Grid :=
  match d with
  | some (.record [a, m]) => some ⟨(wholeOr a 1).toNat, (wholeOr m 1).toNat⟩
  | _ => none

namespace Settings

/-- Settings from decoded data; absent fields take their defaults. -/
def ofDatum (d : Toml.Datum) : Settings :=
  match d with
  | .record [ci, itp, arm, abort, maxf, temp, fan, gain, mode, edge, roi] =>
    { cameraIndex := (wholeOr ci 0).toNat
      internalTriggerPeriodMs := (wholeOr itp 999).toNat
      armSettleMs := (wholeOr arm 100).toNat
      abortRetryMs := (wholeOr abort 50).toNat
      maxConsecutiveWaitFailures := (wholeOr maxf 10).toNat
      temperatureTarget := realOf temp
      fanSpeed := fan.map fun _ => wholeOr fan 0
      globalGain := pickOf Gain.all gain
      triggerMode := (pickOf ExtTrigger.all mode).getD .standard
      triggerEdge := (pickOf EdgeSetting.all edge).getD .rising
      roiConstraint := gridOf roi }
  | _ => default

end Settings

/-- Reads and checks settings from a TOML document. -/
def loadSettings (text : String) : Except CameraError Settings := do
  let d ← (Toml.decode settingsShape text).mapError fun f => .document (f.render text)
  let s := Settings.ofDatum d
  s.validate.mapError fun f => .config f.message
  pure s

end CameraAcquisition
