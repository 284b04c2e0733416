import CameraAcquisition.Doc
import CameraAcquisition.Settings.Load

/-!
# Reports on library values

Answers that need no bench: reading a settings document, snapping a region to a grid,
reading a gain from a property value, the derived values of a region and of a buffer
layout, the library's defaults, and the three views of an SDK error (as the SDK reports it,
as the camera reports it, and as the host sees it).

## What this module delivers

- `Report.settings` and `Report.settingsFile`, the settings of a document.
- `Report.grid`, `Report.gain`, `Report.roi`, `Report.layout`, `Report.defaults`.
- `Report.callError` and `Report.hostError`.
-/

set_option autoImplicit false

namespace CameraAcquisition

namespace Report

/-- The settings of a document, or why it does not give any. -/
def settings (text : String) : Answer :=
  (loadSettings text).map Doc.ofSettings |>.mapError Fault.ofCamera

/-- The error of reading settings from a file that does not exist. -/
def missingFile : CameraError := .io "No such file or directory (os error 2)"

/-- The settings of a file holding `text`, if there is a file at all. -/
def settingsFile : Option String → Answer
  | some text => settings text
  | none => .error (Fault.ofCamera missingFile)

/-- Whether a grid is usable, and where it puts a region; the region is snapped even on an
unusable grid. -/
def grid (g : Grid) (r : Roi) (detector : Size) : Doc :=
  let check : Doc :=
    if g.isValid then .null
    else Doc.ofFault (Fault.ofCamera (.config (SettingsFault.alignment g.alignment).message))
  .obj [("validate", check), ("apply", Doc.ofRoi (g.fit r detector))]

/-- The gain a property value stands for. -/
def gain (v : Float) : Doc := .obj [("gain", Doc.opt (fun g => .str g.name) (Gain.ofPropValue v))]

/-- Whether a region is active, its far corner and its text. -/
def roi (r : Roi) : Doc :=
  let (right, bottom) := r.bottomRight
  .obj [("active", .bool r.isActive), ("bottom_right", .arr [Doc.nat right, Doc.nat bottom]),
    ("display", .str r.text)]

/-- The memory a buffer layout takes, its pixel width and its text. -/
def layout (l : Layout) : Doc :=
  .obj [("mem_size", Doc.nat l.memSize), ("bytes_per_pixel", Doc.nat l.depth.bytes),
    ("display", .str l.text)]

/-- The library's defaults and constants. -/
def defaults : Doc :=
  .obj [("timings", Doc.ofTimings Timings.default),
    ("acq_params", Doc.ofParams AcqParams.default),
    ("config", Doc.ofSettings Settings.default),
    ("roi_constraint", Doc.ofGrid Grid.unit),
    ("buffer_frame_dim", Doc.ofLayout Ring.default.layout),
    ("sim_config", Doc.ofSimConfig Sdk.SimConfig.default),
    ("trig_modes", .arr (TrigMode.all.map fun m => .str m.name)),
    ("roi_inactive", Doc.ofRoi Roi.inactive),
    ("roi_full_frame", Doc.ofRoi (Roi.fullFrame detectorSize)),
    ("bin_default", Doc.ofBin Bin.identity),
    ("trigger_attr", Doc.ofTriggerAttr Sdk.TriggerAttr.default),
    ("detector_type", .str detectorType),
    ("pixel_size", .float pixelSize),
    ("max_exp_time", .float maxExpTime),
    ("max_lat_time", .float maxLatTime),
    ("num_output_ports", Doc.nat numTriggerOutputs)]

/-- An SDK error: its code's symbol, its text, whether it is an abort, and the errors the SDK,
the camera and the host make of it. -/
def callError (e : Sdk.CallError) : Doc :=
  let camera : CameraError := .ofCall e
  .obj [("as_str", .str e.code.symbol), ("display", .str e.message),
    ("is_abort", .bool e.isAbort),
    ("error", Doc.ofFault (Fault.ofCall e)),
    ("error_is_abort", .bool (Sdk.DeviceError.call e).isAbort),
    ("dhyana", Doc.ofFault (Fault.ofCamera camera)),
    ("hwif", Doc.ofFault (Fault.ofHost camera.toHost))]

/-- A host error made from a text, and, for a settings document, the host's view of why the
document gives no settings. -/
def hostError (text : String) (document : Option String) : Doc :=
  let fromText := Doc.ofFault (Fault.ofHost (HostError.ofText text))
  let base := [("from_str", fromText), ("from_string", fromText)]
  match document with
  | none => .obj base
  | some d =>
    let check : Doc := match loadSettings d with
      | .ok _ => .null
      | .error e => Doc.ofFault (Fault.ofHost e.toHost)
    .obj (base ++ [("from_config", check)])

end Report

end CameraAcquisition
