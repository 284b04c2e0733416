import CameraAcquisition.Interface
import CameraAcquisition.Image.Digest

/-!
# Answer documents

Every answer is a small document: null, a boolean, an integer, a float, a string, a list, or
an object with named fields. Failures are faults with a kind and a text.

This module spells the library's values as documents: regions as `[x, y, width, height]`,
sizes as `[width, height]`, binnings as `[x, y]`, enumerations by name, byte strings by their
digest, and records as objects with snake-case field names.

## What this module delivers

- `Doc`, `Fault`, `Answer`.
- The document of every value an answer carries.
-/

set_option autoImplicit false

namespace CameraAcquisition

/-- An answer document. -/
inductive Doc where
  | null
  | bool (b : Bool)
  | int (i : Int)
  | float (f : Float)
  | str (s : String)
  | arr (items : List Doc)
  | obj (fields : List (String × Doc))
  deriving Inhabited

/-- A failure: its kind and its text. -/
structure Fault where
  kind : String
  message : String
  deriving Repr, BEq, DecidableEq, Inhabited

namespace Fault

/-- A camera error. -/
def ofCamera (e : CameraError) : Fault := ⟨e.kind, e.message⟩

/-- An error as the host sees it. -/
def ofHost (e : HostError) : Fault := ⟨e.kind, e.message⟩

/-- An error of opening a device. -/
def ofDevice (e : Sdk.DeviceError) : Fault := ⟨e.kind, e.message⟩

/-- A refused SDK call. -/
def ofCall (e : Sdk.CallError) : Fault := ofDevice (.call e)

/-- A request that needs something the session does not have. -/
def missing (what : String) : Fault := ⟨"driver", what⟩

/-- A wait that did not end. -/
def timeout (what : String) : Fault := ⟨"timeout", what⟩

end Fault

/-- What a request answers: a document or a fault. -/
abbrev Answer := Except Fault Doc

namespace Doc

/-- A natural number. -/
def nat (n : Nat) : Doc := int n

/-- An optional value, null when absent. -/
def opt {α : Type} (f : α → Doc) : Option α → Doc
  | some a => f a
  | none => null

/-- A size. -/
def ofSize (s : Size) : Doc := arr [nat s.width, nat s.height]

/-- A region. -/
def ofRoi (r : Roi) : Doc := arr [nat r.topLeft.x, nat r.topLeft.y, nat r.size.width, nat r.size.height]

/-- A binning. -/
def ofBin (b : Bin) : Doc := arr [nat b.x, nat b.y]

/-- The digest of a byte string. -/
def ofDigest (d : Image.Digest) : Doc :=
  obj [("len", nat d.size), ("fnv", str d.hashText), ("head", arr (d.head.map fun b => nat b.toNat))]

/-- The digest of a byte string. -/
def ofBytes (b : ByteArray) : Doc := ofDigest (Image.Digest.of b)

/-- An SDK frame with the digest of its image. -/
def ofFrame (f : Sdk.Frame) : Doc :=
  obj [("width", nat f.width), ("height", nat f.height), ("elem_bytes", nat f.elemBytes),
    ("offset", nat f.offset), ("img_size", nat f.imgSize), ("index", nat f.index),
    ("data", ofBytes f.image)]

/-- A trigger setting. -/
def ofTriggerAttr (a : Sdk.TriggerAttr) : Doc :=
  obj [("mode", str a.mode.name), ("exposure", str a.exposure.name), ("edge", str a.edge.name),
    ("frames", nat a.frames), ("delay", nat a.delay)]

/-- A region setting of the SDK. -/
def ofRoiAttr (a : Sdk.RoiAttr) : Doc :=
  obj [("enable", bool a.enable), ("h_offset", nat a.hOffset), ("v_offset", nat a.vOffset),
    ("width", nat a.width), ("height", nat a.height)]

/-- An trigger output setting. -/
def ofTriggerOut (a : Sdk.TriggerOutAttr) : Doc :=
  obj [("port", nat a.channel), ("signal", str a.signal.name), ("edge", str a.edge.name),
    ("delay", opt nat a.delay), ("width", opt nat a.width)]

/-- A property range. -/
def ofPropAttr (a : Sdk.PropAttr) : Doc :=
  obj [("min", float a.min), ("max", float a.max), ("default", float a.default),
    ("step", float a.step)]

/-- An information value. -/
def ofInfo (v : Sdk.InfoValue) : Doc := obj [("text", str v.text), ("value", int v.value)]

/-- A simulated camera's configuration. -/
def ofSimConfig (c : Sdk.SimConfig) : Doc :=
  obj [("camera_count", nat c.cameraCount), ("sensor_width", nat c.sensorWidth),
    ("sensor_height", nat c.sensorHeight), ("model", str c.model),
    ("api_version", str c.apiVersion), ("firmware_version", int c.firmware),
    ("trigger_period_ms", nat c.triggerPeriodMs)]

/-- Acquisition parameters. -/
def ofParams (p : AcqParams) : Doc :=
  obj [("trig_mode", str p.trigMode.name), ("exp_time", float p.expTime),
    ("lat_time", float p.latTime), ("nb_frames", nat p.nbFrames),
    ("ext_trigger", str p.extTrigger.name), ("trigger_edge", str p.triggerEdge.name)]

/-- Controller timings. -/
def ofTimings (t : Timings) : Doc :=
  obj [("arm_settle_ms", nat t.armSettleMs), ("abort_retry_ms", nat t.abortRetryMs),
    ("trigger_period_ms", nat t.triggerPeriodMs),
    ("max_consecutive_wait_failures", nat t.maxConsecutiveWaitFailures)]

/-- A grid. -/
def ofGrid (g : Grid) : Doc := obj [("alignment", nat g.alignment), ("min_size", nat g.minSize)]

/-- Camera settings. -/
def ofSettings (s : Settings) : Doc :=
  obj [("camera_index", nat s.cameraIndex),
    ("internal_trigger_period_ms", nat s.internalTriggerPeriodMs),
    ("arm_settle_ms", nat s.armSettleMs), ("abort_retry_ms", nat s.abortRetryMs),
    ("max_consecutive_wait_failures", nat s.maxConsecutiveWaitFailures),
    ("temperature_target", opt float s.temperatureTarget), ("fan_speed", opt int s.fanSpeed),
    ("global_gain", opt (fun g => str g.name) s.globalGain),
    ("trigger_mode", str s.triggerMode.name), ("trigger_edge", str s.triggerEdge.name),
    ("roi_constraint", opt ofGrid s.roiConstraint)]

/-- A host buffer layout. -/
def ofLayout (l : Layout) : Doc :=
  obj [("width", nat l.size.width), ("height", nat l.size.height), ("image_type", str l.depth.name)]

/-- The exposure and latency ranges. -/
def validRanges : Doc :=
  obj [("min_exp_time", float 0.0), ("max_exp_time", float maxExpTime),
    ("min_lat_time", float 0.0), ("max_lat_time", float maxLatTime)]

/-- The pixel size in both directions. -/
def pixelSizes : Doc := arr [float pixelSize, float pixelSize]

/-- An error object. -/
def ofFault (f : Fault) : Doc := obj [("error", str f.kind), ("message", str f.message)]

end Doc

end CameraAcquisition
