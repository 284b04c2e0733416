import CameraAcquisition.Settings

/-!
# Acquisition parameters and status

The status of an acquisition session moves through exposure, readout and latency and rests
at ready. A fault sticks: plain changes leave it in place, and only a forced change, made by
a reset, clears it.

The parameters of the next acquisition are its trigger mode, exposure and latency times in
seconds, number of frames (zero for an endless run), and the external trigger scheme and
edge. The internal trigger mode arms the capture for software triggers; every other mode arms
it for the external scheme.

The timings are the controller's policy: the pause after arming, the interval of repeated
aborts, the software trigger period, and the number of consecutive failed frame waits that
ends a run in fault (zero for no limit).

## What this module delivers

- `Status` with `Status.name`, `Status.set` and `Status.force`.
- `TrigMode` with its names.
- `AcqParams` with `AcqParams.default` and `AcqParams.captureMode`.
- `Timings` with `Timings.ofSettings`.
-/

set_option autoImplicit false

namespace CameraAcquisition

/-- The status of an acquisition session. -/
inductive Status where
  | ready
  | exposure
  | readout
  | latency
  | fault
  deriving Repr, BEq, DecidableEq, Inhabited

namespace Status

/-- The name of a status. -/
def name : Status → String
  | ready => "Ready"
  | exposure => "Exposure"
  | readout => "Readout"
  | latency => "Latency"
  | fault => "Fault"

/-- All statuses, in order. -/
def all : List Status := [ready, exposure, readout, latency, fault]

/-- The status of a name. -/
def ofName? (s : String) : Option Status := all.find? (·.name == s)

/-- A plain change: a fault stays. -/
def set (current next : Status) : Status := if current = fault then fault else next

/-- A forced change. -/
def force (_current next : Status) : Status := next

@[simp] theorem set_fault (next : Status) : set fault next = fault := rfl

end Status

/-- How exposures are started. -/
inductive TrigMode where
  /-- Software started; the camera paces the frames. -/
  | intTrig
  /-- One software trigger per frame. -/
  | intTrigMult
  /-- One external trigger starts the whole sequence. -/
  | extTrigSingle
  /-- One external trigger per frame. -/
  | extTrigMult
  /-- The exposure lasts as long as the external gate. -/
  | extGate
  /-- The external trigger ends the exposure and starts the readout. -/
  | extTrigReadout
  deriving Repr, BEq, DecidableEq, Inhabited

namespace TrigMode

/-- The name of a mode. -/
def name : TrigMode → String
  | intTrig => "IntTrig"
  | intTrigMult => "IntTrigMult"
  | extTrigSingle => "ExtTrigSingle"
  | extTrigMult => "ExtTrigMult"
  | extGate => "ExtGate"
  | extTrigReadout => "ExtTrigReadout"

/-- All modes, in order. -/
def all : List TrigMode := [intTrig, intTrigMult, extTrigSingle, extTrigMult, extGate, extTrigReadout]

/-- The mode of a name. -/
def ofName? (s : String) : Option TrigMode := all.find? (·.name == s)

end TrigMode

/-- The parameters of the next acquisition. -/
structure AcqParams where
  trigMode : TrigMode
  /-- Exposure time in seconds, as last set. -/
  expTime : Float
  /-- Pause between frames in seconds. -/
  latTime : Float
  /-- Number of frames; zero runs until stopped. -/
  nbFrames : Nat
  extTrigger : ExtTrigger
  triggerEdge : EdgeSetting
  deriving Inhabited

namespace AcqParams

/-- One frame of 10 ms, internally triggered, without pause. -/
def default : AcqParams where
  trigMode := .intTrig
  expTime := 0.01
  latTime := 0.0
  nbFrames := 1
  extTrigger := .standard
  triggerEdge := .rising

/-- The capture mode a run is armed in. -/
def captureMode (p : AcqParams) : Sdk.CaptureMode :=
  match p.trigMode with
  | .intTrig => .triggerSoftware
  | _ => p.extTrigger.captureMode

end AcqParams

/-- The timing and retry policy of the controller, in milliseconds. -/
structure Timings where
  armSettleMs : Nat
  abortRetryMs : Nat
  triggerPeriodMs : Nat
  maxConsecutiveWaitFailures : Nat
  deriving Repr, BEq, DecidableEq, Inhabited

namespace Timings

/-- The timings a camera's settings ask for. -/
def ofSettings (s : Settings) : Timings where
  armSettleMs := s.armSettleMs
  abortRetryMs := s.abortRetryMs
  triggerPeriodMs := s.internalTriggerPeriodMs
  maxConsecutiveWaitFailures := s.maxConsecutiveWaitFailures

/-- The timings of the default settings. -/
def default : Timings := ofSettings Settings.default

end Timings

end CameraAcquisition
