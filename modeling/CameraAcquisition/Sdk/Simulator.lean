import CameraAcquisition.Sdk.Code
import CameraAcquisition.Sdk.Attr
import CameraAcquisition.Sdk.Frame

/-!
# A simulated camera behind the SDK calls

The simulated camera answers every SDK call from one state. Calls other than initialising
and opening need an initialised API and an opened device. Frames come one per software
trigger, one per period of the external trigger, or back to back when free running; a frame
wait can be aborted, and test hooks make the next waits or the next allocation fail. Call
counters record buffer allocations, capture starts and stops, software triggers, consumed
aborts and captured frames.

Time is not modelled: a wait that only needs time to pass returns its frame at once, and a
software-triggered wait with no trigger pending reports that it would block (`starved`). An
impatient wait reports a wait that outlasts every poll (`lasting`): an external trigger
period or an exposure of five seconds or more.

## What this module delivers

- `SimConfig`, `SimStats`, `Simulator` and `Simulator.make`.
- One function per SDK call, each returning the call's `Answer` and the state after it.
- `Simulator.waitForFrame` with its outcome `Wait`.
-/

set_option autoImplicit false

namespace CameraAcquisition.Sdk

/-- What a simulated camera is built from. -/
structure SimConfig where
  cameraCount : Nat
  sensorWidth : Nat
  sensorHeight : Nat
  model : String
  apiVersion : String
  firmware : Int
  /-- Interval between frames in the external trigger modes, in milliseconds. -/
  triggerPeriodMs : Nat
  deriving Repr, BEq, DecidableEq, Inhabited

/-- One 2048 × 2048 camera with firmware `0x0102` and a 5 ms external trigger. -/
def SimConfig.default : SimConfig :=
  { cameraCount := 1, sensorWidth := 2048, sensorHeight := 2048,
    model := "Dhyana 4040 (simulated)", apiVersion := "TUCAM 1.0.0 (simulated)",
    firmware := 0x0102, triggerPeriodMs := 5 }

/-- Counters of calls made on a simulated camera. -/
structure SimStats where
  bufAllocs : Nat := 0
  bufReleases : Nat := 0
  capStarts : Nat := 0
  capStops : Nat := 0
  softwareTriggers : Nat := 0
  aborts : Nat := 0
  frames : Nat := 0
  deriving Repr, BEq, DecidableEq, Inhabited

/-- Exposure time range in milliseconds. -/
def exposureAttr : PropAttr := { min := 0.0, max := 10000.0, default := 10.0, step := 0.001 }

/-- Temperature set point range in raw units; the middle of the range is 0 °C. -/
def temperatureAttr : PropAttr := { min := 0.0, max := 100.0, default := 40.0, step := 1.0 }

/-- Gain range. -/
def gainAttr : PropAttr := { min := 0.0, max := 2.0, default := 1.0, step := 1.0 }

/-- Number of trigger outputs. -/
def triggerOutputs : Nat := 3

/-- Bytes of header before every image. -/
def headerBytes : Nat := 64

/-- The highest fan gear. -/
def maxFanGear : Int := 3

/-- The state of a simulated camera. -/
structure Simulator where
  config : SimConfig
  initialized : Bool
  opened : Bool
  exposureMs : Float
  temperatureRaw : Float
  gain : Float
  fanGear : Int
  roi : RoiAttr
  trigger : TriggerAttr
  outputs : List TriggerOutAttr
  capture : Option CaptureMode
  allocated : Bool
  pendingTriggers : Nat
  abortPending : Bool
  nextIndex : Nat
  failNextWaits : Nat
  failNextAlloc : Bool
  stats : SimStats
  deriving Inhabited

/-- What a call answers, and the camera after the call. -/
abbrev Answer (α : Type) := Except CallError α × Simulator

/-- How a frame wait ends: with a frame, refused, blocked for want of a software trigger, or
still waiting after any poll's patience. -/
inductive Wait where
  | captured (f : Frame)
  | failed (e : CallError)
  | starved
  | lasting
  deriving Repr, BEq, Inhabited

/-- A wait of at least this many milliseconds outlasts every poll. -/
def patienceMs : Nat := 5000

namespace Simulator

/-- The region of a sensor when no region is enabled. -/
def fullRoi (c : SimConfig) : RoiAttr :=
  { enable := false, hOffset := 0, vOffset := 0, width := c.sensorWidth, height := c.sensorHeight }

/-- A camera just powered up: API not initialised, device closed, 10 ms exposure, set point
40 raw units, gain 1, fan off, full-sensor region, default trigger, every trigger output on
exposure start with no delay and a 5000 µs pulse. -/
def make (c : SimConfig) : Simulator :=
  { config := c, initialized := false, opened := false,
    exposureMs := exposureAttr.default, temperatureRaw := temperatureAttr.default,
    gain := gainAttr.default, fanGear := 0, roi := fullRoi c, trigger := TriggerAttr.default,
    outputs := (List.range triggerOutputs).map fun channel =>
      { channel, signal := .exposureStart, edge := .rising, delay := some 0, width := some 5000 },
    capture := none, allocated := false, pendingTriggers := 0, abortPending := false,
    nextIndex := 0, failNextWaits := 0, failNextAlloc := false, stats := {} }

/-- The refusal of a call that needs an initialised API and an opened device. -/
def closedError (s : Simulator) (call : String) : Option CallError :=
  if !s.initialized then some ⟨.notInit, call⟩
  else if !s.opened then some ⟨.notOpened, call⟩
  else none

/-- Runs `k` when the device is open, else refuses the call. -/
def whenOpen {α : Type} (s : Simulator) (call : String) (k : Unit → Answer α) : Answer α :=
  match s.closedError call with
  | some e => (.error e, s)
  | none => k ()

/-- Whether a value lies outside a property's range; NaN lies outside every range. -/
def outside (attr : PropAttr) (v : Float) : Bool :=
  v < attr.min || v > attr.max || v.isNaN

/-- Initialises the API and answers the number of cameras. -/
def apiInit (s : Simulator) : Answer Nat :=
  (.ok s.config.cameraCount, { s with initialized := true })

/-- Shuts the API down, which also closes the device. -/
def apiUninit (s : Simulator) : Simulator :=
  { s with initialized := false, opened := false }

/-- Opens camera `index`. -/
def devOpen (index : Nat) (s : Simulator) : Answer Unit :=
  if !s.initialized then (.error ⟨.notInit, "dev_open"⟩, s)
  else if index ≥ s.config.cameraCount then (.error ⟨.noCamera, "dev_open"⟩, s)
  else if s.opened then (.error ⟨.busy, "dev_open"⟩, s)
  else (.ok (), { s with opened := true })

/-- Closes the device, which also ends any capture. -/
def devClose (s : Simulator) : Simulator :=
  { s with opened := false, capture := none }

/-- Hex digits of a 32-bit word, without leading zeros. -/
def hexWord (v : Int) : String :=
  String.ofList (Nat.toDigits 16 (v % Int.pow 2 32).toNat)

/-- Reads an information entry. -/
def devInfo (id : InfoId) (s : Simulator) : Answer InfoValue :=
  s.whenOpen "dev_info" fun _ =>
    match id with
    | .cameraModel => (.ok ⟨s.config.model, 0⟩, s)
    | .versionApi => (.ok ⟨s.config.apiVersion, 0⟩, s)
    | .versionFirmware => (.ok ⟨hexWord s.config.firmware, s.config.firmware⟩, s)

/-- Reads the range of a property. -/
def propAttr (id : PropId) (s : Simulator) : Answer PropAttr :=
  s.whenOpen "prop_attr" fun _ =>
    match id with
    | .exposureTime => (.ok exposureAttr, s)
    | .temperature => (.ok temperatureAttr, s)
    | .globalGain => (.ok gainAttr, s)

/-- Reads a property; the temperature is the set point shifted so that the middle of the
range reads 0, as if the sensor had settled. -/
def propValue (id : PropId) (s : Simulator) : Answer Float :=
  s.whenOpen "prop_value" fun _ =>
    match id with
    | .exposureTime => (.ok s.exposureMs, s)
    | .temperature => (.ok (s.temperatureRaw - temperatureAttr.max / 2.0), s)
    | .globalGain => (.ok s.gain, s)

/-- Writes a property within its range; the gain is rounded. -/
def setPropValue (id : PropId) (v : Float) (s : Simulator) : Answer Unit :=
  s.whenOpen "set_prop_value" fun _ =>
    let attr := match id with
      | .exposureTime => exposureAttr
      | .temperature => temperatureAttr
      | .globalGain => gainAttr
    if outside attr v then (.error ⟨.outOfRange, "set_prop_value"⟩, s)
    else match id with
      | .exposureTime => (.ok (), { s with exposureMs := v })
      | .temperature => (.ok (), { s with temperatureRaw := v })
      | .globalGain => (.ok (), { s with gain := v.round })

/-- Reads a capability; the resolution is always 0. -/
def capaValue (id : CapaId) (s : Simulator) : Answer Int :=
  s.whenOpen "capa_value" fun _ =>
    match id with
    | .fanGear => (.ok s.fanGear, s)
    | .resolution => (.ok 0, s)

/-- Writes a capability: a fan gear from 0 to 3, or the resolution 0. -/
def setCapaValue (id : CapaId) (v : Int) (s : Simulator) : Answer Unit :=
  s.whenOpen "set_capa_value" fun _ =>
    match id with
    | .fanGear =>
      if v < 0 ∨ v > maxFanGear then (.error ⟨.outOfRange, "set_capa_value"⟩, s)
      else (.ok (), { s with fanGear := v })
    | .resolution =>
      if v ≠ 0 then (.error ⟨.outOfRange, "set_capa_value"⟩, s) else (.ok (), s)

/-- The size of the frames the camera delivers: the enabled region, else the sensor. -/
def frameSize (s : Simulator) : Nat × Nat :=
  if s.roi.enable then (s.roi.width, s.roi.height)
  else (s.config.sensorWidth, s.config.sensorHeight)

/-- Allocates the frame buffer; an armed allocation failure is spent here. -/
def bufAlloc (s : Simulator) : Answer Frame :=
  s.whenOpen "buf_alloc" fun _ =>
    if s.failNextAlloc then (.error ⟨.noMemory, "buf_alloc"⟩, { s with failNextAlloc := false })
    else if s.allocated then (.error ⟨.busy, "buf_alloc"⟩, s)
    else
      let (w, h) := s.frameSize
      (.ok (Frame.make w h 2 headerBytes), { s with
        allocated := true
        stats := { s.stats with bufAllocs := s.stats.bufAllocs + 1 } })

/-- Releases the frame buffer. -/
def bufRelease (s : Simulator) : Answer Unit :=
  s.whenOpen "buf_release" fun _ =>
    if !s.allocated then (.error ⟨.notInit, "buf_release"⟩, s)
    else
      (.ok (), { s with
        allocated := false
        stats := { s.stats with bufReleases := s.stats.bufReleases + 1 } })

/-- Reads the trigger set-up. -/
def capTrigger (s : Simulator) : Answer TriggerAttr :=
  s.whenOpen "cap_trigger" fun _ => (.ok s.trigger, s)

/-- Writes the trigger set-up, refused while capturing. -/
def setCapTrigger (attr : TriggerAttr) (s : Simulator) : Answer Unit :=
  s.whenOpen "set_cap_trigger" fun _ =>
    if s.capture.isSome then (.error ⟨.busy, "set_cap_trigger"⟩, s)
    else (.ok (), { s with trigger := attr })

/-- Starts a capture; pending triggers and a latched abort are dropped. -/
def capStart (mode : CaptureMode) (s : Simulator) : Answer Unit :=
  s.whenOpen "cap_start" fun _ =>
    if s.capture.isSome then (.error ⟨.busy, "cap_start"⟩, s)
    else
      (.ok (), { s with
        capture := some mode
        pendingTriggers := 0
        abortPending := false
        stats := { s.stats with capStarts := s.stats.capStarts + 1 } })

/-- Stops the capture; pending triggers and a latched abort are dropped. -/
def capStop (s : Simulator) : Answer Unit :=
  s.whenOpen "cap_stop" fun _ =>
    (.ok (), { s with
      capture := none
      pendingTriggers := 0
      abortPending := false
      stats := { s.stats with capStops := s.stats.capStops + 1 } })

/-- Writes the next frame into `f`: the frame number is the camera's counter, which wraps
at `2^32`. -/
def deliver (f : Frame) (s : Simulator) : Wait × Simulator :=
  (.captured (f.fill s.nextIndex),
    { s with
      nextIndex := (s.nextIndex + 1) % Nat.pow 2 32
      stats := { s.stats with frames := s.stats.frames + 1 } })

/-- Whether a frame in capture mode `mode` takes longer than any poll waits. -/
def isLasting (mode : CaptureMode) (s : Simulator) : Bool :=
  (mode != .triggerSoftware && mode != .sequence && s.config.triggerPeriodMs ≥ patienceMs)
    || s.exposureMs ≥ patienceMs.toFloat

/-- Waits for the next frame. The checks run in this order: device open, buffer allocated,
capture running, a latched abort (consumed and counted), an injected failure (consumed);
then a software-triggered capture without a pending trigger starves, an impatient wait for a
lasting frame reports it, and otherwise the frame is delivered, consuming a trigger in
software-triggered mode. -/
def waitForFrame (patient : Bool) (f : Frame) (s : Simulator) : Wait × Simulator :=
  match s.closedError "wait_for_frame" with
  | some e => (.failed e, s)
  | none =>
    if !s.allocated then (.failed ⟨.notInit, "wait_for_frame"⟩, s)
    else match s.capture with
      | none => (.failed ⟨.notInit, "wait_for_frame"⟩, s)
      | some mode =>
        if s.abortPending then
          (.failed ⟨.abort, "wait_for_frame"⟩, { s with
            abortPending := false
            stats := { s.stats with aborts := s.stats.aborts + 1 } })
        else if s.failNextWaits > 0 then
          (.failed ⟨.timeout, "wait_for_frame"⟩, { s with failNextWaits := s.failNextWaits - 1 })
        else if mode == .triggerSoftware && s.pendingTriggers = 0 then (.starved, s)
        else if !patient && s.isLasting mode then (.lasting, s)
        else if mode == .triggerSoftware then
          deliver f { s with pendingTriggers := s.pendingTriggers - 1 }
        else deliver f s

/-- Latches an abort for the current or the next frame wait. -/
def abortWait (s : Simulator) : Answer Unit :=
  s.whenOpen "abort_wait" fun _ => (.ok (), { s with abortPending := true })

/-- Fires a software trigger; only a software-triggered capture takes one. -/
def doSoftwareTrigger (s : Simulator) : Answer Unit :=
  s.whenOpen "do_software_trigger" fun _ =>
    if s.capture != some .triggerSoftware then (.error ⟨.notSupported, "do_software_trigger"⟩, s)
    else
      (.ok (), { s with
        pendingTriggers := s.pendingTriggers + 1
        stats := { s.stats with softwareTriggers := s.stats.softwareTriggers + 1 } })

/-- Reads the region. -/
def getRoi (s : Simulator) : Answer RoiAttr :=
  s.whenOpen "roi" fun _ => (.ok s.roi, s)

/-- Writes the region, refused while capturing. An enabled region must be non-empty and
inside the sensor; a disabled one resets to the full sensor. -/
def setRoi (attr : RoiAttr) (s : Simulator) : Answer Unit :=
  s.whenOpen "set_roi" fun _ =>
    if s.capture.isSome then (.error ⟨.busy, "set_roi"⟩, s)
    else if attr.enable then
      if attr.width = 0 ∨ attr.height = 0 then (.error ⟨.invalidParam, "set_roi"⟩, s)
      else if attr.hOffset + attr.width > s.config.sensorWidth
          ∨ attr.vOffset + attr.height > s.config.sensorHeight then
        (.error ⟨.outOfRange, "set_roi"⟩, s)
      else (.ok (), { s with roi := attr })
    else (.ok (), { s with roi := fullRoi s.config })

/-- Reads an trigger output. -/
def triggerOut (channel : Nat) (s : Simulator) : Answer TriggerOutAttr :=
  s.whenOpen "trigger_out" fun _ =>
    match s.outputs[channel]? with
    | some a => (.ok a, s)
    | none => (.error ⟨.invalidParam, "trigger_out"⟩, s)

/-- Writes an trigger output; an absent delay or width keeps the current one. -/
def setTriggerOut (attr : TriggerOutAttr) (s : Simulator) : Answer Unit :=
  s.whenOpen "set_trigger_out" fun _ =>
    match s.outputs[attr.channel]? with
    | none => (.error ⟨.invalidParam, "set_trigger_out"⟩, s)
    | some cur =>
      let new := { attr with delay := attr.delay <|> cur.delay, width := attr.width <|> cur.width }
      (.ok (), { s with outputs := s.outputs.set attr.channel new })

/-- Test hook: the next `n` frame waits fail with a timeout. -/
def armWaitFailures (n : Nat) (s : Simulator) : Simulator := { s with failNextWaits := n }

/-- Test hook: the next allocation fails for want of memory. -/
def armAllocFailure (s : Simulator) : Simulator := { s with failNextAlloc := true }

/-- Whether a capture is running. -/
def isCapturing (s : Simulator) : Bool := s.capture.isSome

end Simulator

end CameraAcquisition.Sdk
