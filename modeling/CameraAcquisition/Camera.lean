import CameraAcquisition.Acquisition.Schedule
import CameraAcquisition.Text.Decimal

/-!
# The camera

An opened camera: its acquisition controller, the grid its regions of interest snap to, and
the last temperature target set. Its properties are read from and written to the device;
the trigger mode, latency, frame count, external scheme and edge only change the parameters
of the next acquisition.

* The detector is a 2048 × 2048 sensor of 11 µm pixels with 16-bit pixels only.
* Exposure and latency times lie in [0, 10] s; the exposure goes to the device in ms.
* The internal, external multiple and external gate trigger modes are supported.
* A region inside the detector is snapped to the grid; an empty region means the full frame.
  Setting a region releases the prepared frame, so that the next prepare allocates one of
  the new size. Only 1 × 1 binning is supported.
* The temperature target is offset so that the middle of the device's range is 0 °C.
* There are three trigger outputs.

Opening a camera checks its settings, opens the device, reads the model and the exposure,
and applies the temperature target, fan speed and gain of the settings; if one of them
fails, the camera is closed again.

## What this module delivers

- The detector constants and `Camera`, `Station`, `CamAct`.
- `openCamera` and `closeCamera`.
- One operation per camera property.
-/

set_option autoImplicit false

namespace CameraAcquisition

/-- What the detector reports as its type. -/
def detectorType : String := "Tucsen - Dhyana"

/-- The sensor size in pixels. -/
def detectorSize : Size := ⟨2048, 2048⟩

/-- The pixel pitch in meters. -/
def pixelSize : Float := 11.0e-6

/-- The longest exposure time in seconds. -/
def maxExpTime : Float := 10.0

/-- The longest latency time in seconds. -/
def maxLatTime : Float := 10.0

/-- The number of trigger outputs. -/
def numTriggerOutputs : Nat := 3

/-- An opened camera: its controller with the controller's threads, the grid its regions
snap to, and the last temperature target set. -/
structure Camera where
  ctl : Controller
  worker : Worker
  timers : List Timer
  callers : Nat → Caller
  grid : Option Grid
  temperatureTarget : Option Float
  deriving Inhabited

/-- A camera with the simulated device and the host it works with. -/
structure Station where
  cam : Camera
  sim : Sdk.Simulator
  host : Host
  deriving Inhabited

/-- An operation on a camera that may fail; what it did before failing stays done. -/
abbrev CamAct (α : Type) := ExceptT CameraError (StateM Station) α

namespace Station

/-- The plant of the camera's controller. -/
def plant (st : Station) : Plant :=
  ⟨st.cam.ctl, st.cam.worker, st.cam.timers, st.cam.callers, st.sim, st.host⟩

/-- The station after its controller's plant changed. -/
def withPlant (st : Station) (p : Plant) : Station :=
  { cam := { st.cam with ctl := p.ctl, worker := p.worker, timers := p.timers,
                         callers := p.callers },
    sim := p.sim, host := p.host }

end Station

/-- Runs a camera operation on a station. -/
def CamAct.exec {α : Type} (a : CamAct α) (st : Station) : Except CameraError α × Station :=
  (a.run.run st).run

/-- Runs a controller operation on the camera's controller. -/
def acq {α : Type} (a : Act α) : CamAct α := ExceptT.mk fun st =>
  let (r, p) := a.run' st.plant
  (r, st.withPlant p)

/-- Makes a device call; its failure fails the operation. -/
def device {α : Type} (f : Sdk.Simulator → Sdk.Answer α) : CamAct α := acq (call f)

/-- The camera. -/
def getCam : CamAct Camera := do return (← get).cam

/-- Changes the camera. -/
def modifyCam (f : Camera → Camera) : CamAct Unit := modify fun st => { st with cam := f st.cam }

/-- Changes the parameters of the next acquisition. -/
def updateParams (f : AcqParams → AcqParams) : CamAct Unit :=
  modifyCam fun c => { c with ctl := { c.ctl with params := f c.ctl.params } }

/-- Rounds toward zero. -/
def truncate (x : Float) : Float := if x ≥ 0.0 then x.floor else x.ceil

namespace Camera

/-- The model name. -/
def detectorModel : CamAct String := do return (← device (Sdk.Simulator.devInfo .cameraModel)).text

/-- Only 16-bit pixels are supported. -/
def setImageType (d : Depth) : CamAct Unit :=
  if d = .bpp16 then pure () else throw (.notSupported s!"image type {d.name}")

/-- Whether a trigger mode is supported. -/
def checkTrigMode (m : TrigMode) : Bool :=
  m = .intTrig || m = .extTrigMult || m = .extGate

/-- Sets the trigger mode of the next acquisition. -/
def setTrigMode (m : TrigMode) : CamAct Unit := do
  if !checkTrigMode m then throw (.invalidValue s!"trigger mode {m.name}")
  updateParams fun p => { p with trigMode := m }

/-- Whether `v` lies in `[0, top]`; NaN does not. -/
def inRange (v top : Float) : Bool := 0.0 ≤ v && v ≤ top

/-- Sets the exposure time in seconds. -/
def setExpTime (v : Float) : CamAct Unit := do
  if !inRange v maxExpTime then
    throw (.invalidValue s!"exposure time {Text.showFloat v} s outside [0, {Text.showFloat maxExpTime}]")
  device (Sdk.Simulator.setPropValue .exposureTime (v * 1000.0))
  updateParams fun p => { p with expTime := v }

/-- The exposure time in seconds, read from the device. -/
def expTime : CamAct Float := do return (← device (Sdk.Simulator.propValue .exposureTime)) / 1000.0

/-- Sets the latency time in seconds. -/
def setLatTime (v : Float) : CamAct Unit := do
  if !inRange v maxLatTime then
    throw (.invalidValue s!"latency time {Text.showFloat v} s outside [0, {Text.showFloat maxLatTime}]")
  updateParams fun p => { p with latTime := v }

/-- Sets the number of frames of the next acquisition, zero for an endless one. -/
def setNbFrames (n : Int) : CamAct Unit := do
  if n < 0 then throw (.invalidValue s!"number of frames {n}")
  updateParams fun p => { p with nbFrames := n.toNat }

/-- The region the camera would use for `r`. -/
def checkRoi (r : Roi) : CamAct Roi := do
  if !r.isActive then return Roi.fullFrame detectorSize
  let (right, bottom) := r.bottomRight
  if right > detectorSize.width || bottom > detectorSize.height then
    throw (.invalidValue s!"ROI {r.text} outside of the {detectorSize.text} detector")
  match (← getCam).grid with
  | some g =>
    match g.fitWord r detectorSize with
    | .ok r' => return r'
    | .error o => throw (.overflow o)
  | none => return r

/-- Programs a region; the prepared frame is released first. -/
def setRoi (r : Roi) : CamAct Unit := do
  let r ← checkRoi r
  acq Acquisition.releaseBuffer
  let attr : Sdk.RoiAttr :=
    if r = Roi.fullFrame detectorSize then
      ⟨false, 0, 0, detectorSize.width, detectorSize.height⟩
    else ⟨true, r.topLeft.x, r.topLeft.y, r.size.width, r.size.height⟩
  device (Sdk.Simulator.setRoi attr)

/-- The region programmed in the device. -/
def roi : CamAct Roi := do
  let attr ← device Sdk.Simulator.getRoi
  if attr.enable then return Roi.make attr.hOffset attr.vOffset attr.width attr.height
  else return Roi.fullFrame detectorSize

/-- Only 1 × 1 binning is supported. -/
def checkBin (b : Bin) : CamAct Bin :=
  if b.isIdentity then pure b else throw (.notSupported s!"binning {b.text}")

/-- Sets the temperature target in degrees C. -/
def setTemperatureTarget (t : Float) : CamAct Unit := do
  let attr ← device (Sdk.Simulator.propAttr .temperature)
  let middle := truncate (attr.max / 2.0)
  let raw := t + middle
  if raw < attr.min || raw > attr.max || raw.isNaN then
    throw (.invalidValue s!"temperature target {Text.showFloat t} out of range [{Text.showFloat (attr.min - middle)}, {Text.showFloat (attr.max - middle)}]")
  device (Sdk.Simulator.setPropValue .temperature raw)
  modifyCam fun c => { c with temperatureTarget := some t }

/-- The sensor temperature in degrees C. -/
def temperature : CamAct Float := device (Sdk.Simulator.propValue .temperature)

/-- Sets the fan gear. -/
def setFanSpeed (v : Int) : CamAct Unit := device (Sdk.Simulator.setCapaValue .fanGear v)

/-- The fan gear. -/
def fanSpeed : CamAct Int := device (Sdk.Simulator.capaValue .fanGear)

/-- Sets the gain. -/
def setGlobalGain (g : Gain) : CamAct Unit :=
  device (Sdk.Simulator.setPropValue .globalGain g.propValue)

/-- The gain read from the device. -/
def globalGain : CamAct Gain := do
  let v ← device (Sdk.Simulator.propValue .globalGain)
  match Gain.ofPropValue v with
  | some g => return g
  | none => throw (.invalidValue s!"global gain value {Text.showFloat v}")

/-- The SDK version. -/
def sdkVersion : CamAct String := do return (← device (Sdk.Simulator.devInfo .versionApi)).text

/-- The firmware version, the decimal of the device's value. -/
def firmwareVersion : CamAct String := do
  return toString (← device (Sdk.Simulator.devInfo .versionFirmware)).value

/-- Refuses channels past the last. -/
def checkChannel (channel : Nat) : CamAct Unit :=
  if channel ≥ numTriggerOutputs then
    throw (.invalidValue s!"output port {channel}, valid range is [0-{numTriggerOutputs - 1}]")
  else pure ()

/-- Routes a signal to a trigger output; absent delay and width keep their values. -/
def setOutputSignal (channel : Nat) (signal : Sdk.OutputSignal) (edge : Sdk.SignalEdge)
    (delay width : Option Nat) : CamAct Unit := do
  checkChannel channel
  device (Sdk.Simulator.setTriggerOut ⟨channel, signal, edge, delay, width⟩)

/-- A trigger output's setting. -/
def outputSignal (channel : Nat) : CamAct Sdk.TriggerOutAttr := do
  checkChannel channel
  device (Sdk.Simulator.triggerOut channel)

/-- The status. -/
def status : CamAct Status := do return (← getCam).ctl.status

/-- Frames handed to the host since the last start. -/
def nbHwAcquiredFrames : CamAct Nat := do return (← getCam).ctl.frameCount

end Camera

/-- Closes a camera: its controller shuts down, then the device closes. The answer also
gives where the controller's background host thread was left. -/
def closeCamera (st : Station) : Sdk.Simulator × Host × Caller :=
  let st := ((acq Acquisition.shutdown).run st).run.2
  (st.sim.closeDevice, st.host, st.cam.callers 1)

/-- Opens the camera of the settings on the simulated device, for the host. -/
def openCamera (s : Settings) (sim : Sdk.Simulator) (host : Host) :
    Except CameraError Station × Sdk.Simulator :=
  match s.validate with
  | .error f => (.error (.config f.message), sim)
  | .ok () =>
    match sim.openDevice s.cameraIndex with
    | (.error e, sim) => (.error (.device e), sim)
    | (.ok (), sim) =>
      match sim.devInfo .cameraModel with
      | (.error e, sim) => (.error (.ofCall e), sim.closeDevice)
      | (.ok _, sim) =>
        match sim.propValue .exposureTime with
        | (.error e, sim) => (.error (.ofCall e), sim.closeDevice)
        | (.ok exposure, sim) =>
          let params := { AcqParams.default with
            expTime := exposure / 1000.0, extTrigger := s.triggerMode,
            triggerEdge := s.triggerEdge }
          let ctl := Controller.make params (Timings.ofSettings s) s.cameraIndex
          let st : Station := ⟨⟨ctl, .idle, [], fun _ => .idle, s.roiConstraint, none⟩, sim, host⟩
          let setup : CamAct Unit := do
            if let some t := s.temperatureTarget then Camera.setTemperatureTarget t
            if let some v := s.fanSpeed then Camera.setFanSpeed v
            if let some g := s.globalGain then Camera.setGlobalGain g
          match (setup.run st).run with
          | (.ok (), st) => (.ok st, st.sim)
          | (.error e, st) => (.error e, (closeCamera st).1)

end CameraAcquisition
