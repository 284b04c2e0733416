import CameraAcquisition.Bench.Step
import CameraAcquisition.Settings.Load

/-!
# A test bench session

A bench holds a simulated camera, the host, the camera opened on them (if any), the devices
opened directly, the SDK frame of the last direct allocation, and a start running in the
background. Requests run one after the other; a request that needs a camera or a device the
bench does not have fails without touching it.

The acquisition worker moves only when a request waits for it: waiting for the run to end,
for a status, or for the listener to hold on, and stopping, resetting or closing the camera.
A start in the background stays in its settle pause until it is joined or cancelled by a
stop.

## What this module delivers

- `PendingStart`, `Bench` with `Bench.exec`, one request.
- `benchSettings`, `benchSimConfig`, `Bench.hostRing`, `Bench.setUp` and `runSession`.
-/

set_option autoImplicit false

namespace CameraAcquisition

/-- A start running in the background: on the camera's second host thread, or finished with
a result after the camera was closed. -/
inductive PendingStart where
  | onThread
  | done (r : Except CameraError Unit)
  deriving Inhabited

/-- A test bench. -/
structure Bench where
  sim : Sdk.Simulator
  host : Host
  camera : Option Camera
  /-- Indices of the devices opened directly, oldest first. -/
  devices : List Nat
  /-- The SDK frame of the last direct allocation. -/
  slot : Option Sdk.Frame
  pending : Option PendingStart
  deriving Inhabited

/-- The settings a camera session uses without a settings document: fast timings and a
fault after three failed waits. -/
def benchSettings : Settings :=
  { Settings.default with
    internalTriggerPeriodMs := 2
    armSettleMs := 0
    abortRetryMs := 5
    maxConsecutiveWaitFailures := 3 }

/-- The simulated camera of a session: the default one with a 2 ms external trigger. -/
def benchSimConfig : Sdk.SimConfig := { Sdk.SimConfig.default with triggerPeriodMs := 2 }

namespace Bench

/-- No camera is open. -/
def noCamera : Fault := .missing "no camera open"

/-- No device is open. -/
def noDevice : Fault := .missing "no device open"

/-- The camera with the bench's camera and host. -/
def station? (b : Bench) : Option Station := b.camera.map fun c => ⟨c, b.sim, b.host⟩

/-- The bench after its camera's station changed. -/
def withStation (b : Bench) (st : Station) : Bench :=
  { b with camera := some st.cam, sim := st.sim, host := st.host }

/-- Answers from the camera's state. -/
def fromCamera (b : Bench) (f : Camera → Doc) : Answer × Bench :=
  match b.camera with
  | some c => (.ok (f c), b)
  | none => (.error noCamera, b)

/-- Runs a camera operation. -/
def onCamera {α : Type} (b : Bench) (a : CamAct α) (k : α → Doc) : Answer × Bench :=
  match b.station? with
  | none => (.error noCamera, b)
  | some st =>
    let (r, st) := a.exec st
    ((r.map k).mapError Fault.ofCamera, b.withStation st)

/-- Runs a host interface operation. -/
def onHw {α : Type} (b : Bench) (a : HwAct α) (k : α → Doc) : Answer × Bench :=
  match b.station? with
  | none => (.error noCamera, b)
  | some st =>
    let (r, st) := a.exec st
    ((r.map k).mapError Fault.ofHost, b.withStation st)

/-- Answers null. -/
def unit {α : Type} (_ : α) : Doc := .null

/-- Makes a raw SDK call. -/
def sdkAnswer {α : Type} (b : Bench) (f : Sdk.Simulator → Sdk.Answer α) (k : α → Doc) :
    Answer × Bench :=
  let (r, sim) := f b.sim
  ((r.map k).mapError Fault.ofCall, { b with sim })

/-- A raw SDK call on the bench's simulated camera. -/
def sdkCall (c : SdkCall) (b : Bench) : Answer × Bench :=
  match c with
  | .devInfo id => b.sdkAnswer (Sdk.Simulator.devInfo id) Doc.ofInfo
  | .propAttr id => b.sdkAnswer (Sdk.Simulator.propAttr id) Doc.ofPropAttr
  | .propValue id => b.sdkAnswer (Sdk.Simulator.propValue id) Doc.float
  | .setPropValue id v => b.sdkAnswer (Sdk.Simulator.setPropValue id v) unit
  | .capaValue id => b.sdkAnswer (Sdk.Simulator.capaValue id) Doc.int
  | .setCapaValue id v => b.sdkAnswer (Sdk.Simulator.setCapaValue id v) unit
  | .bufAlloc =>
    match b.sim.bufAlloc with
    | (.ok f, sim) => (.ok (Doc.ofFrame f), { b with sim, slot := some f })
    | (.error e, sim) => (.error (Fault.ofCall e), { b with sim })
  | .bufRelease => b.sdkAnswer Sdk.Simulator.bufRelease unit
  | .capTrigger => b.sdkAnswer Sdk.Simulator.capTrigger Doc.ofTriggerAttr
  | .setCapTrigger attr => b.sdkAnswer (Sdk.Simulator.setCapTrigger attr) unit
  | .capStart mode => b.sdkAnswer (Sdk.Simulator.capStart mode) unit
  | .capStop => b.sdkAnswer Sdk.Simulator.capStop unit
  | .waitForFrame =>
    match b.slot with
    | none => (.error (.missing "no frame allocated"), b)
    | some f =>
      match b.sim.waitForFrame true f with
      | (.captured f, sim) => (.ok (Doc.ofFrame f), { b with sim, slot := some f })
      | (.failed e, sim) => (.error (Fault.ofCall e), { b with sim })
      | (_, sim) => (.error (.timeout "frame wait blocked"), { b with sim })
  | .abortWait => b.sdkAnswer Sdk.Simulator.abortWait unit
  | .doSoftwareTrigger => b.sdkAnswer Sdk.Simulator.doSoftwareTrigger unit
  | .roi => b.sdkAnswer Sdk.Simulator.getRoi Doc.ofRoiAttr
  | .setRoi attr => b.sdkAnswer (Sdk.Simulator.setRoi attr) unit
  | .triggerOut channel => b.sdkAnswer (Sdk.Simulator.triggerOut channel) Doc.ofTriggerOut
  | .setTriggerOut attr => b.sdkAnswer (Sdk.Simulator.setTriggerOut attr) unit

/-- A test hook of the simulated camera. -/
def simStep (s : SimStep) (b : Bench) : Answer × Bench :=
  match s with
  | .stats fields =>
    let fs := fields.getD StatField.all
    (.ok (.obj (fs.map fun f => (f.name, Doc.nat (f.value b.sim.stats)))), b)
  | .failNextWaits n => (.ok .null, { b with sim := b.sim.armWaitFailures n })
  | .failNextAlloc => (.ok .null, { b with sim := b.sim.armAllocFailure })
  | .isCapturing => (.ok (.bool b.sim.isCapturing), b)
  | .isAllocated => (.ok (.bool b.sim.allocated), b)
  | .triggerAttr => (.ok (Doc.ofTriggerAttr b.sim.trigger), b)
  | .config => (.ok (Doc.ofSimConfig b.sim.config), b)

/-- A call that bypasses any device. -/
def sdkStep (s : SdkStep) (b : Bench) : Answer × Bench :=
  match s with
  | .apiInit => b.sdkAnswer Sdk.Simulator.apiInit Doc.nat
  | .apiUninit => (.ok .null, { b with sim := b.sim.apiUninit })
  | .devOpen index => b.sdkAnswer (Sdk.Simulator.devOpen index) unit
  | .devClose => (.ok .null, { b with sim := b.sim.devClose })
  | .call c => sdkCall c b

/-- The device `dev` calls go through: the oldest one opened directly, or the camera's. -/
def deviceIndex? (b : Bench) : Option Nat :=
  match b.devices with
  | i :: _ => some i
  | [] => b.camera.map (·.ctl.deviceIndex)

/-- A call through a device. -/
def devStep (s : DevStep) (b : Bench) : Answer × Bench :=
  match s with
  | .openDevice index =>
    match b.sim.openDevice index with
    | (.ok (), sim) => (.ok (Doc.nat index), { b with sim, devices := b.devices ++ [index] })
    | (.error e, sim) => (.error (Fault.ofDevice e), { b with sim })
  | .close =>
    match b.devices with
    | _ :: rest => (.ok .null, { b with sim := b.sim.closeDevice, devices := rest })
    | [] => (.error noDevice, b)
  | .index =>
    match b.deviceIndex? with
    | some i => (.ok (Doc.nat i), b)
    | none => (.error noDevice, b)
  | .call c => if b.deviceIndex?.isSome then sdkCall c b else (.error noDevice, b)

/-- A camera call. -/
def camStep (s : CamStep) (b : Bench) : Answer × Bench :=
  match s with
  | .detectorType => b.fromCamera fun _ => .str detectorType
  | .detectorModel => b.onCamera Camera.detectorModel Doc.str
  | .detectorImageSize => b.fromCamera fun _ => Doc.ofSize detectorSize
  | .pixelSize => b.fromCamera fun _ => Doc.pixelSizes
  | .imageType => b.fromCamera fun _ => .str Depth.bpp16.name
  | .setImageType d => b.onCamera (Camera.setImageType d) unit
  | .checkTrigMode m => b.fromCamera fun _ => .bool (Camera.checkTrigMode m)
  | .setTrigMode m => b.onCamera (Camera.setTrigMode m) unit
  | .trigMode => b.fromCamera fun c => .str c.ctl.params.trigMode.name
  | .setExpTime v => b.onCamera (Camera.setExpTime v) unit
  | .expTime => b.onCamera Camera.expTime Doc.float
  | .setLatTime v => b.onCamera (Camera.setLatTime v) unit
  | .latTime => b.fromCamera fun c => .float c.ctl.params.latTime
  | .setNbFrames n => b.onCamera (Camera.setNbFrames n) unit
  | .nbFrames => b.fromCamera fun c => Doc.nat c.ctl.params.nbFrames
  | .validRanges => b.fromCamera fun _ => Doc.validRanges
  | .setExtTriggerMode m => b.onCamera (updateParams fun p => { p with extTrigger := m }) unit
  | .extTriggerMode => b.fromCamera fun c => .str c.ctl.params.extTrigger.name
  | .setTriggerEdge e => b.onCamera (updateParams fun p => { p with triggerEdge := e }) unit
  | .triggerEdge => b.fromCamera fun c => .str c.ctl.params.triggerEdge.name
  | .checkRoi r => b.onCamera (Camera.checkRoi r) Doc.ofRoi
  | .setRoi r => b.onCamera (Camera.setRoi r) unit
  | .roi => b.onCamera Camera.roi Doc.ofRoi
  | .checkBin bn => b.onCamera (Camera.checkBin bn) Doc.ofBin
  | .setBin bn => b.onCamera (Camera.checkBin bn) unit
  | .bin => b.fromCamera fun _ => Doc.ofBin Bin.identity
  | .setTemperatureTarget v => b.onCamera (Camera.setTemperatureTarget v) unit
  | .temperatureTarget => b.fromCamera fun c => Doc.opt Doc.float c.temperatureTarget
  | .temperature => b.onCamera Camera.temperature Doc.float
  | .setFanSpeed v => b.onCamera (Camera.setFanSpeed v) unit
  | .fanSpeed => b.onCamera Camera.fanSpeed Doc.int
  | .setGlobalGain g => b.onCamera (Camera.setGlobalGain g) unit
  | .globalGain => b.onCamera Camera.globalGain fun g => .str g.name
  | .sdkVersion => b.onCamera Camera.sdkVersion Doc.str
  | .firmwareVersion => b.onCamera Camera.firmwareVersion Doc.str
  | .setOutputSignal channel signal edge delay width =>
    b.onCamera (Camera.setOutputSignal channel signal edge delay width) unit
  | .outputSignal channel => b.onCamera (Camera.outputSignal channel) Doc.ofTriggerOut
  | .prepareAcq => b.onCamera (acq Acquisition.prepare) unit
  | .startAcq => b.onCamera (acq Acquisition.start) unit
  | .stopAcq => b.onCamera (acq Acquisition.stop) unit
  | .reset => b.onCamera (acq Acquisition.reset) unit
  | .status => b.fromCamera fun c => .str c.ctl.status.name
  | .nbHwAcquiredFrames => b.fromCamera fun c => Doc.nat c.ctl.frameCount

/-- An acquisition controller call. -/
def acqStep (s : AcqStep) (b : Bench) : Answer × Bench :=
  match s with
  | .isRunning => b.fromCamera fun c => .bool c.ctl.isActive
  | .isPrepared => b.fromCamera fun c => .bool c.ctl.isPrepared
  | .params => b.fromCamera fun c => Doc.ofParams c.ctl.params
  | .timings => b.fromCamera fun c => Doc.ofTimings c.ctl.timings
  | .releaseBuffer => b.onCamera (acq Acquisition.releaseBuffer) unit
  | .setParams u => b.onCamera (updateParams u.apply) unit
  | .prepare => b.onCamera (acq Acquisition.prepare) unit
  | .start => b.onCamera (acq Acquisition.start) unit
  | .stop => b.onCamera (acq Acquisition.stop) unit
  | .reset => b.onCamera (acq Acquisition.reset) unit
  | .status => b.fromCamera fun c => .str c.ctl.status.name
  | .acquiredFrameCount => b.fromCamera fun c => Doc.nat c.ctl.frameCount
  | .hasWorkerThread => b.fromCamera fun _ => .bool true
  | .deviceIndex => b.fromCamera fun c => Doc.nat c.ctl.deviceIndex
  | .bufferFrameDim => b.fromCamera fun _ => Doc.ofLayout b.host.ring.layout

/-- A host interface call. -/
def hwStep (s : HwStep) (b : Bench) : Answer × Bench :=
  match s with
  | .capList => b.fromCamera fun _ => .arr (capabilities.map fun c => .str c.name)
  | .capListDebug => b.fromCamera fun _ => .arr (capabilities.map fun c => .str c.debugName)
  | .reset _ => b.onHw Interface.reset unit
  | .prepareAcq => b.onHw Interface.prepareAcq unit
  | .startAcq => b.onHw (hw (acq Acquisition.start)) unit
  | .stopAcq => b.onHw (hw (acq Acquisition.stop)) unit
  | .status => b.fromCamera fun c => .str c.ctl.status.name
  | .nbHwAcquiredFrames => b.fromCamera fun c => Doc.nat c.ctl.frameCount
  | .maxImageSize => b.fromCamera fun _ => Doc.ofSize detectorSize
  | .detectorImageSize => b.fromCamera fun _ => Doc.ofSize detectorSize
  | .defImageType => b.fromCamera fun _ => .str Depth.bpp16.name
  | .curImageType => b.fromCamera fun _ => .str Depth.bpp16.name
  | .setCurImageType d => b.onHw (hw (Camera.setImageType d)) unit
  | .pixelSize => b.fromCamera fun _ => Doc.pixelSizes
  | .detectorType => b.fromCamera fun _ => .str detectorType
  | .detectorModel => b.onHw (hw Camera.detectorModel) Doc.str
  | .checkTrigMode m => b.fromCamera fun _ => .bool (Camera.checkTrigMode m)
  | .setTrigMode m => b.onHw (hw (Camera.setTrigMode m)) unit
  | .trigMode => b.fromCamera fun c => .str c.ctl.params.trigMode.name
  | .setExpTime v => b.onHw (hw (Camera.setExpTime v)) unit
  | .expTime => b.onHw (hw Camera.expTime) Doc.float
  | .setLatTime v => b.onHw (hw (Camera.setLatTime v)) unit
  | .latTime => b.fromCamera fun c => .float c.ctl.params.latTime
  | .setNbHwFrames n => b.onHw (hw (Camera.setNbFrames n)) unit
  | .nbHwFrames => b.fromCamera fun c => Doc.nat c.ctl.params.nbFrames
  | .validRanges => b.fromCamera fun _ => Doc.validRanges
  | .checkRoi r => b.onHw (hw (Camera.checkRoi r)) Doc.ofRoi
  | .setRoi r => b.onHw (hw (Camera.setRoi r)) unit
  | .roi => b.onHw (hw Camera.roi) Doc.ofRoi
  | .checkBin bn => b.onHw (hw (Camera.checkBin bn)) Doc.ofBin
  | .setBin bn => b.onHw (hw (Camera.checkBin bn)) unit
  | .bin => b.fromCamera fun _ => Doc.ofBin Bin.identity

/-- The bench with its host's ring changed. -/
def withRing (b : Bench) (r : Ring) : Bench := { b with host := { b.host with ring := r } }

/-- Whether the listener holds on at the gate, and at which frame. -/
def heldFrame? (p : Plant) : Option Nat :=
  match p.worker with
  | .acquiring _ _ _ (.holding n _) => if p.host.gateOpen then none else some n
  | _ => none

/-- Waits until the listener holds on, and answers its frame. -/
def waitBlocked (b : Bench) : Answer × Bench :=
  match b.station? with
  | none => (.error (.timeout "callback not blocked"), b)
  | some st =>
    let (p, _) := Worker.runUntil false (fun p => (heldFrame? p).isSome) Worker.fuel st.plant
    let b := b.withStation (st.withPlant p)
    match heldFrame? p with
    | some n => (.ok (Doc.nat n), b)
    | none => (.error (.timeout "callback not blocked"), b)

/-- A call on the host's buffers. -/
def bufStep (s : BufStep) (b : Bench) : Answer × Bench :=
  let ring := b.host.ring
  match s with
  | .setFrameDim l => (.ok .null, b.withRing (ring.setLayout l))
  | .frameDim => (.ok (Doc.ofLayout ring.layout), b)
  | .setNbBuffers n =>
    match ring.setCount n with
    | .ok r => (.ok .null, b.withRing r)
    | .error e => (.error (Fault.ofHost e), b)
  | .nbBuffers => (.ok (Doc.nat ring.count), b)
  | .setNbConcatFrames n =>
    match Ring.checkConcat n with
    | .ok () => (.ok .null, b)
    | .error e => (.error (Fault.ofHost e), b)
  | .nbConcatFrames => (.ok (Doc.nat 1), b)
  | .setStartTimestamp => (.ok .null, b.withRing ring.markStart)
  | .hasStartTimestamp => (.ok (.bool ring.started), b)
  | .lastAcquiredFrame => (.ok (Doc.opt Doc.nat ring.lastFrame), b)
  | .frameBuffer n => (.ok (Doc.ofBytes (ring.slot n)), b)
  | .fill n v => (.ok .null, b.withRing (ring.fill n v))
  | .registerCallback l => (.ok .null, { b with host := b.host.listen l })
  | .waitBlocked => waitBlocked b
  | .openGate => (.ok .null, { b with host := b.host.openGate })
  | .unregisterCallback => (.ok .null, { b with host := b.host.unlisten })
  | .callbackLog data =>
    let entry (h : Heard) : Doc :=
      if data then .obj [("n", Doc.nat h.frame), ("data", Doc.ofDigest h.digest)]
      else .obj [("n", Doc.nat h.frame), ("len", Doc.nat h.digest.size)]
    (.ok (.arr (b.host.journal.toList.map entry)), b)
  | .clearCallbackLog => (.ok .null, { b with host := { b.host with journal := #[] } })
  | .newFrameReady n =>
    let (host, verdict) := b.host.announce n
    (.ok (.bool verdict.keepGoing), { b with host })

/-- Waits until no run is going on. -/
def waitIdle (b : Bench) : Answer × Bench :=
  match b.station? with
  | none => (.error noCamera, b)
  | some st =>
    if st.cam.ctl.arming then (.error (.timeout "acquisition still running"), b)
    else
      let (p, halt) := Worker.runUntil false (fun p => !p.ctl.isActive) Worker.fuel st.plant
      let b := b.withStation (st.withPlant p)
      match halt with
      | .reached | .finished => (.ok .null, b)
      | _ => (.error (.timeout "acquisition still running"), b)

/-- Waits until the status is `s`, and answers the last status seen. -/
def waitStatus (s : Status) (b : Bench) : Answer × Bench :=
  match b.station? with
  | none => (.error noCamera, b)
  | some st =>
    let (p, _) := Worker.runUntil false (fun p => p.ctl.status == s) Worker.fuel st.plant
    (.ok (.str p.ctl.status.name), b.withStation (st.withPlant p))

/-- The host thread a background start runs on. -/
def backgroundThread : Nat := 1

/-- Starts an acquisition in the background: the start runs on its own host thread until
it waits out its settle pause or returns. -/
def startAsync (b : Bench) : Answer × Bench :=
  match b.station?, b.pending with
  | none, _ => (.error noCamera, b)
  | some _, some _ => (.error (.missing "start already pending"), b)
  | some st, none =>
    let p := st.plant.setCaller backgroundThread (.busy .start)
    let settling (c : Call) : Bool := c matches .settling _
    match Acquisition.drive settling backgroundThread Worker.fuel p with
    | some p => (.ok .null, { b.withStation (st.withPlant p) with pending := some .onThread })
    | none =>
      (.ok .null, { b.withStation (st.withPlant p) with
                    pending := some (.done (.error Acquisition.stuck)) })

/-- Waits for the background start and answers its result. -/
def joinStart (b : Bench) : Answer × Bench :=
  match b.pending with
  | none => (.error (.missing "no start pending"), b)
  | some (.done r) => ((r.map unit).mapError Fault.ofCamera, { b with pending := none })
  | some .onThread =>
    let b := { b with pending := none }
    match b.station? with
    | none => (.ok .null, b)
    | some st =>
      let p := st.plant
      let (r, p) := match Acquisition.drive (fun _ => false) backgroundThread Worker.fuel p with
        | some q =>
          match q.callers backgroundThread with
          | .returned r => (r, q)
          | _ => (.error Acquisition.stuck, q)
        | none => (.error Acquisition.stuck, p)
      ((r.map unit).mapError Fault.ofCamera,
        b.withStation (st.withPlant (p.setCaller backgroundThread .idle)))

/-- Closes the camera, after opening the listener's gate. -/
def drop (b : Bench) : Answer × Bench :=
  match b.station? with
  | none => (.error noCamera, b)
  | some st =>
    let (sim, host, background) := closeCamera { st with host := st.host.openGate }
    let pending := match b.pending, background with
      | some .onThread, .returned r => some (.done r)
      | pending, _ => pending
    (.ok .null, { b with sim, host, camera := none, pending })

/-- Runs one request. -/
def exec (s : Step) (b : Bench) : Answer × Bench :=
  match s with
  | .sim s => simStep s b
  | .sdk s => sdkStep s b
  | .dev s => devStep s b
  | .cam s => camStep s b
  | .acq s => acqStep s b
  | .hw s => hwStep s b
  | .buf s => bufStep s b
  | .waitIdle => waitIdle b
  | .waitStatus s => waitStatus s b
  | .sleep => (.ok .null, b)
  | .startAsync => startAsync b
  | .joinStart => joinStart b
  | .drop => drop b

/-- The host's buffers of a session: the default ring, or one of the given layout with the
given number of buffers. Asking for no buffers fails, and then the session does not run. -/
def hostRing (spec : SessionSpec) : Except HostError Ring :=
  match spec.buffer with
  | some bs =>
    let r := Ring.make bs.layout
    match bs.count with
    | some n => r.setCount n
    | none => .ok r
  | none => .ok Ring.default

/-- Sets up a bench on the host's buffers: the simulated camera and the camera or device the
session opens. The first part of the answer says whether opening succeeded. -/
def setUp (spec : SessionSpec) (ring : Ring) : Except Fault Unit × Bench :=
  let sim := Sdk.Simulator.make spec.sim
  let b : Bench := ⟨sim, Host.make ring, none, [], none, none⟩
  match spec.mode with
  | .sdk => (.ok (), b)
  | .device =>
    match sim.openDevice spec.index with
    | (.ok (), sim) => (.ok (), { b with sim, devices := [spec.index] })
    | (.error e, sim) => (.error (Fault.ofDevice e), { b with sim })
  | .camera =>
    let settings := match spec.config with
      | some text => loadSettings text
      | none => .ok benchSettings
    match settings with
    | .error e => (.error (Fault.ofCamera e), b)
    | .ok s =>
      match openCamera s b.sim b.host with
      | (.ok st, _) => (.ok (), b.withStation st)
      | (.error e, sim) => (.error (Fault.ofCamera e), { b with sim })

end Bench

/-- Runs a session: sets up the bench and runs the requests in order. A request that could
not be read is answered by its fault and changes nothing. When the host's buffers cannot be
made, nothing runs and the session is answered by that fault. -/
def runSession (spec : SessionSpec) (steps : List (Except Fault Step)) :
    Except Fault (Except Fault Unit × List Answer) := do
  let ring ← (Bench.hostRing spec).mapError Fault.ofHost
  let (opened, b) := Bench.setUp spec ring
  let rec go : List (Except Fault Step) → Bench → List Answer
    | [], _ => []
    | .error f :: rest, b => .error f :: go rest b
    | .ok s :: rest, b =>
      let (a, b) := b.exec s
      a :: go rest b
  return (opened, go steps b)

end CameraAcquisition
