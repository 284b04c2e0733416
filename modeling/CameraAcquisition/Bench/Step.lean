import CameraAcquisition.Doc

/-!
# Requests to a test bench

A bench is a simulated camera, a host and what was opened on them. A session on a bench runs
a list of requests; each is one call on one part of it:

* `sim` — the simulated camera's test hooks and counters,
* `sdk` — raw SDK calls on the simulated camera,
* `dev` — the same calls through an opened device,
* `cam`, `acq`, `hw` — the camera, its acquisition controller, and its host interface,
* `buf` — the host's buffers and listener,
* and a few of the bench's own: waiting for the run to end or for a status, starting in
  the background and joining that start, and dropping the camera.

## What this module delivers

- `StatField`, `SdkCall`, `SimStep`, `SdkStep`, `DevStep`, `CamStep`, `ParamUpdate`,
  `AcqStep`, `HwStep`, `BufStep`, `Step`.
- `Mode`, `BufferSpec` and `SessionSpec`, what a session is set up from.
-/

set_option autoImplicit false

namespace CameraAcquisition

/-- A counter of the simulated camera. -/
inductive StatField where
  | bufAllocs
  | bufReleases
  | capStarts
  | capStops
  | softwareTriggers
  | aborts
  | frames
  deriving Repr, BEq, DecidableEq, Inhabited

namespace StatField

/-- The name of a counter. -/
def name : StatField → String
  | bufAllocs => "buf_allocs"
  | bufReleases => "buf_releases"
  | capStarts => "cap_starts"
  | capStops => "cap_stops"
  | softwareTriggers => "software_triggers"
  | aborts => "aborts"
  | frames => "frames"

/-- All counters, in order. -/
def all : List StatField :=
  [bufAllocs, bufReleases, capStarts, capStops, softwareTriggers, aborts, frames]

/-- The counter of a name. -/
def ofName? (s : String) : Option StatField := all.find? (·.name == s)

/-- The value of a counter. -/
def value (s : Sdk.SimStats) : StatField → Nat
  | bufAllocs => s.bufAllocs
  | bufReleases => s.bufReleases
  | capStarts => s.capStarts
  | capStops => s.capStops
  | softwareTriggers => s.softwareTriggers
  | aborts => s.aborts
  | frames => s.frames

end StatField

/-- A raw SDK call. -/
inductive SdkCall where
  | devInfo (id : Sdk.InfoId)
  | propAttr (id : Sdk.PropId)
  | propValue (id : Sdk.PropId)
  | setPropValue (id : Sdk.PropId) (v : Float)
  | capaValue (id : Sdk.CapaId)
  | setCapaValue (id : Sdk.CapaId) (v : Int)
  | bufAlloc
  | bufRelease
  | capTrigger
  | setCapTrigger (attr : Sdk.TriggerAttr)
  | capStart (mode : Sdk.CaptureMode)
  | capStop
  | waitForFrame
  | abortWait
  | doSoftwareTrigger
  | roi
  | setRoi (attr : Sdk.RoiAttr)
  | triggerOut (channel : Nat)
  | setTriggerOut (attr : Sdk.TriggerOutAttr)
  deriving Inhabited

/-- A test hook of the simulated camera. -/
inductive SimStep where
  /-- The counters, all of them or the ones named. -/
  | stats (fields : Option (List StatField))
  | failNextWaits (n : Nat)
  | failNextAlloc
  | isCapturing
  | isAllocated
  | triggerAttr
  | config
  deriving Inhabited

/-- A call on the simulated camera that bypasses any device. -/
inductive SdkStep where
  | apiInit
  | apiUninit
  | devOpen (index : Nat)
  | devClose
  | call (c : SdkCall)
  deriving Inhabited

/-- A call through an opened device. -/
inductive DevStep where
  | openDevice (index : Nat)
  | close
  | index
  | call (c : SdkCall)
  deriving Inhabited

/-- A camera call. -/
inductive CamStep where
  | detectorType
  | detectorModel
  | detectorImageSize
  | pixelSize
  | imageType
  | setImageType (d : Depth)
  | checkTrigMode (m : TrigMode)
  | setTrigMode (m : TrigMode)
  | trigMode
  | setExpTime (v : Float)
  | expTime
  | setLatTime (v : Float)
  | latTime
  | setNbFrames (n : Int)
  | nbFrames
  | validRanges
  | setExtTriggerMode (m : ExtTrigger)
  | extTriggerMode
  | setTriggerEdge (e : EdgeSetting)
  | triggerEdge
  | checkRoi (r : Roi)
  | setRoi (r : Roi)
  | roi
  | checkBin (b : Bin)
  | setBin (b : Bin)
  | bin
  | setTemperatureTarget (v : Float)
  | temperatureTarget
  | temperature
  | setFanSpeed (v : Int)
  | fanSpeed
  | setGlobalGain (g : Gain)
  | globalGain
  | sdkVersion
  | firmwareVersion
  | setOutputSignal (channel : Nat) (signal : Sdk.OutputSignal) (edge : Sdk.SignalEdge)
      (delay width : Option Nat)
  | outputSignal (channel : Nat)
  | prepareAcq
  | startAcq
  | stopAcq
  | reset
  | status
  | nbHwAcquiredFrames
  deriving Inhabited

/-- New values for some acquisition parameters. -/
structure ParamUpdate where
  trigMode : Option TrigMode
  expTime : Option Float
  latTime : Option Float
  nbFrames : Option Nat
  extTrigger : Option ExtTrigger
  triggerEdge : Option EdgeSetting
  deriving Inhabited

namespace ParamUpdate

/-- The parameters with the new values. -/
def apply (u : ParamUpdate) (p : AcqParams) : AcqParams where
  trigMode := u.trigMode.getD p.trigMode
  expTime := u.expTime.getD p.expTime
  latTime := u.latTime.getD p.latTime
  nbFrames := u.nbFrames.getD p.nbFrames
  extTrigger := u.extTrigger.getD p.extTrigger
  triggerEdge := u.triggerEdge.getD p.triggerEdge

end ParamUpdate

/-- An acquisition controller call. -/
inductive AcqStep where
  | isRunning
  | isPrepared
  | params
  | timings
  | releaseBuffer
  | setParams (u : ParamUpdate)
  | prepare
  | start
  | stop
  | reset
  | status
  | acquiredFrameCount
  | hasWorkerThread
  | deviceIndex
  | bufferFrameDim
  deriving Inhabited

/-- A host interface call. -/
inductive HwStep where
  | capList
  | capListDebug
  | reset (level : ResetLevel)
  | prepareAcq
  | startAcq
  | stopAcq
  | status
  | nbHwAcquiredFrames
  | maxImageSize
  | detectorImageSize
  | defImageType
  | curImageType
  | setCurImageType (d : Depth)
  | pixelSize
  | detectorType
  | detectorModel
  | checkTrigMode (m : TrigMode)
  | setTrigMode (m : TrigMode)
  | trigMode
  | setExpTime (v : Float)
  | expTime
  | setLatTime (v : Float)
  | latTime
  | setNbHwFrames (n : Int)
  | nbHwFrames
  | validRanges
  | checkRoi (r : Roi)
  | setRoi (r : Roi)
  | roi
  | checkBin (b : Bin)
  | setBin (b : Bin)
  | bin
  deriving Inhabited

/-- A call on the host's buffers. -/
inductive BufStep where
  | setFrameDim (l : Layout)
  | frameDim
  | setNbBuffers (n : Nat)
  | nbBuffers
  | setNbConcatFrames (n : Nat)
  | nbConcatFrames
  | setStartTimestamp
  | hasStartTimestamp
  | lastAcquiredFrame
  | frameBuffer (n : Nat)
  | fill (n : Nat) (v : UInt8)
  | registerCallback (l : Listener)
  | waitBlocked
  | openGate
  | unregisterCallback
  | callbackLog (data : Bool)
  | clearCallbackLog
  | newFrameReady (n : Nat)
  deriving Inhabited

/-- A request of a session. -/
inductive Step where
  | sim (s : SimStep)
  | sdk (s : SdkStep)
  | dev (s : DevStep)
  | cam (s : CamStep)
  | acq (s : AcqStep)
  | hw (s : HwStep)
  | buf (s : BufStep)
  /-- Waits until no run is going on. -/
  | waitIdle
  /-- Waits until the status is the given one. -/
  | waitStatus (s : Status)
  /-- Lets time pass. -/
  | sleep
  /-- Starts an acquisition in the background. -/
  | startAsync
  /-- Waits for the background start and answers its result. -/
  | joinStart
  /-- Closes the camera. -/
  | drop
  deriving Inhabited

/-- What a session opens. -/
inductive Mode where
  | camera
  | device
  | sdk
  deriving Repr, BEq, DecidableEq, Inhabited

/-- The host's buffers of a session: their layout and, perhaps, their number. -/
structure BufferSpec where
  layout : Layout
  count : Option Nat
  deriving Inhabited

/-- What a session is set up from. -/
structure SessionSpec where
  mode : Mode
  sim : Sdk.SimConfig
  /-- The settings document of the camera, if any. -/
  config : Option String
  buffer : Option BufferSpec
  /-- The camera a device session opens. -/
  index : Nat
  deriving Inhabited

end CameraAcquisition
