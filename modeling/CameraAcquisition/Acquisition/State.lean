import CameraAcquisition.Acquisition.Params
import CameraAcquisition.Sdk.Device
import CameraAcquisition.Sdk.Blocking
import CameraAcquisition.Host
import CameraAcquisition.CameraError

/-!
# The state of the acquisition controller

The controller is shared by the host threads that call it, one worker thread, and one
software trigger thread per internally triggered run. What they share sits behind one lock:
the session status, the parameters of the next run, the prepared SDK frame, whether the
camera had its cold start, the trigger thread of a run handed over and not yet picked up,
the flags of a start that is arming, of a requested run, of a running run, of a stop request
and of the end of the controller, and three run numbers: the last requested, the last picked
up and the last torn down. The number of frames handed to the host since the last start is
kept beside it, outside the lock.

Each thread is a program point with the values it holds:

* the worker waits for a run, goes round the frame loop of a run holding the run's number,
  trigger thread, parameters and SDK frame, tears the run down, or has ended;
* a trigger thread fires, pauses between triggers, or has ended, and counts the triggers
  that went through;
* a host thread is idle, in the middle of a call, or back from one with its answer.

The controller drives the simulated camera and the host's buffers, which together with the
threads make the plant. Operations on the plant may fail with a camera error; what they did
before failing stays done.

## What this module delivers

- `TimerPc`, `Timer`, `Spot`, `RunEnd`, `Run`, `Teardown`, `Worker`.
- `Controller` with `Controller.make` and `Controller.isActive`.
- `AfterStop`, `Call`, `Caller`, `Plant`.
- The operation monad `Act`, with `call`, `attempt`, `modifyCtl`, `setStatus`, `forceStatus`.
-/

set_option autoImplicit false

namespace CameraAcquisition

/-- Where a software trigger thread stands. -/
inductive TimerPc where
  /-- At the test of its loop: stop flag and count, then a trigger. -/
  | firing
  /-- In its pause before the next trigger. -/
  | pausing
  /-- Ended. -/
  | exited
  deriving Repr, BEq, DecidableEq, Inhabited

/-- A software trigger thread: the number of triggers it is to fire (zero for no limit),
the triggers that went through, its stop flag, and where it stands. -/
structure Timer where
  limit : Nat
  fired : Nat
  stop : Bool
  pc : TimerPc
  deriving Repr, BEq, DecidableEq, Inhabited

namespace Timer

/-- A trigger thread just started for `limit` triggers: its first trigger fires at once. -/
def make (limit : Nat) : Timer := ⟨limit, 0, false, .firing⟩

/-- Whether the loop goes on: no stop asked for, and triggers left. -/
def keepsFiring (t : Timer) : Bool := !t.stop && (t.limit == 0 || decide (t.fired < t.limit))

/-- Whether the thread still runs. -/
def isAlive (t : Timer) : Bool := t.pc != .exited

end Timer

/-- Where the worker stands in the frame loop of a run. -/
inductive Spot where
  /-- At the top of the loop. -/
  | top
  /-- About to wait for frame `n`. -/
  | waiting (n : Nat)
  /-- In the wait for frame `n`, paused at `p` with the camera's lock released. -/
  | paused (n : Nat) (p : Sdk.Pause)
  /-- Held in the host's listener after frame `n`, which answered `keepGoing`. -/
  | holding (n : Nat) (keepGoing : Bool)
  /-- In the pause between frames. -/
  | latency
  deriving Repr, BEq, DecidableEq, Inhabited

/-- How a run ended. -/
inductive RunEnd where
  | targetReached
  | stopped
  | hostStopped
  | fault
  deriving Repr, BEq, DecidableEq, Inhabited

/-- What the worker took when it picked a run up: the run's number, its trigger thread and
the parameters current at that moment. -/
structure Run where
  session : Nat
  timer : Option Nat
  params : AcqParams
  deriving Inhabited

/-- How far a teardown has come. -/
inductive Teardown where
  /-- About to tell the trigger thread to stop. -/
  | signal
  /-- Waiting for the trigger thread to end. -/
  | join
  /-- About to stop the capture, and release the SDK frame of a run. -/
  | stopCapture
  /-- About to record the end under the lock. -/
  | record
  deriving Repr, BEq, DecidableEq, Inhabited

/-- Where the worker thread stands. -/
inductive Worker where
  /-- Waiting for a run or for the end of the controller. -/
  | idle
  /-- In the frame loop of `run`, holding the SDK frame, with `failures` failed waits in a
  row. -/
  | acquiring (run : Run) (frame : Sdk.Frame) (failures : Nat) (spot : Spot)
  /-- Tearing `run` down after it ended with `outcome`; `release` says whether the SDK
  frame goes back. -/
  | ending (run : Run) (outcome : RunEnd) (release : Bool) (stage : Teardown)
  /-- Ended. -/
  | exited
  deriving Inhabited

/-- The state shared under the controller's lock, and the frame counter beside it. -/
structure Controller where
  status : Status
  params : AcqParams
  /-- The prepared frame, while prepared and idle. -/
  frame : Option Sdk.Frame
  coldStarted : Bool
  /-- The trigger thread of a run handed over and not yet picked up. -/
  timer : Option Nat
  /-- A start has armed the capture and does not hold the lock. -/
  arming : Bool
  runRequested : Bool
  running : Bool
  stopRequested : Bool
  quit : Bool
  /-- Number of the last requested run. -/
  session : Nat
  /-- Number of the last run picked up by the worker. -/
  ackedSession : Nat
  /-- Number of the last run torn down by the worker. -/
  completedSession : Nat
  workerExited : Bool
  /-- Frames handed to the host since the last start. -/
  frameCount : Nat
  timings : Timings
  deviceIndex : Nat
  deriving Inhabited

namespace Controller

/-- A fresh controller: ready, idle, unprepared, no run yet. -/
def make (params : AcqParams) (timings : Timings) (deviceIndex : Nat) : Controller where
  status := .ready
  params := params
  frame := none
  coldStarted := false
  timer := none
  arming := false
  runRequested := false
  running := false
  stopRequested := false
  quit := false
  session := 0
  ackedSession := 0
  completedSession := 0
  workerExited := false
  frameCount := 0
  timings := timings
  deviceIndex := deviceIndex

/-- Whether a start is arming or a run is requested or running. -/
def isActive (c : Controller) : Bool := c.arming || c.runRequested || c.running

/-- Whether a frame is prepared. -/
def isPrepared (c : Controller) : Bool := c.frame.isSome

end Controller

/-- What a host call does once its stop is over. -/
inductive AfterStop where
  /-- Nothing more: the call is a stop. -/
  | plain
  /-- Force the status to ready: the call is a reset. -/
  | reset
  /-- End the controller: the call is its drop. -/
  | drop
  deriving Repr, BEq, DecidableEq, Inhabited

/-- A host call at the point where it takes its next step. -/
inductive Call where
  | prepare
  | releaseBuffer
  | update (f : AcqParams → AcqParams)
  /-- A start, before its first section under the lock. -/
  | start
  /-- A start about to start the capture for `params`. -/
  | armCapture (params : AcqParams)
  /-- A start in its settle pause. -/
  | settling (params : AcqParams)
  /-- A start about to start the trigger thread of an internally triggered run. -/
  | armTimer (params : AcqParams)
  /-- A start about to hand the run, with its trigger thread, to the worker. -/
  | handOver (timer : Option Nat)
  /-- A start waiting for the worker to pick up run `session`. -/
  | awaitAck (session : Nat)
  /-- A start tearing down what it armed, after a stop came while it armed. -/
  | cancelling (timer : Option Nat) (stage : Teardown)
  /-- A start that failed to arm with `e`, about to clear the arming flag. -/
  | failArming (e : CameraError)
  /-- A stop (or reset, or drop) before its first section under the lock. -/
  | stop (after : AfterStop)
  /-- A stop waiting for a start to finish arming. -/
  | stopAwaitArming (after : AfterStop)
  /-- A stop about to abort the frame wait of run `session`. -/
  | stopAbort (after : AfterStop) (session : Nat)
  /-- A stop waiting for run `session` to be torn down. -/
  | stopPause (after : AfterStop) (session : Nat)
  /-- A reset about to force the status to ready. -/
  | resetForce
  /-- A drop about to tell the worker to end. -/
  | dropQuit
  /-- A drop waiting for the worker to end. -/
  | dropJoin
  /-- A drop about to release the prepared frame. -/
  | dropRelease
  /-- A region change about to release the prepared frame. -/
  | setRoi (attr : Sdk.RoiAttr)
  /-- A region change about to program the region. -/
  | programRoi (attr : Sdk.RoiAttr)
  deriving Inhabited

/-- A host thread. -/
inductive Caller where
  | idle
  | busy (c : Call)
  /-- Back from a call with its answer. -/
  | returned (r : Except CameraError Unit)
  deriving Inhabited

/-- What the controller drives: its threads, the simulated camera and the host. -/
structure Plant where
  ctl : Controller
  worker : Worker
  /-- The trigger threads ever started, by number. -/
  timers : List Timer
  callers : Nat → Caller
  sim : Sdk.Simulator
  host : Host
  deriving Inhabited

/-- An operation on the plant that may fail; what it did before failing stays done. -/
abbrev Act (α : Type) := ExceptT CameraError (StateM Plant) α

/-- Makes an SDK call; its failure fails the operation. -/
def call {α : Type} (f : Sdk.Simulator → Sdk.Answer α) : Act α := do
  let p ← get
  let (r, sim) := f p.sim
  set { p with sim }
  match r with
  | .ok a => pure a
  | .error e => throw (.ofCall e)

/-- Makes an SDK call and ignores its failure. -/
def attempt {α : Type} (f : Sdk.Simulator → Sdk.Answer α) : Act Unit :=
  modify fun p => { p with sim := (f p.sim).2 }

/-- Changes the controller. -/
def modifyCtl (f : Controller → Controller) : Act Unit :=
  modify fun p => { p with ctl := f p.ctl }

/-- The controller. -/
def getCtl : Act Controller := do return (← get).ctl

/-- A plain status change: a fault stays. -/
def setStatus (s : Status) : Act Unit := modifyCtl fun c => { c with status := c.status.set s }

/-- A forced status change. -/
def forceStatus (s : Status) : Act Unit := modifyCtl fun c => { c with status := s }

/-- Runs an operation on a plant. -/
def Act.run' {α : Type} (a : Act α) (p : Plant) : Except CameraError α × Plant :=
  (ExceptT.run a).run p

end CameraAcquisition
