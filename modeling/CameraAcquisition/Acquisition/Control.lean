import CameraAcquisition.Acquisition.Worker

/-!
# Controlling acquisitions

The host prepares, starts, stops and resets acquisitions. Each call takes the lock for its
sections; between them other threads move.

* Preparing is refused while active. The first prepare gives the camera its cold start, one
  capture start and stop. Every prepare programs the trigger from the parameters, and the
  first prepare after a run allocates the SDK frame. All of it happens under the lock.
* Starting is refused after the worker ended, while active, before preparing, and in fault.
  Otherwise the start marks itself arming, clears any stop request and takes the parameters.
  Without the lock it starts the capture for the run's trigger mode, waits out the settle
  pause (cut short by a stop request, which also keeps the trigger thread from starting),
  and starts the trigger thread of an internally triggered run. A failure clears the arming
  flag and fails the start. Back under the lock, a stop request cancels the run: the trigger
  thread is stopped, the capture stopped, and the status set to ready, with the frame still
  prepared. Otherwise the frame count is zeroed, the start recorded on the host, the status
  set to exposure, and the run handed to the worker under a new number; the start waits
  until the worker picks it up.
* A stop during arming asks the start to cancel and waits for it. A stop while idle only
  sets the status to ready. A stop during a run asks for it to stop and aborts the frame
  wait, again and again, until the worker has torn the run down.
* A reset stops and then forces the status to ready, clearing a fault.
* The drop of the controller stops, tells the worker to end and waits for it, and releases
  a prepared frame.

## What this module delivers

- `programTrigger`, `coldStart`, `allocFrame`, `prepare`, `releaseBuffer`, `beginStart`.
- `afterStop`, `stopLoop`, `stopUnlessIdle` and `Call.act`, `Call.ready`, `Caller.after`,
  `Call.step`.
-/

set_option autoImplicit false

namespace CameraAcquisition

namespace Acquisition

/-- The largest 32-bit unsigned value. -/
def frameLimit : Nat := Nat.pow 2 32 - 1

/-- The error of a call that finds the worker ended. -/
def workerGone : CameraError := .thread "acquisition thread is not running"

/-- Programs the trigger: the edge, no delay, one frame per trigger (all frames for a single
external trigger), and the mode and exposure control of the trigger mode. -/
def programTrigger (params : AcqParams) : Act Unit := do
  let attr ← call Sdk.Simulator.capTrigger
  let attr := { attr with edge := params.triggerEdge.toSdk, delay := 0, frames := 1 }
  let attr ← match params.trigMode with
    | .intTrig => pure { attr with mode := .triggerSoftware, exposure := .exposureTime }
    | .extTrigMult => pure { attr with mode := params.extTrigger.captureMode, exposure := .exposureTime }
    | .extGate => pure { attr with mode := params.extTrigger.captureMode, exposure := .width }
    | .extTrigSingle =>
      pure { attr with mode := params.extTrigger.captureMode, exposure := .exposureTime,
                       frames := min params.nbFrames frameLimit }
    | m => throw (.notSupported s!"trigger mode {m.name}")
  call (Sdk.Simulator.setCapTrigger attr)

/-- The camera's cold start: one capture started and stopped. -/
def coldStart : Act Unit := do
  call (Sdk.Simulator.capStart .triggerSoftware)
  call Sdk.Simulator.capStop
  modifyCtl fun c => { c with coldStarted := true }

/-- Allocates the SDK frame as the prepared frame. -/
def allocFrame : Act Unit := do
  let f ← call Sdk.Simulator.bufAlloc
  modifyCtl fun c => { c with frame := some f }

/-- Prepares the next acquisition. -/
def prepare : Act Unit := do
  let c ← getCtl
  if c.isActive then throw .alreadyRunning
  if !c.coldStarted then coldStart
  programTrigger c.params
  if (← getCtl).frame.isNone then allocFrame

/-- Releases a prepared frame. -/
def releaseBuffer : Act Unit := do
  let c ← getCtl
  if c.isActive then throw (.busy "acquisition running")
  if c.frame.isSome then
    modifyCtl fun c => { c with frame := none }
    call Sdk.Simulator.bufRelease

/-- The first section of a start: its checks, then the arming flag. The answer is the
run's parameters. -/
def beginStart : Act AcqParams := do
  let c ← getCtl
  if c.workerExited then throw workerGone
  if c.isActive then throw .alreadyRunning
  if c.frame.isNone then throw .notPrepared
  if c.status = .fault then throw (.busy "in fault state, reset required")
  modifyCtl fun c => { c with arming := true, stopRequested := false }
  pure c.params

/-- The second section of a start: a stop request cancels the run, else the run is handed
to the worker under a new number. -/
def handOver (timer : Option Nat) : Act (Option Call) := do
  if (← getCtl).stopRequested then return some (.cancelling timer .signal)
  modify fun p => { p with host := { p.host with ring := p.host.ring.markStart } }
  modifyCtl fun c => { c with frameCount := 0, status := c.status.set .exposure, timer,
                               arming := false, runRequested := true, session := c.session + 1 }
  let c ← getCtl
  if c.ackedSession ≥ c.session then return none
  if c.workerExited then throw workerGone
  return some (.awaitAck c.session)

/-- What a stop call does when its stop is over with `r`. -/
def afterStop : AfterStop → Except CameraError Unit → Act (Option Call)
  | .plain, .ok () => pure none
  | .plain, .error e => throw e
  | .reset, .ok () => pure (some .resetForce)
  | .reset, .error e => throw e
  | .drop, _ => pure (some .dropQuit)

/-- The test of a stop's loop, under the lock: run `session` torn down, or the worker
ended, or another abort. -/
def stopLoop (after : AfterStop) (session : Nat) : Act (Option Call) := do
  let c ← getCtl
  if c.completedSession ≥ session then afterStop after (.ok ())
  else if c.workerExited then afterStop after (.error workerGone)
  else pure (some (.stopAbort after session))

/-- The rest of a stop's first section, once no start is arming: an idle controller only
gets the status ready; otherwise the run is asked to stop. -/
def stopUnlessIdle (after : AfterStop) : Act (Option Call) := do
  let c ← getCtl
  if !c.isActive then
    setStatus .ready
    afterStop after (.ok ())
  else
    modifyCtl fun c => { c with stopRequested := true }
    stopLoop after c.session

/-- One step of a host call: the call's next point, `none` when it returned, or a thrown
error when it failed. `spawn` is how starting a trigger thread goes. -/
def Call.act (spawn : Except CameraError Unit) : Call → Act (Option Call)
  | .prepare => do prepare; pure none
  | .releaseBuffer => do releaseBuffer; pure none
  | .update f => do modifyCtl (fun c => { c with params := f c.params }); pure none
  | .start => do
    let params ← beginStart
    pure (some (.armCapture params))
  | .armCapture params =>
    tryCatch
      (do
        call (Sdk.Simulator.capStart params.captureMode)
        let settle := (← getCtl).timings.armSettleMs
        pure (some (if settle = 0 then .armTimer params else .settling params)))
      (fun e => pure (some (.failArming e)))
  | .settling params => do
    if (← getCtl).stopRequested then pure (some (.handOver none))
    else pure (some (.armTimer params))
  | .armTimer params => do
    if params.trigMode ≠ .intTrig then return some (.handOver none)
    match spawn with
    | .ok () =>
      let i := (← get).timers.length
      modify fun p => { p with timers := p.timers ++ [Timer.make params.nbFrames] }
      pure (some (.handOver (some i)))
    | .error e =>
      attempt Sdk.Simulator.capStop
      pure (some (.failArming e))
  | .handOver timer => handOver timer
  | .awaitAck session => do
    if (← getCtl).ackedSession ≥ session then pure none else throw workerGone
  | .cancelling timer .signal => do
    modify (signalTimer timer)
    pure (some (.cancelling timer .join))
  | .cancelling timer .join => pure (some (.cancelling timer .stopCapture))
  | .cancelling timer .stopCapture => do
    modify (stopCapture false)
    pure (some (.cancelling timer .record))
  | .cancelling _ .record => do
    modifyCtl fun c => { c with stopRequested := false, status := c.status.set .ready,
                                 arming := false }
    pure none
  | .failArming e => do
    modifyCtl fun c => { c with arming := false }
    throw e
  | .stop after => do
    if (← getCtl).arming then
      modifyCtl fun c => { c with stopRequested := true }
      pure (some (.stopAwaitArming after))
    else stopUnlessIdle after
  | .stopAwaitArming after => stopUnlessIdle after
  | .stopAbort after session => do
    attempt Sdk.Simulator.abortWait
    if (← getCtl).completedSession ≥ session then afterStop after (.ok ())
    else pure (some (.stopPause after session))
  | .stopPause after session => stopLoop after session
  | .resetForce => do forceStatus .ready; pure none
  | .dropQuit => do
    modifyCtl fun c => { c with quit := true, stopRequested := true }
    pure (some .dropJoin)
  | .dropJoin => pure (some .dropRelease)
  | .dropRelease => do
    let c ← getCtl
    modifyCtl fun c => { c with frame := none }
    if c.frame.isSome then attempt Sdk.Simulator.bufRelease
    pure none
  | .setRoi attr => do
    releaseBuffer
    pure (some (.programRoi attr))
  | .programRoi attr => do
    call (Sdk.Simulator.setRoi attr)
    pure none

/-- Whether a host call can take its next step; a call that waits for a condition cannot
until it holds. `expire` lets a wait with a deadline end by its deadline. -/
def Call.ready (expire : Bool) (p : Plant) : Call → Bool
  | .settling _ => expire || p.ctl.stopRequested
  | .awaitAck session => decide (p.ctl.ackedSession ≥ session) || p.ctl.workerExited
  | .cancelling timer .join => p.timerEnded timer
  | .stopAwaitArming _ => !p.ctl.arming
  | .stopPause _ session =>
    expire || decide (p.ctl.completedSession ≥ session) || p.ctl.workerExited
  | .dropJoin => (p.worker matches .exited)
  | _ => true

/-- Where a host thread stands after a step of its call came to `r`. -/
def Caller.after : Except CameraError (Option Call) → Caller
  | .ok (some c) => .busy c
  | .ok none => .returned (.ok ())
  | .error e => .returned (.error e)

/-- One step of a host call that can take it: what the call comes to, and the plant after. -/
def Call.step (expire : Bool) (spawn : Except CameraError Unit) (c : Call) (p : Plant) :
    Option (Caller × Plant) :=
  if Call.ready expire p c then
    let (r, q) := (Call.act spawn c).run' p
    some (Caller.after r, q)
  else none

end Acquisition

end CameraAcquisition
