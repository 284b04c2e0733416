import CameraAcquisition.Acquisition.State

/-!
# The acquisition worker and the software trigger threads

The worker waits under the lock until a run is requested or the controller ends. It picks a
run up by marking it running and acknowledged and taking the prepared frame, the run's
trigger thread and the current parameters. Without a frame it tears the run down at once,
in fault.

With a frame it repeats the frame loop. At the top it reads the frame counter, and under
the lock ends the run when a stop was asked for or the frame target is reached, and
otherwise sets the status to exposure. It then waits for a frame, with the camera's lock
released in the wait's pauses (`Sdk.Blocking`); each wake-up of a paused wait comes at its
deadline or when something wakes it to some effect. A frame sets the status
to readout, clears the count of failed waits, is copied over the start of the host buffer of
its frame number, counts, and is announced to the host; a host that answers no ends the run.
Between frames that are not the last, a positive latency sets the status to latency and
pauses until its time is up or a stop is asked for. An aborted wait goes back to the top;
any other failed wait counts, and enough of them in a row end the run in fault.

A teardown tells the trigger thread to stop and waits for it to end, stops the capture and,
for a run, releases the SDK frame, ignoring failures of both. The worker then records the
end under the lock: no run is requested or running, no stop is asked for, the status is
ready (a fault is forced instead) and the run counts as torn down. When the controller is
ending, the worker ends too.

A trigger thread fires one trigger at once and one per period after, counting those that go
through, until it is stopped or has fired its number of triggers.

Time is not modelled: a step that waits for time to pass can always be taken. The impatient
worker of the test bench stands for a worker that a poll does not wait for: it does not take
a step that outlasts every poll.

## What this module delivers

- `Plant.setWorker`, `Plant.withStatus`, `Plant.setCaller`, `Plant.modifyTimer`, `Plant.timerEnded`.
- `signalTimer`, `stopCapture`: the teardown shared with a cancelled start.
- `pickUp`, `received`, `afterFrame`, `recordEnd`, `Worker.waitAnswer`, `Worker.waitProgress`
  and `Worker.step`.
- `Timer.step`.
-/

set_option autoImplicit false

namespace CameraAcquisition

namespace Plant

/-- The plant with the worker at `w`. -/
def setWorker (p : Plant) (w : Worker) : Plant := { p with worker := w }

/-- The plant after a plain status change. -/
def withStatus (p : Plant) (s : Status) : Plant :=
  { p with ctl := { p.ctl with status := p.ctl.status.set s } }

/-- The plant with host thread `i` at `c`. -/
def setCaller (p : Plant) (i : Nat) (c : Caller) : Plant :=
  { p with callers := fun j => if j = i then c else p.callers j }

/-- The plant with trigger thread `i` changed by `f`. -/
def modifyTimer (p : Plant) (i : Nat) (f : Timer → Timer) : Plant :=
  { p with timers := p.timers.modify i f }

/-- Whether the trigger thread of a run, if it has one, has ended. -/
def timerEnded (p : Plant) : Option Nat → Bool
  | none => true
  | some i => (p.timers[i]?.map Timer.isAlive) != some true

/-- Whether the worker is in a run: its frame loop or its teardown. -/
def isRunning (p : Plant) : Bool :=
  match p.worker with
  | .acquiring .. | .ending .. => true
  | _ => false

end Plant

/-- Tells a run's trigger thread to stop. -/
def signalTimer (timer : Option Nat) (p : Plant) : Plant :=
  match timer with
  | none => p
  | some i => p.modifyTimer i fun t => { t with stop := true }

/-- Stops the capture and, when `release`, releases the SDK frame; failures are ignored. -/
def stopCapture (release : Bool) (p : Plant) : Plant :=
  let sim := p.sim.capStop.2
  { p with sim := if release then sim.bufRelease.2 else sim }

/-- A pause between frames of at least this many seconds outlasts every poll. -/
def longPause : Float := Sdk.patienceMs.toFloat / 1000.0

/-- The worker picks the requested run up. -/
def pickUp (p : Plant) : Plant :=
  let c := p.ctl
  let run : Run := ⟨c.session, c.timer, c.params⟩
  let worker : Worker := match c.frame with
    | some f => .acquiring run f 0 .top
    | none => .ending run .fault false .signal
  { p with
    ctl := { c with running := true, ackedSession := c.session, frame := none, timer := none }
    worker }

/-- After the host heard of frame `n`: end the run if it said no, pause when more frames
follow and there is a latency, and go back to the top. -/
def afterFrame (run : Run) (frame : Sdk.Frame) (n : Nat) (keepGoing : Bool) (p : Plant) :
    Plant :=
  if !keepGoing then p.setWorker (.ending run .hostStopped true .signal)
  else
    let nb := run.params.nbFrames
    let more := nb == 0 || n + 1 < nb
    if run.params.latTime > 0.0 && more then
      (p.withStatus .latency).setWorker (.acquiring run frame 0 .latency)
    else p.setWorker (.acquiring run frame 0 .top)

/-- Frame `n` arrived in `f`: it is copied to the host, counted and announced. -/
def received (run : Run) (f : Sdk.Frame) (n : Nat) (p : Plant) : Plant :=
  let p := p.withStatus .readout
  let slotSize := (p.host.ring.slot n).size
  let host := { p.host with ring := p.host.ring.write n (f.imagePrefix slotSize) }
  let (host, verdict) := host.announce n
  let p := { p with host, ctl := { p.ctl with frameCount := n + 1 } }
  if verdict.holds then p.setWorker (.acquiring run f 0 (.holding n verdict.keepGoing))
  else afterFrame run f n verdict.keepGoing p

/-- The worker records the end of `run` under the lock, and ends itself when the
controller ends. -/
def recordEnd (run : Run) (outcome : RunEnd) (p : Plant) : Plant :=
  let c := p.ctl
  let status := if outcome = .fault then .fault else c.status.set .ready
  let ctl := { c with running := false, runRequested := false, stopRequested := false,
                      status, completedSession := run.session }
  if c.quit then { p with ctl := { ctl with workerExited := true }, worker := .exited }
  else { p with ctl, worker := .idle }

namespace Worker

/-- What the frame loop does with the answer of its wait for frame `n`: a frame is received,
an abort goes back to the top, and any other failure counts, enough of them in a row ending
the run in fault. -/
def waitAnswer (run : Run) (frame : Sdk.Frame) (failures n : Nat) (w : Sdk.Wait) (p : Plant) :
    Option Plant :=
  match w with
  | .captured f => some (received run f n p)
  | .failed e =>
    if e.isAbort then some (p.setWorker (.acquiring run frame failures .top))
    else
      let failures := failures + 1
      let limit := p.ctl.timings.maxConsecutiveWaitFailures
      if limit > 0 && failures ≥ limit then some (p.setWorker (.ending run .fault true .signal))
      else some (p.setWorker (.acquiring run frame failures .top))
  | .starved | .lasting => none

/-- The frame loop after its wait for frame `n` got as far as `pr`: the wait answered, or it
paused with the lock released. -/
def waitProgress (run : Run) (frame : Sdk.Frame) (failures n : Nat)
    (pr : Sdk.Progress × Sdk.Simulator) (p : Plant) : Option Plant :=
  let p := { p with sim := pr.2 }
  match pr.1 with
  | .returned w => waitAnswer run frame failures n w p
  | .paused pause => some (p.setWorker (.acquiring run frame failures (.paused n pause)))

/-- One step of the frame loop. -/
def acquireStep (patient : Bool) (run : Run) (frame : Sdk.Frame) (failures : Nat) :
    Spot → Plant → Option Plant
  | .top, p =>
    let n := p.ctl.frameCount
    if p.ctl.stopRequested then some (p.setWorker (.ending run .stopped true .signal))
    else if run.params.nbFrames > 0 && n ≥ run.params.nbFrames then
      some (p.setWorker (.ending run .targetReached true .signal))
    else some ((p.withStatus .exposure).setWorker (.acquiring run frame failures (.waiting n)))
  | .waiting n, p => waitProgress run frame failures n p.sim.beginWait p
  | .paused n pause, p =>
    if p.sim.stillPaused patient pause then none
    else waitProgress run frame failures n (p.sim.wake pause true frame) p
  | .latency, p =>
    if p.ctl.stopRequested || patient || run.params.latTime < longPause then
      some (p.setWorker (.acquiring run frame failures .top))
    else none
  | .holding n keepGoing, p =>
    if p.host.gateOpen then some (afterFrame run frame n keepGoing p) else none

/-- One step of a teardown. -/
def endStep (run : Run) (outcome : RunEnd) (release : Bool) : Teardown → Plant → Option Plant
  | .signal, p => some ((signalTimer run.timer p).setWorker (.ending run outcome release .join))
  | .join, p =>
    if p.timerEnded run.timer then some (p.setWorker (.ending run outcome release .stopCapture))
    else none
  | .stopCapture, p => some ((stopCapture release p).setWorker (.ending run outcome release .record))
  | .record, p => some (recordEnd run outcome p)

/-- One step of the worker, or `none` when it waits. -/
def step (patient : Bool) (p : Plant) : Option Plant :=
  match p.worker with
  | .idle =>
    if p.ctl.runRequested then some (pickUp p)
    else if p.ctl.quit then
      some { p with ctl := { p.ctl with workerExited := true }, worker := .exited }
    else none
  | .acquiring run frame failures spot => acquireStep patient run frame failures spot p
  | .ending run outcome release stage => endStep run outcome release stage p
  | .exited => none

end Worker

namespace Timer

/-- One step of trigger thread `i`, or `none` when it has ended. -/
def step (i : Nat) (p : Plant) : Option Plant :=
  match p.timers[i]? with
  | none => none
  | some t =>
    match t.pc with
    | .exited => none
    | .pausing => some (p.modifyTimer i fun t => { t with pc := .firing })
    | .firing =>
      if t.keepsFiring then
        let (r, sim) := p.sim.doSoftwareTrigger
        let fired := if r matches .ok _ then t.fired + 1 else t.fired
        some ({ p with sim }.modifyTimer i fun t => { t with fired, pc := .pausing })
      else some (p.modifyTimer i fun t => { t with pc := .exited })

end Timer

end CameraAcquisition
