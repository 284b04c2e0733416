import CameraAcquisition.Acquisition.Control

/-!
# One schedule of the threads

A program that uses the controller sees one interleaving of its threads. This module fixes
the one that the test bench and the command line program see, where nothing outside waits
longer than a poll.

A host call runs on its host thread. When it waits, another host thread whose wait is over
moves, or else the worker; when neither can, the call's own deadline passes (the settle
pause of a start, the pause of a stop between two aborts). The worker moves by itself; when
its frame wait starves for a software trigger, its run's trigger thread fires, if that
happens within a poll: it has triggers left, and the waiter is patient, or it is the first
trigger, which fires at once, or the trigger period is short. A worker that waits for its
trigger thread to end lets it end.

## What this module delivers

- `Timer.firesInTime`, `assist`, `Halt` and `Worker.runUntil`.
- `drive`, which runs one host call, and `perform` with the calls `start`, `stop`, `reset`
  and `shutdown` as operations.
-/

set_option autoImplicit false

namespace CameraAcquisition

/-- Whether a trigger thread fires its next trigger before a wait gives up. -/
def Timer.firesInTime (t : Timer) (periodMs : Nat) (patient : Bool) : Bool :=
  t.keepsFiring && (patient || t.fired == 0 || decide (periodMs < Sdk.patienceMs))

namespace Acquisition

/-- Trigger thread `i` ends its pause, if it is in one, and fires. -/
def fireNext (i : Nat) (p : Plant) : Option Plant := do
  let t ← p.timers[i]?
  let p ← if t.pc = .pausing then Timer.step i p else pure p
  Timer.step i p

/-- The help a waiting worker gets from its run's trigger thread: a trigger that goes
through for a starved frame wait, or a step toward its end for a teardown that joins it. -/
def assist (patient : Bool) (p : Plant) : Option Plant :=
  match p.worker with
  | .acquiring run _ _ (.paused _ .trigger) =>
    match run.timer with
    | some i =>
      match p.timers[i]? with
      | some t =>
        let starved := p.sim.stillPaused patient .trigger
        if starved && t.firesInTime p.ctl.timings.triggerPeriodMs patient then
          match fireNext i p with
          | some p' => if p'.sim.pendingTriggers > p.sim.pendingTriggers then some p' else none
          | none => none
        else none
      | none => none
    | none => none
  | .ending run _ _ .join =>
    match run.timer with
    | some i => Timer.step i p
    | none => none
  | _ => none

end Acquisition

/-- Why stepping stopped. -/
inductive Halt where
  | reached
  | blocked
  | finished
  | exhausted
  deriving Repr, BEq, DecidableEq, Inhabited

/-- Steps the worker, with the help of its trigger thread, until `done` holds, the worker
cannot go on, no run is left, or the fuel is spent. -/
def Worker.runUntil (patient : Bool) (done : Plant → Bool) : Nat → Plant → Plant × Halt
  | 0, p => (p, if done p then .reached else .exhausted)
  | fuel + 1, p =>
    if done p then (p, .reached)
    else match Worker.step patient p with
      | some p => Worker.runUntil patient done fuel p
      | none =>
        match Acquisition.assist patient p with
        | some p => Worker.runUntil patient done fuel p
        | none => (p, if p.isRunning then .blocked else .finished)

/-- Steps a worker may take for one host request. -/
def Worker.fuel : Nat := 4000000

namespace Acquisition

/-- The host threads of a program: the one that makes requests, and one more for a start
left running in the background. -/
def threads : List Nat := [0, 1]

/-- The first move of another host thread than `i` whose wait is over, or of the trigger
thread that a cancelling start waits for. -/
def otherMove (i : Nat) (p : Plant) : Option Plant :=
  threads.firstM fun j =>
    match p.callers j with
    | .busy (.cancelling (some t) .join) =>
      if p.timerEnded (some t) then
        (Call.step false (.ok ()) (.cancelling (some t) .join) p).map fun (r, q) => q.setCaller j r
      else Timer.step t p
    | .busy c =>
      if j = i then none
      else (Call.step false (.ok ()) c p).map fun (r, q) => q.setCaller j r
    | _ => none

/-- Runs the call of host thread `i` until it returns or `pause` holds of its next point;
`none` when it is stuck or the fuel is spent. -/
def drive (pause : Call → Bool) (i : Nat) : Nat → Plant → Option Plant
  | 0, _ => none
  | fuel + 1, p =>
    match p.callers i with
    | .busy c =>
      if pause c then some p
      else match Call.step false (.ok ()) c p with
        | some (r, q) => drive pause i fuel (q.setCaller i r)
        | none =>
          match otherMove i p with
          | some q => drive pause i fuel q
          | none =>
            match Worker.step false p with
            | some q => drive pause i fuel q
            | none =>
              match assist false p with
              | some q => drive pause i fuel q
              | none =>
                match Call.step true (.ok ()) c p with
                | some (r, q) => drive pause i fuel (q.setCaller i r)
                | none => none
    | _ => some p

/-- The error of a call that cannot finish. -/
def stuck : CameraError := .thread "host call cannot finish"

/-- Runs a host call on host thread 0 as one operation. -/
def perform (c : Call) : Act Unit := do
  let p ← get
  match drive (fun _ => false) 0 Worker.fuel (p.setCaller 0 (.busy c)) with
  | some q =>
    set (q.setCaller 0 .idle)
    match q.callers 0 with
    | .returned (.ok ()) => pure ()
    | .returned (.error e) => throw e
    | _ => throw stuck
  | none => throw stuck

/-- Starts an acquisition and waits until the worker has picked it up. -/
def start : Act Unit := perform .start

/-- Stops the current acquisition and waits until it is torn down. -/
def stop : Act Unit := perform (.stop .plain)

/-- Stops, then clears any fault. -/
def reset : Act Unit := perform (.stop .reset)

/-- Ends the controller: stops, ignoring failures, ends the worker and releases a prepared
frame, ignoring failures. -/
def shutdown : Act Unit := perform (.stop .drop)

end Acquisition

end CameraAcquisition
