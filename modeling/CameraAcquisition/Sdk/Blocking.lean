import CameraAcquisition.Sdk.Simulator

/-!
# Frame waits that pause

`Simulator.waitForFrame` answers a frame wait in one go. The simulated camera holds its lock
only while a wait checks: it releases it while the wait waits for a software trigger, for the
period of the external trigger and for the exposure, and other calls run in those pauses. This
module spells the wait out pause by pause, as the camera runs it.

A wait first checks that the device is open, that a buffer is allocated and that a capture is
running, then makes its abort check (`Simulator.checkAbort`): a latched abort is consumed and
counted, and a capture that is not running aborts the wait without a count. An injected failure
comes after that check. A software-triggered wait then takes a pending trigger or pauses until
something happens; a free-running one goes on to the exposure; any other pauses for the period
of the external trigger. Each pause is entered with an abort check (`Simulator.pauseAt`), and
every wake-up of a paused wait, at its deadline or before it, makes the abort check first
(`Simulator.wake`). At the end of the exposure the frame is written.

## What this module delivers

- `Pause`, where a wait waits with the lock released, and `Progress`, how far a wait got.
- `Simulator.checkAbort`, `Simulator.pauseAt`, `Simulator.triggerRound`.
- `Simulator.beginWait`, a wait up to its first pause, `Simulator.wake`, a wake-up, and
  `Simulator.stillPaused`, whether a paused wait has anything to wake it.
-/

set_option autoImplicit false

namespace CameraAcquisition.Sdk

/-- Where a frame wait waits with the camera's lock released. -/
inductive Pause where
  /-- For a software trigger; woken by any call that notifies. -/
  | trigger
  /-- For the period of the external trigger, up to a deadline. -/
  | period
  /-- For the exposure, up to a deadline. -/
  | exposure
  deriving Repr, BEq, DecidableEq, Inhabited

/-- How far a frame wait got before it released the lock: it returned, or it paused. -/
inductive Progress where
  | returned (w : Wait)
  | paused (p : Pause)
  deriving Repr, BEq, Inhabited

namespace Simulator

/-- The abort check of a frame wait: a latched abort is consumed and counted, and a capture that
is not running aborts the wait without a count. -/
def checkAbort (s : Simulator) : Option CallError × Simulator :=
  if s.abortPending then
    (some ⟨.abort, "wait_for_frame"⟩,
      { s with abortPending := false, stats := { s.stats with aborts := s.stats.aborts + 1 } })
  else if s.capture.isNone then (some ⟨.abort, "wait_for_frame"⟩, s)
  else (none, s)

/-- Makes the abort check, then pauses at `p`. -/
def pauseAt (p : Pause) (s : Simulator) : Progress × Simulator :=
  match s.checkAbort with
  | (some e, s) => (.returned (.failed e), s)
  | (none, s) => (.paused p, s)

/-- One round of the software-trigger loop: the abort check, then a pending trigger is taken and
the wait goes on to the exposure, or the wait pauses until something happens. -/
def triggerRound (s : Simulator) : Progress × Simulator :=
  match s.checkAbort with
  | (some e, s) => (.returned (.failed e), s)
  | (none, s) =>
    if s.pendingTriggers > 0 then
      pauseAt .exposure { s with pendingTriggers := s.pendingTriggers - 1 }
    else (.paused .trigger, s)

/-- A frame wait up to its first pause. -/
def beginWait (s : Simulator) : Progress × Simulator :=
  match s.closedError "wait_for_frame" with
  | some e => (.returned (.failed e), s)
  | none =>
    if !s.allocated then (.returned (.failed ⟨.notInit, "wait_for_frame"⟩), s)
    else match s.capture with
      | none => (.returned (.failed ⟨.notInit, "wait_for_frame"⟩), s)
      | some mode =>
        match s.checkAbort with
        | (some e, s) => (.returned (.failed e), s)
        | (none, s) =>
          if s.failNextWaits > 0 then
            (.returned (.failed ⟨.timeout, "wait_for_frame"⟩),
              { s with failNextWaits := s.failNextWaits - 1 })
          else match mode with
            | .triggerSoftware => s.triggerRound
            | .sequence => s.pauseAt .exposure
            | _ => s.pauseAt .period

/-- A wake-up of a wait paused at `p`, at its deadline (`timedOut`) or before it: the abort
check, then the wait goes on. A software-triggered wait runs its loop again; a timed pause that
is not over pauses again, and one that is over goes on to the exposure or writes the frame into
`f`. -/
def wake (p : Pause) (timedOut : Bool) (f : Frame) (s : Simulator) : Progress × Simulator :=
  match p with
  | .trigger => s.triggerRound
  | .period =>
    if timedOut then
      match s.checkAbort with
      | (some e, s) => (.returned (.failed e), s)
      | (none, s) => s.pauseAt .exposure
    else s.pauseAt .period
  | .exposure =>
    if timedOut then
      match s.checkAbort with
      | (some e, s) => (.returned (.failed e), s)
      | (none, s) => (.returned (s.deliver f).1, (s.deliver f).2)
    else s.pauseAt .exposure

/-- Whether a wait paused at `p` stays paused: nothing wakes it to any effect while no abort is
latched, a capture runs and, in the software-trigger loop, no trigger is pending. A patient
waiter sees each timed pause through to its deadline; an impatient one also stays in a timed
pause that outlasts every poll. -/
def stillPaused (patient : Bool) (p : Pause) (s : Simulator) : Bool :=
  !s.abortPending && s.capture.isSome &&
    match p with
    | .trigger => s.pendingTriggers == 0
    | .period => !patient && decide (s.config.triggerPeriodMs ≥ patienceMs)
    | .exposure => !patient && decide (s.exposureMs ≥ patienceMs.toFloat)

end Simulator

end CameraAcquisition.Sdk
