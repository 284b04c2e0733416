import CameraAcquisition.Proofs.Sdk.Consistency
import CameraAcquisition.Sdk.Blocking

/-!
# Aborting a frame wait

`abort_wait` latches an abort for the frame wait in progress or the next one. The simulated
camera releases its lock while a wait pauses (`Sdk.Blocking`), so calls from other threads run
between the wake-ups of a wait. `Waiting` is a camera with at most one frame wait in progress,
and `Waiting.step` runs one `Event` on it: a call, the start of a wait, or a wake-up of the
wait in progress, at its deadline or before it. A wait woken by a call takes the lock again
only after that call, and other calls may come first.

The latch moves by one rule (`Waiting.step_latch`): `abort_wait` on an answering camera latches
it, a capture start that the camera takes or a capture stop drops it, and an abort check
consumes it. The checks are the wake-ups of the wait in progress and the start of a wait that
gets past its open, buffer and capture checks, and while a wait is in progress no other can
start. The wait that consumes the latch returns Abort and changes nothing but the latch and its
count (`Waiting.step_consumes`): injected failures and pending triggers stay. Over any run the
latches raised balance those consumed and dropped, so `abort_wait` on a latched abort adds
nothing, and the count of aborts grows by the latches consumed (`Waiting.run_latch`).

A wait in progress when the capture stops returns Abort at its next wake-up as long as no
capture has started since (`Waiting.step_wake_stopped`, `Waiting.run_capture`). One that wakes
only after a new capture has started waits on in that capture and may return a frame
(`stopped_wait_resumes_in_new_capture`). A patient frame wait made in one go is this wait with
nothing happening in its pauses (`Simulator.waitForFrame_settle`).

## What this module delivers

- `Simulator.abortError`, `Simulator.consumeAbort` and `Simulator.latch`, with the abort check of
  `checkAbort`, `pauseAt`, `triggerRound`, `beginWait` and `wake` for a latched abort, for none,
  and for a stopped capture.
- `Simulator.settle` and `Simulator.waitForFrame_settle`.
- `Entry.latches`, `Entry.drops`, `Entry.startsCapture`, `Entry.stopsCapture`, with
  `Entry.latch_apply` and `Entry.capture_stop`.
- `Waiting`, `Event`, `Waiting.step`, `Waiting.run`, `Waiting.count`; the step lemmas
  `Waiting.step_call`, `Waiting.step_enter`, `Waiting.step_wake`, `Waiting.step_consumes`,
  `Waiting.step_latch`, `Waiting.step_latch_count`, `Waiting.step_capture`,
  `Waiting.step_wake_stopped`, and the run lemmas `Waiting.run_latch`, `Waiting.run_capture`.
- `abort_latch_consumed_once` with its instance `stopped_wait_aborts_before_restart`, and
  `stopped_wait_resumes_in_new_capture`.
-/

set_option autoImplicit false

namespace CameraAcquisition.Sdk

namespace Simulator

/-- The error of an aborted frame wait. -/
def abortError : CallError := ⟨.abort, "wait_for_frame"⟩

/-- The camera after a frame wait consumed the latched abort: the latch is clear and counted. -/
def consumeAbort (s : Simulator) : Simulator :=
  { s with abortPending := false, stats := { s.stats with aborts := s.stats.aborts + 1 } }

/-- What the abort check reads and writes: the latch, the count of consumed latches and the
capture. -/
structure Latch where
  pending : Bool
  aborts : Nat
  capture : Option CaptureMode

/-- The abort latch of a camera. -/
def latch (s : Simulator) : Latch := ⟨s.abortPending, s.stats.aborts, s.capture⟩

variable {s : Simulator}

@[simp] theorem latch_pending : s.latch.pending = s.abortPending := rfl
@[simp] theorem latch_aborts : s.latch.aborts = s.stats.aborts := rfl
@[simp] theorem latch_capture : s.latch.capture = s.capture := rfl

@[simp] theorem consumeAbort_latch :
    s.consumeAbort.latch = ⟨false, s.stats.aborts + 1, s.capture⟩ := rfl

theorem deliver_latch (f : Frame) : (s.deliver f).2.latch = s.latch := rfl

/-! ### A latched abort -/

theorem checkAbort_latched (h : s.abortPending = true) :
    s.checkAbort = (some abortError, s.consumeAbort) := by
  simp [checkAbort, h, abortError, consumeAbort]

theorem pauseAt_latched (p : Pause) (h : s.abortPending = true) :
    s.pauseAt p = (.returned (.failed abortError), s.consumeAbort) := by
  simp [pauseAt, checkAbort_latched h]

theorem triggerRound_latched (h : s.abortPending = true) :
    s.triggerRound = (.returned (.failed abortError), s.consumeAbort) := by
  simp [triggerRound, checkAbort_latched h]

/-- Every wake-up of a wait consumes a latched abort first. -/
theorem wake_latched (p : Pause) (timedOut : Bool) (f : Frame) (h : s.abortPending = true) :
    s.wake p timedOut f = (.returned (.failed abortError), s.consumeAbort) := by
  cases p <;> cases timedOut <;>
    simp [wake, triggerRound_latched h, pauseAt_latched _ h, checkAbort_latched h]

/-- A wait that gets past the open, buffer and capture checks consumes a latched abort before it
looks at an injected failure or a pending trigger. -/
theorem beginWait_latched (hl : s.holdings.live = true) (ha : s.allocated = true)
    (hc : s.capture.isSome = true) (h : s.abortPending = true) :
    s.beginWait = (.returned (.failed abortError), s.consumeAbort) := by
  obtain ⟨mode, hm⟩ := Option.isSome_iff_exists.mp hc
  simp [beginWait, (closedError_eq_none s _).mpr hl, ha, hm, checkAbort_latched h]

/-! ### No abort latched -/

theorem checkAbort_unlatched (h : s.abortPending = false) :
    s.checkAbort = (if s.capture.isSome then none else some abortError, s) := by
  cases hc : s.capture <;> simp [checkAbort, h, hc, abortError]

theorem checkAbort_pass (h : s.abortPending = false) (hc : s.capture.isSome = true) :
    s.checkAbort = (none, s) := by
  simp [checkAbort_unlatched h, hc]

theorem pauseAt_unlatched (p : Pause) (h : s.abortPending = false) : (s.pauseAt p).2 = s := by
  cases hc : s.capture.isSome <;> simp [pauseAt, checkAbort_unlatched h, hc]

theorem triggerRound_unlatched (h : s.abortPending = false) :
    s.triggerRound.2.latch = s.latch := by
  cases hc : s.capture.isSome
  · simp [triggerRound, checkAbort_unlatched h, hc]
  · simp only [triggerRound, checkAbort_pass h hc]
    split_ifs
    · -- the trigger taken changes the pending triggers only
      rw [pauseAt_unlatched _ ?_]
      · rfl
      · exact h
    · rfl

/-- A wake-up with no abort latched leaves the latch, its count and the capture. -/
theorem wake_unlatched (p : Pause) (timedOut : Bool) (f : Frame) (h : s.abortPending = false) :
    (s.wake p timedOut f).2.latch = s.latch := by
  cases p with
  | trigger => exact triggerRound_unlatched h
  | period =>
    cases timedOut
    · simp [wake, pauseAt_unlatched _ h]
    · cases hc : s.capture.isSome
      · simp [wake, checkAbort_unlatched h, hc]
      · simp [wake, checkAbort_pass h hc, pauseAt_unlatched _ h]
  | exposure =>
    cases timedOut
    · simp [wake, pauseAt_unlatched _ h]
    · cases hc : s.capture.isSome
      · simp [wake, checkAbort_unlatched h, hc]
      · simp [wake, checkAbort_pass h hc, deliver_latch]

/-- The start of a wait with no abort latched leaves the latch, its count and the capture. -/
theorem beginWait_unlatched (h : s.abortPending = false) : s.beginWait.2.latch = s.latch := by
  unfold beginWait
  rcases hcl : s.closedError "wait_for_frame" with _ | e
  · rcases hc : s.capture with _ | mode
    · simp
    · have hcap : s.capture.isSome = true := by simp [hc]
      simp only [checkAbort_pass h hcap]
      split_ifs
      · rfl
      · rfl
      · cases mode with
        | triggerSoftware => exact triggerRound_unlatched h
        | _ => simp [pauseAt_unlatched _ h]
  · rfl

/-- A wait refused by the open, buffer or capture check leaves the camera as it was. -/
theorem beginWait_refused (h : (s.holdings.live && s.allocated && s.capture.isSome) = false) :
    s.beginWait.2 = s := by
  unfold beginWait
  rcases hcl : s.closedError "wait_for_frame" with _ | e
  · have hl : s.holdings.live = true := (closedError_eq_none s _).mp hcl
    cases ha : s.allocated
    · rfl
    · rcases hc : s.capture with _ | mode
      · rfl
      · simp [hl, ha, hc] at h
  · rfl

/-- With no capture running, every wake-up of a wait with no abort latched returns Abort. -/
theorem wake_stopped (p : Pause) (timedOut : Bool) (f : Frame) (h : s.abortPending = false)
    (hc : s.capture = none) : s.wake p timedOut f = (.returned (.failed abortError), s) := by
  have hcheck : s.checkAbort = (some abortError, s) := by simp [checkAbort_unlatched h, hc]
  cases p <;> cases timedOut <;> simp [wake, triggerRound, pauseAt, hcheck]

/-! ### The wait made in one go -/

/-- What a frame wait answers when nothing happens in its pauses and each timed pause lasts to its
deadline: a software-triggered wait with no trigger pending starves. -/
def settle (f : Frame) : Nat → Progress × Simulator → Wait × Simulator
  | _, (.returned w, s) => (w, s)
  | _, (.paused .trigger, s) => (.starved, s)
  | 0, (.paused _, s) => (.lasting, s)
  | n + 1, (.paused p, s) => settle f n (s.wake p true f)

/-- A patient frame wait answers what the wait run pause by pause answers when nothing happens in
its pauses: at most two pauses, the period and the exposure, each to its deadline. -/
theorem waitForFrame_settle (f : Frame) (s : Simulator) :
    s.waitForFrame true f = settle f 2 s.beginWait := by
  unfold waitForFrame beginWait
  rcases hcl : s.closedError "wait_for_frame" with _ | e
  · cases ha : s.allocated
    · rfl
    · rcases hc : s.capture with _ | mode
      · rfl
      · cases hp : s.abortPending
        · have hcap : s.capture.isSome = true := by simp [hc]
          simp only [checkAbort_pass hp hcap, Bool.false_eq_true, if_false, Bool.not_true,
            Bool.false_and]
          by_cases hf : s.failNextWaits > 0
          · simp [hf, settle, hc, ha, hp]
          · cases mode <;> simp +decide [hf, triggerRound, pauseAt, checkAbort_pass hp hcap, wake,
              settle]
            -- a software-triggered wait takes a pending trigger or starves
            by_cases hz : s.pendingTriggers = 0
            · simp [hz, settle]
            · simp [hz, Nat.pos_of_ne_zero hz, checkAbort, hp, hc, ha, wake, settle]
        · simp [checkAbort_latched hp, settle, consumeAbort, abortError, hc, ha]
  · rfl

end Simulator

namespace Entry

/-- Whether a call is a frame wait. -/
def waits : Entry → Bool
  | waitForFrame _ _ => true
  | _ => false

/-- Whether a call latches an abort: `abort_wait` on an answering camera. -/
def latches : Entry → Simulator → Bool
  | abortWait, s => s.holdings.live
  | _, _ => false

/-- Whether a call starts a capture: a capture start that the camera takes. -/
def startsCapture : Entry → Simulator → Bool
  | capStart _, s => s.holdings.live && !s.capture.isSome
  | _, _ => false

/-- Whether a call drops a latched abort: a capture start that the camera takes, or a capture
stop on an answering camera. -/
def drops : Entry → Simulator → Bool
  | capStart m, s => (capStart m).startsCapture s
  | capStop, s => s.holdings.live
  | _, _ => false

/-- Whether a call stops the capture: a capture stop on an answering camera, or a device
close. -/
def stopsCapture : Entry → Simulator → Bool
  | capStop, s => s.holdings.live
  | devClose, _ => true
  | _, _ => false

variable (s : Simulator)

/-- A call other than a frame wait latches an abort, drops it or leaves it, and never counts
one; with no capture running it starts one exactly when it is a capture start that the camera
takes. -/
theorem latch_apply (e : Entry) (he : e.waits = false) :
    (e.apply s).abortPending = (e.latches s || (s.abortPending && !e.drops s)) ∧
      (e.apply s).stats.aborts = s.stats.aborts ∧
      (s.capture = none → (e.apply s).capture.isSome = e.startsCapture s) := by
  cases e <;> simp only [waits, Bool.true_eq_false] at he <;>
    simp only [Entry.apply, latches, drops, startsCapture, Simulator.apiInit,
      Simulator.apiUninit, Simulator.devOpen, Simulator.devClose, Simulator.devInfo,
      Simulator.propAttr, Simulator.propValue, Simulator.setPropValue, Simulator.capaValue,
      Simulator.setCapaValue, Simulator.bufAlloc, Simulator.bufRelease, Simulator.capTrigger,
      Simulator.setCapTrigger, Simulator.capStart, Simulator.capStop, Simulator.abortWait,
      Simulator.doSoftwareTrigger, Simulator.getRoi, Simulator.setRoi, Simulator.triggerOut,
      Simulator.setTriggerOut, Simulator.whenOpen_eq] <;>
    repeat' split
  all_goals simp_all [Option.isSome_iff_ne_none]

/-- A call that stops the capture leaves none running. -/
theorem capture_stop (e : Entry) (h : e.stopsCapture s = true) : (e.apply s).capture = none := by
  cases e <;> simp only [stopsCapture, Bool.false_eq_true] at h
  · rfl
  · simp [Entry.apply, Simulator.capStop, Simulator.whenOpen_eq, h]

end Entry

/-- A simulated camera and the frame wait in progress on it, if any: the pause the wait is in and
the frame it writes into. -/
structure Waiting where
  sim : Simulator
  wait : Option (Pause × Frame)

/-- What can happen to a camera with at most one frame wait in progress: a call from another
thread, the start of a frame wait, or a wake-up of the wait in progress, at its deadline
(`timedOut`) or before it. -/
inductive Event where
  | call (e : Entry)
  | enter (f : Frame)
  | wake (timedOut : Bool)

namespace Waiting

/-- The camera after its wait got as far as `pr`: a wait that returned answers and is over, one
that paused stays in progress. -/
def resume (f : Frame) : Progress × Simulator → Waiting × Option Wait
  | (.returned a, s) => (⟨s, none⟩, some a)
  | (.paused p, s) => (⟨s, some (p, f)⟩, none)

/-- One event, and the answer of the wait if it returned; `none` when the event cannot happen:
a frame wait made as a call, a second wait while one is in progress, or a wake-up with none. -/
def step (w : Waiting) : Event → Option (Waiting × Option Wait)
  | .call e => if e.waits then none else some (⟨e.apply w.sim, w.wait⟩, none)
  | .enter f =>
    match w.wait with
    | none => some (resume f w.sim.beginWait)
    | some _ => none
  | .wake t =>
    match w.wait with
    | none => none
    | some (p, f) => some (resume f (w.sim.wake p t f))

/-- The camera after a sequence of events, with the answers of the waits that returned, in
order; `none` if one of the events cannot happen. -/
def run : List Event → Waiting → Option (Waiting × List Wait)
  | [], w => some (w, [])
  | ev :: evs, w =>
    match w.step ev with
    | none => none
    | some (w₁, out) => (run evs w₁).map fun r => (r.1, out.toList ++ r.2)

/-- How many events of a sequence satisfy `c`, each judged in the state it happens in. -/
def count (c : Event → Waiting → Bool) : List Event → Waiting → Nat
  | [], _ => 0
  | ev :: evs, w =>
    match w.step ev with
    | none => 0
    | some (w₁, _) => (c ev w).toNat + count c evs w₁

end Waiting

namespace Event

/-- Whether an event latches an abort: `abort_wait` on an answering camera. -/
def latches : Event → Waiting → Bool
  | call e, w => e.latches w.sim
  | _, _ => false

/-- Whether an event drops a latched abort: a capture start that the camera takes or a capture
stop on an answering camera. -/
def drops : Event → Waiting → Bool
  | call e, w => e.drops w.sim
  | _, _ => false

/-- Whether an event makes a wait's abort check: the start of a wait that gets past the open,
buffer and capture checks, or a wake-up of the wait in progress. -/
def checks : Event → Waiting → Bool
  | enter _, w => w.wait.isNone && w.sim.holdings.live && w.sim.allocated && w.sim.capture.isSome
  | wake _, w => w.wait.isSome
  | call _, _ => false

/-- Whether an event starts a capture. -/
def startsCapture : Event → Waiting → Bool
  | call e, w => e.startsCapture w.sim
  | _, _ => false

/-- An abort check that finds the abort latched, and consumes it. -/
def consumes (ev : Event) (w : Waiting) : Bool := ev.checks w && w.sim.abortPending

/-- An `abort_wait` that finds no abort latched, and latches one. -/
def raises (ev : Event) (w : Waiting) : Bool := ev.latches w && !w.sim.abortPending

/-- A capture start or stop that finds an abort latched, and drops it. -/
def clears (ev : Event) (w : Waiting) : Bool := ev.drops w && w.sim.abortPending

/-- No call both latches and drops an abort. -/
theorem drops_of_latches {ev : Event} {w : Waiting} (h : ev.latches w = true) :
    ev.drops w = false := by
  rcases ev with e | f | t
  · cases e <;> simp_all [latches, drops, Entry.latches, Entry.drops]
  · rfl
  · rfl

/-- No abort check latches or drops an abort: only calls do. -/
theorem latches_drops_of_checks {ev : Event} {w : Waiting} (h : ev.checks w = true) :
    ev.latches w = false ∧ ev.drops w = false := by
  rcases ev with e | f | t
  · simp [checks] at h
  · exact ⟨rfl, rfl⟩
  · exact ⟨rfl, rfl⟩

end Event

namespace Waiting

variable {w w' : Waiting} {ev : Event} {out : Option Wait}

@[simp] theorem resume_sim (f : Frame) (pr : Progress × Simulator) :
    (resume f pr).1.sim = pr.2 := by
  rcases pr with ⟨_ | _, s⟩ <;> rfl

/-! ### One event -/

/-- An abort check that finds the abort latched returns Abort, ends the wait, and consumes the
latch and nothing else: injected failures and pending triggers stay. -/
theorem step_consumes (h : ev.consumes w = true) :
    w.step ev = some (⟨w.sim.consumeAbort, none⟩, some (.failed Simulator.abortError)) := by
  have hc : ev.checks w = true := (Bool.and_eq_true _ _).mp h |>.1
  have hp : w.sim.abortPending = true := (Bool.and_eq_true _ _).mp h |>.2
  rcases ev with e | f | t
  · simp [Event.checks] at hc
  · simp only [Event.checks, Bool.and_eq_true, Option.isNone_iff_eq_none] at hc
    obtain ⟨⟨⟨hw, hl⟩, ha⟩, hcap⟩ := hc
    simp [step, hw, Simulator.beginWait_latched hl ha hcap hp, resume]
  · obtain ⟨⟨p, f⟩, hw⟩ := Option.isSome_iff_exists.mp hc
    simp [step, hw, Simulator.wake_latched _ _ _ hp, resume]

theorem step_call {e : Entry} (h : w.step (.call e) = some (w', out)) :
    e.waits = false ∧ w' = ⟨e.apply w.sim, w.wait⟩ := by
  simp only [step] at h
  split_ifs at h with he
  simp only [Option.some.injEq, Prod.mk.injEq] at h
  exact ⟨eq_false_of_ne_true he, h.1.symm⟩

/-- The start of a wait happens only with no wait in progress, and runs the wait up to its first
pause. -/
theorem step_enter {f : Frame} (h : w.step (.enter f) = some (w', out)) :
    w.wait = none ∧ w'.sim = w.sim.beginWait.2 := by
  rcases hw : w.wait with _ | ⟨p, g⟩ <;>
    simp only [step, hw, reduceCtorEq, Option.some.injEq] at h
  obtain rfl : (resume f w.sim.beginWait).1 = w' := congrArg Prod.fst h
  exact ⟨rfl, resume_sim _ _⟩

/-- A wake-up happens only to the wait in progress, and runs it from the pause it is in. -/
theorem step_wake {t : Bool} (h : w.step (.wake t) = some (w', out)) :
    ∃ p g, w.wait = some (p, g) ∧ w'.sim = (w.sim.wake p t g).2 := by
  rcases hw : w.wait with _ | ⟨p, g⟩ <;>
    simp only [step, hw, reduceCtorEq, Option.some.injEq] at h
  obtain rfl : (resume g (w.sim.wake p t g)).1 = w' := congrArg Prod.fst h
  exact ⟨p, g, rfl, resume_sim _ _⟩

/-- A wait that starts or wakes with no abort latched leaves the latch, its count and the
capture. -/
theorem step_unlatched_wait (h : w.step ev = some (w', out)) (he : ∀ e, ev ≠ .call e)
    (hp : w.sim.abortPending = false) : w'.sim.latch = w.sim.latch := by
  rcases ev with e | f | t
  · exact absurd rfl (he e)
  · rw [(step_enter h).2]
    exact Simulator.beginWait_unlatched hp
  · obtain ⟨p, g, -, hs⟩ := step_wake h
    rw [hs]
    exact Simulator.wake_unlatched _ _ _ hp

/-- A wait that starts and is refused by the open, buffer or capture check leaves the camera as
it was; a wake-up always checks. -/
theorem step_unchecked (h : w.step ev = some (w', out)) (he : ∀ e, ev ≠ .call e)
    (hc : ev.checks w = false) : w'.sim = w.sim := by
  rcases ev with e | f | t
  · exact absurd rfl (he e)
  · obtain ⟨hw, hs⟩ := step_enter h
    rw [hs]
    apply Simulator.beginWait_refused
    simpa [Event.checks, hw, Bool.and_assoc] using hc
  · obtain ⟨p, g, hw, -⟩ := step_wake h
    simp [Event.checks, hw] at hc

/-- A frame wait that starts or wakes changes the latch, its count and the capture only by
consuming a latched abort. -/
theorem step_wait_latch (h : w.step ev = some (w', out)) (he : ∀ e, ev ≠ .call e) :
    w'.sim.latch = if ev.consumes w then w.sim.consumeAbort.latch else w.sim.latch := by
  cases hp : w.sim.abortPending
  case false =>
    simpa [Event.consumes, hp] using step_unlatched_wait h he hp
  case true =>
    cases hc : ev.checks w
    case false => simp [step_unchecked h he hc, Event.consumes, hc]
    case true =>
      have hcons : ev.consumes w = true := by simp [Event.consumes, hc, hp]
      rw [step_consumes hcons, Option.some.injEq, Prod.mk.injEq] at h
      obtain ⟨rfl, -⟩ := h
      simp [hcons]

/-- One event moves the latch by one rule: `abort_wait` latches it, a capture start or stop
drops it, an abort check consumes it, and only a consumption counts. -/
theorem step_latch (h : w.step ev = some (w', out)) :
    w'.sim.abortPending = (ev.latches w || (w.sim.abortPending && !ev.drops w && !ev.checks w)) ∧
      w'.sim.stats.aborts = w.sim.stats.aborts + (ev.consumes w).toNat := by
  by_cases hcall : ∃ e, ev = .call e
  case pos =>
    -- a call moves the latch by itself and never checks it
    obtain ⟨e, rfl⟩ := hcall
    obtain ⟨he, rfl⟩ := step_call h
    obtain ⟨h1, h2, -⟩ := Entry.latch_apply w.sim e he
    simp [Event.latches, Event.drops, Event.checks, Event.consumes, h1, h2]
  case neg =>
    -- a wait neither latches nor drops; it consumes what its check finds
    have he : ∀ e, ev ≠ .call e := fun e he => hcall ⟨e, he⟩
    have hld : ev.latches w = false ∧ ev.drops w = false := by
      rcases ev with e | f | t
      · exact absurd rfl (he e)
      · exact ⟨rfl, rfl⟩
      · exact ⟨rfl, rfl⟩
    have hv := step_wait_latch h he
    have h1 := congrArg Simulator.Latch.pending hv
    have h2 := congrArg Simulator.Latch.aborts hv
    simp only [apply_ite Simulator.Latch.pending, apply_ite Simulator.Latch.aborts,
      Simulator.consumeAbort_latch, Simulator.latch_pending, Simulator.latch_aborts] at h1 h2
    rw [h1, h2, hld.1, hld.2, Event.consumes]
    cases ev.checks w <;> cases w.sim.abortPending <;> simp

/-- The latch counted over one event: the abort latched before and a raise equal a consumption
or a drop and the abort latched after. -/
theorem step_latch_count (h : w.step ev = some (w', out)) :
    w.sim.abortPending.toNat + (ev.raises w).toNat =
      (ev.consumes w).toNat + (ev.clears w).toNat + w'.sim.abortPending.toNat := by
  rw [(step_latch h).1]
  unfold Event.raises Event.consumes Event.clears
  -- at most one of latching, dropping and checking happens
  cases hc : ev.checks w
  · cases hl : ev.latches w
    · cases ev.drops w <;> cases w.sim.abortPending <;> rfl
    · rw [Event.drops_of_latches hl]
      cases w.sim.abortPending <;> rfl
  · obtain ⟨hl, hd⟩ := Event.latches_drops_of_checks hc
    rw [hl, hd]
    cases w.sim.abortPending <;> rfl

/-- With no capture running, an event starts one exactly when it is a capture start that the
camera takes: waits never touch the capture. -/
theorem step_capture (h : w.step ev = some (w', out)) (hc : w.sim.capture = none) :
    w'.sim.capture.isSome = ev.startsCapture w := by
  by_cases hcall : ∃ e, ev = .call e
  case pos =>
    obtain ⟨e, rfl⟩ := hcall
    obtain ⟨he, rfl⟩ := step_call h
    exact (Entry.latch_apply w.sim e he).2.2 hc
  case neg =>
    have he : ∀ e, ev ≠ .call e := fun e he => hcall ⟨e, he⟩
    have hv := congrArg Simulator.Latch.capture (step_wait_latch h he)
    simp only [apply_ite Simulator.Latch.capture, Simulator.consumeAbort_latch,
      Simulator.latch_capture, ite_self] at hv
    rcases ev with e | f | t
    · exact absurd rfl (he e)
    all_goals simp [hv, hc, Event.startsCapture]

/-- With no capture running, the wait in progress returns Abort at its next wake-up, whatever
woke it. -/
theorem step_wake_stopped (hw : w.wait.isSome = true) (hc : w.sim.capture = none) (t : Bool) :
    ∃ w', w.step (.wake t) = some (w', some (.failed Simulator.abortError)) ∧
      w'.wait = none := by
  cases hp : w.sim.abortPending
  case true =>
    exact ⟨_, step_consumes (by simp [Event.consumes, Event.checks, hw, hp]), rfl⟩
  case false =>
    obtain ⟨⟨p, f⟩, hw⟩ := Option.isSome_iff_exists.mp hw
    have hs : w.step (.wake t) = some (⟨w.sim, none⟩, some (.failed Simulator.abortError)) := by
      simp [step, hw, Simulator.wake_stopped _ _ _ hp hc, resume]
    exact ⟨_, hs, rfl⟩

/-! ### A run -/

theorem run_cons (h : w.step ev = some (w', out)) (evs : List Event) :
    w.run (ev :: evs) = (w'.run evs).map fun r => (r.1, out.toList ++ r.2) := by
  rw [run, h]

theorem count_cons (c : Event → Waiting → Bool) (h : w.step ev = some (w', out))
    (evs : List Event) : count c (ev :: evs) w = (c ev w).toNat + count c evs w' := by
  rw [count, h]

/-- A run that goes through starts with a step that goes through. -/
theorem run_cons_eq {evs : List Event} {ws : List Wait} (h : w.run (ev :: evs) = some (w', ws)) :
    ∃ w₁ out ws₁, w.step ev = some (w₁, out) ∧ w₁.run evs = some (w', ws₁) ∧
      ws = out.toList ++ ws₁ := by
  rcases hs : w.step ev with _ | ⟨w₁, out⟩
  · simp [run, hs] at h
  · rw [run_cons hs, Option.map_eq_some_iff] at h
    obtain ⟨⟨w₂, ws₁⟩, hr, he⟩ := h
    simp only [Prod.mk.injEq] at he
    obtain ⟨rfl, rfl⟩ := he
    exact ⟨w₁, out, ws₁, rfl, hr, rfl⟩

/-- Over a run, every consumed latch is counted, and the latches raised balance the latches
consumed and dropped: a latch raised twice before it is consumed is consumed once. -/
theorem run_latch {evs : List Event} {ws : List Wait} (h : w.run evs = some (w', ws)) :
    w'.sim.stats.aborts = w.sim.stats.aborts + count Event.consumes evs w ∧
      w.sim.abortPending.toNat + count Event.raises evs w =
        count Event.consumes evs w + count Event.clears evs w + w'.sim.abortPending.toNat := by
  -- induction on the events; `step_latch_count` carries the balance over one event
  induction evs generalizing w ws with
  | nil =>
    simp only [run, Option.some.injEq, Prod.mk.injEq] at h
    obtain ⟨rfl, -⟩ := h
    simp [count]
  | cons ev evs ih =>
    obtain ⟨w₁, out, ws₁, hs, hr, -⟩ := run_cons_eq h
    obtain ⟨ha, hb⟩ := ih hr
    have hstep := step_latch_count hs
    have haborts := (step_latch hs).2
    simp only [count_cons _ hs]
    omega

/-- A capture that is not running stays so over a run with no capture start that the camera
takes. -/
theorem run_capture {evs : List Event} {ws : List Wait} (h : w.run evs = some (w', ws))
    (hc : w.sim.capture = none) (hs : count Event.startsCapture evs w = 0) :
    w'.sim.capture = none := by
  induction evs generalizing w ws with
  | nil =>
    simp only [run, Option.some.injEq, Prod.mk.injEq] at h
    obtain ⟨rfl, -⟩ := h
    exact hc
  | cons ev evs ih =>
    obtain ⟨w₁, out, ws₁, hst, hr, -⟩ := run_cons_eq h
    rw [count_cons _ hst] at hs
    have hstart : ev.startsCapture w = false := by
      cases hx : ev.startsCapture w <;> simp_all
    have h1 : w₁.sim.capture = none := by
      simpa [hstart] using step_capture hst hc
    exact ih hr h1 (by omega)

end Waiting

/-- The abort latch of a camera with at most one frame wait in progress. The patient frame wait
is the wait run alone. One event latches the abort (`abort_wait`), drops it (a capture start
that the camera takes, a capture stop) or consumes it (an abort check), and only a consumption
counts. An abort check that finds the latch returns Abort, ends its wait and changes nothing
else. While a wait is in progress no other starts, so its wake-ups are the only checks. Over a
run the latches raised balance those consumed and dropped, and the count of aborts grows by the
consumptions. A capture stop or a device close leaves no capture running, and the wait in
progress then returns Abort at its first wake-up after any run with no capture start. -/
theorem abort_latch_consumed_once (w w' : Waiting) (evs : List Event) (ws : List Wait)
    (h : w.run evs = some (w', ws)) :
    (w'.sim.stats.aborts = w.sim.stats.aborts + Waiting.count Event.consumes evs w ∧
      w.sim.abortPending.toNat + Waiting.count Event.raises evs w =
        Waiting.count Event.consumes evs w + Waiting.count Event.clears evs w +
          w'.sim.abortPending.toNat) ∧
    (w.sim.capture = none → Waiting.count Event.startsCapture evs w = 0 →
      w'.wait.isSome = true → ∀ t : Bool,
        ∃ w'', w'.step (.wake t) = some (w'', some (.failed Simulator.abortError)) ∧
          w''.wait = none) ∧
    (∀ (f : Frame) (s : Simulator), s.waitForFrame true f = Simulator.settle f 2 s.beginWait) ∧
    (∀ (w w' : Waiting) (ev : Event) (out : Option Wait), w.step ev = some (w', out) →
      w'.sim.abortPending =
          (ev.latches w || (w.sim.abortPending && !ev.drops w && !ev.checks w)) ∧
        w'.sim.stats.aborts = w.sim.stats.aborts + (ev.consumes w).toNat) ∧
    (∀ (w : Waiting) (ev : Event), ev.consumes w = true →
      w.step ev = some (⟨w.sim.consumeAbort, none⟩, some (.failed Simulator.abortError))) ∧
    (∀ (w : Waiting) (f : Frame), w.wait.isSome = true → w.step (.enter f) = none) ∧
    (∀ (s : Simulator) (e : Entry), e.stopsCapture s = true → (e.apply s).capture = none) := by
  refine ⟨Waiting.run_latch h, fun hc hs hw t => ?_, Simulator.waitForFrame_settle,
    fun _ _ _ _ h => Waiting.step_latch h, fun _ _ h => Waiting.step_consumes h, ?_,
    Entry.capture_stop⟩
  · -- no capture start in the run: the capture the run ends with is still stopped
    exact Waiting.step_wake_stopped hw (Waiting.run_capture h hc hs) t
  · intro w f hw
    obtain ⟨pf, hw⟩ := Option.isSome_iff_exists.mp hw
    simp [Waiting.step, hw]

/-- A software-triggered wait blocked when the capture stops returns Abort at its wake-up. -/
theorem stopped_wait_aborts_before_restart :
    let f := Frame.make 4 2 2 headerBytes
    ∃ w, (Waiting.mk (Simulator.make SimConfig.default) none).run
        [.call .apiInit, .call (.devOpen 0), .call .bufAlloc,
          .call (.capStart .triggerSoftware), .enter f, .call .capStop] = some (w, []) ∧
      w.sim.capture = none ∧ w.wait.isSome = true ∧
      ∃ w'', w.step (.wake false) = some (w'', some (.failed Simulator.abortError)) ∧
        w''.wait = none := by
  refine ⟨_, rfl, rfl, rfl, ?_⟩
  -- the latch and the capture as the run left them, with no event after it
  exact (abort_latch_consumed_once _ _ [] [] rfl).2.1 rfl rfl rfl false

/-- A software-triggered wait blocked when the capture stops, which wakes only after a new
capture has started, waits on in the new capture and returns its frame. -/
theorem stopped_wait_resumes_in_new_capture :
    let f := Frame.make 4 2 2 headerBytes
    ∃ w, (Waiting.mk (Simulator.make SimConfig.default) none).run
        [.call .apiInit, .call (.devOpen 0), .call .bufAlloc,
          .call (.capStart .triggerSoftware), .enter f] = some (w, []) ∧
      w.wait = some (.trigger, f) ∧
      (w.run [.call .capStop, .call (.capStart .triggerSoftware), .wake false,
          .call .doSoftwareTrigger, .wake false, .wake true]).map Prod.snd =
        some [.captured (f.fill 0)] :=
  ⟨_, rfl, rfl, rfl⟩

end CameraAcquisition.Sdk
