import CameraAcquisition.Proofs.Acquisition.Calm
import CameraAcquisition.Proofs.Sdk.Triggers

/-!
# Who answers for the software triggers

An internally triggered run is paced by its trigger thread: each trigger that goes through lets
the camera deliver one frame. The triggers of a capture are answered for by whoever holds the
capture (`Plant.Feeding`): the start from its settle pause until its cancel has stopped the
capture, then the run it hands over, then the worker in that run until its teardown stops the
capture. The holder comes with the trigger thread it answers for, none before the start has
started one, and with the frames it has taken from the capture: none before the run is handed
over, the frame count after. `Plant.Feeds` says what the camera owes such a holder: with a
trigger thread, a capture in software trigger mode; in that mode, the frames taken, the
triggers pending and the trigger a wait of the worker holds past its trigger loop
(`Worker.heldTriggers`) add up to at most the triggers the thread has fired. A trigger the wait
took is lost when the wait is aborted before its frame, so they need not add up to all of
them.

Only one party answers at a time (`Bookkept.feeding_unique`), and whoever answers for a trigger
thread answers for the triggers with it (`Bookkept.feeding_of_owns`). A step of a host call
outside every start takes no part in the triggers (`Call.step_unarmed`); only a start changes
the trigger threads, by starting the thread of an internally triggered run or telling its
thread to stop (`Call.step_timers`); and neither a host call nor the worker fires a trigger
(`Call.step_triggers`, `Worker.step_triggers`).

Two invariants serve the count of frames and triggers: the frame loop waits for the frame the
frame count names (`Plant.WaitsCounted`), and a thread for a number of triggers has fired at
most that many (`Plant.FiringBounded`).

## What this module delivers

- `Call.feed`, `Caller.feed`, `Worker.feed`, `Worker.heldTriggers`, `Controller.triggerStakes`,
  `Plant.firedOf`, `Plant.Feeding`, `Plant.Feeds`, with `Bookkept.heldTriggers_of_idle`,
  `Bookkept.feeding_unique`, `Bookkept.feeding_of_arming`,
  `Bookkept.feeding_of_pending`, `Bookkept.feeding_of_running` and `Bookkept.feeding_of_owns`.
- `AcqParams.captureMode_eq_triggerSoftware`.
- `Call.step_unarmed`, `Call.step_timers`, `Call.step_triggers`, `Worker.step_timers`,
  `Worker.step_triggers`.
- `Plant.WaitsCounted` and `Plant.FiringBounded`, with their step lemmas.
-/

set_option autoImplicit false

namespace CameraAcquisition

/-! ## Who answers for the triggers -/

/-- The trigger thread a point of a start answers for the capture's triggers with, while it
holds the capture: none before it has started one. -/
def Call.feed : Call → Option (Option Nat)
  | .settling _ | .armTimer _ => some none
  | .handOver t => some t
  | .cancelling t .signal | .cancelling t .join | .cancelling t .stopCapture => some t
  | _ => none

/-- The trigger thread a host thread answers for the capture's triggers with. -/
def Caller.feed : Caller → Option (Option Nat)
  | .busy c => c.feed
  | _ => none

/-- The trigger thread of the worker's run, while the worker holds the run's capture. -/
def Worker.feed : Worker → Option (Option Nat)
  | .acquiring run .. => some run.timer
  | .ending _ _ _ .record => none
  | .ending run .. => some run.timer
  | _ => none

/-- The software trigger the worker's frame wait holds: one once the wait is paused past the
trigger loop, which a wait in software trigger mode passes only with a trigger taken. -/
def Worker.heldTriggers : Worker → Nat
  | .acquiring _ _ _ spot => spot.pastTrigger.toNat
  | _ => 0

@[simp] theorem Caller.feed_busy (c : Call) : (Caller.busy c).feed = c.feed := rfl
@[simp] theorem Caller.feed_idle : Caller.idle.feed = none := rfl
@[simp] theorem Caller.feed_returned (r : Except CameraError Unit) :
    (Caller.returned r).feed = none := rfl

/-- Only a start that holds the arming flag answers for the triggers. -/
theorem Caller.isArming_of_feed {c : Caller} {t : Option Nat} (h : c.feed = some t) :
    c.isArming = true := by
  rcases c with _ | x | _
  · simp at h
  · cases x <;> simp_all [Call.feed, Call.isArming]
  · simp at h

theorem Caller.feed_of_isArming {c : Caller} (h : c.isArming = false) : c.feed = none := by
  cases hf : c.feed
  · rfl
  · simp [Caller.isArming_of_feed hf] at h

/-- A start that answers for a trigger thread holds the capture with it. -/
theorem Caller.feed_of_timerOf {c : Caller} {j : Nat} (h : c.timerOf = some j) :
    c.feed = some (some j) := by
  rcases c with _ | x | _
  · simp at h
  · cases x with
    | handOver t => simpa [Call.timerOf, Call.feed] using h
    | cancelling t st => cases st <;> simp_all [Call.timerOf, Call.feed]
    | _ => simp [Call.timerOf] at h
  · simp at h

/-- The worker answers for a trigger thread only as the thread of the run it holds. -/
theorem Worker.feed_of_timerOf {w : Worker} {j : Nat} (h : w.timerOf = some j) :
    w.feed = some (some j) := by
  rcases w with _ | ⟨run, f, n, spot⟩ | ⟨run, o, rel, st⟩ | _
  · simp [Worker.timerOf] at h
  · simpa [Worker.timerOf, Worker.feed] using h
  · cases st <;> simp_all [Worker.timerOf, Worker.feed]
  · simp [Worker.timerOf] at h

/-- The worker answers for the triggers only within a run. -/
theorem Worker.run?_of_feed {w : Worker} {t : Option Nat} (h : w.feed = some t) :
    w.run?.isSome = true := by
  rcases w with _ | ⟨run, f, n, spot⟩ | ⟨run, o, rel, st⟩ | _ <;>
    simp_all [Worker.feed, Worker.run?]

/-- What of the controller says who answers for the triggers: the run flags, the trigger thread
of a run handed over, and the frame count. -/
structure TriggerStakes where
  runRequested : Bool
  running : Bool
  timer : Option Nat
  frameCount : Nat

/-- The controller's trigger stakes. -/
def Controller.triggerStakes (c : Controller) : TriggerStakes :=
  ⟨c.runRequested, c.running, c.timer, c.frameCount⟩

namespace Plant

/-- The triggers thread `t` has fired; none without a thread. -/
def firedOf (p : Plant) : Option Nat → Nat
  | none => 0
  | some j => (p.timers[j]?.map Timer.fired).getD 0

/-- The holder of the capture answers for thread `t` and has taken `n` frames: a start, which
has taken none; the run handed over; or the worker in the run, which has taken the frame
count. -/
def Feeding (p : Plant) (t : Option Nat) (n : Nat) : Prop :=
  (∃ i, (p.callers i).feed = some t ∧ n = 0) ∨
    (p.ctl.runRequested = true ∧ p.ctl.running = false ∧ p.ctl.timer = t ∧
      n = p.ctl.frameCount) ∨
    (p.worker.feed = some t ∧ n = p.ctl.frameCount)

/-- What the camera owes a holder that answers for thread `t` and has taken `n` frames: with a
thread, a capture in software trigger mode; in that mode, the frames taken, the triggers
pending and the trigger the worker's wait holds add up to at most the triggers the thread has
fired. -/
def Feeds (p : Plant) (t : Option Nat) (n : Nat) : Prop :=
  (t.isSome → p.sim.capture = some .triggerSoftware) ∧
    (p.sim.capture = some .triggerSoftware →
      n + p.sim.pendingTriggers + p.worker.heldTriggers ≤ p.firedOf t)

variable {p q : Plant}

theorem firedOf_of_timers (h : q.timers = p.timers) (t : Option Nat) :
    q.firedOf t = p.firedOf t := by
  cases t <;> simp [firedOf, h]

/-- A change of one trigger thread that keeps its count keeps what every thread fired. -/
theorem firedOf_modifyTimer {k : Nat} {f : Timer → Timer} (hf : ∀ x, (f x).fired = x.fired)
    (t : Option Nat) : (p.modifyTimer k f).firedOf t = p.firedOf t := by
  cases t with
  | none => rfl
  | some j =>
    simp only [firedOf, modifyTimer, List.getElem?_modify]
    cases hj : p.timers[j]? with
    | none => rfl
    | some x => split <;> simp [hf]

theorem firedOf_signalTimer (t' t : Option Nat) : (signalTimer t' p).firedOf t = p.firedOf t := by
  cases t' with
  | none => rfl
  | some k =>
    simp only [signalTimer]
    apply firedOf_modifyTimer
    intro x
    rfl

/-- A thread just started has fired nothing, and changes what no other thread fired. -/
theorem firedOf_append_make (n : Nat) (t : Option Nat) :
    { p with timers := p.timers ++ [Timer.make n] }.firedOf t = p.firedOf t := by
  cases t with
  | none => rfl
  | some j =>
    simp only [firedOf, List.getElem?_append]
    split
    · rfl
    · next hj =>
      have hp : p.timers[j]? = none := List.getElem?_eq_none (by omega)
      rw [hp, List.getElem?_singleton]
      split <;> rfl

/-- A holder is owed the same by a camera with the same feed and threads that fired the
same. -/
theorem Feeds.congr {t : Option Nat} {n : Nat} (h : p.Feeds t n) (hfeed : q.sim.feed = p.sim.feed)
    (hheld : q.worker.heldTriggers = p.worker.heldTriggers) (hfired : q.firedOf t = p.firedOf t) :
    q.Feeds t n := by
  have hc : q.sim.capture = p.sim.capture := congrArg Sdk.Feed.capture hfeed
  have hp : q.sim.pendingTriggers = p.sim.pendingTriggers := congrArg Sdk.Feed.pending hfeed
  unfold Feeds
  rw [hc, hp, hheld, hfired]
  exact h

end Plant

/-! ## One holder at a time -/

namespace Bookkept

variable {p : Plant} {t : Option Nat} {n : Nat}

theorem running_of_feed (hb : Bookkept p) (h : p.worker.feed = some t) : p.ctl.running = true := by
  have e : p.ctl.running = p.worker.run?.isSome := hb.working.running_eq
  rw [e]
  exact Worker.run?_of_feed h

/-- Out of a run the worker holds no trigger. -/
theorem heldTriggers_of_idle (hb : Bookkept p) (hrun : p.ctl.running = false) :
    p.worker.heldTriggers = 0 := by
  have e : p.ctl.running = p.worker.run?.isSome := hb.working.running_eq
  cases hw : p.worker with
  | acquiring run f n spot => simp [hw, hrun, Worker.run?] at e
  | ending run o rel st => simp [hw, hrun, Worker.run?] at e
  | _ => rfl

/-- While a start arms, it is the only one that may answer for the triggers. -/
theorem feeding_of_arming (hb : Bookkept p) {i : Nat} (ha : (p.callers i).isArming = true)
    (h : p.Feeding t n) : (p.callers i).feed = some t ∧ n = 0 := by
  obtain ⟨-, hr, hrun⟩ := hb.arming_caller ha
  rcases h with ⟨j, hj, rfl⟩ | ⟨hr', -⟩ | ⟨hw, -⟩
  · -- another start answering would be arming too
    rw [hb.armed.arming_unique i j ha (Caller.isArming_of_feed hj)]
    exact ⟨hj, rfl⟩
  · simp [hr] at hr'
  · simp [hb.running_of_feed hw] at hrun

/-- A run handed over and not picked up is the only one that answers for the triggers. -/
theorem feeding_of_pending (hb : Bookkept p) (hr : p.ctl.runRequested = true)
    (hrun : p.ctl.running = false) (h : p.Feeding t n) :
    t = p.ctl.timer ∧ n = p.ctl.frameCount := by
  rcases h with ⟨j, hj, -⟩ | ⟨-, -, rfl, rfl⟩ | ⟨hw, -⟩
  · simp [(hb.arming_caller (Caller.isArming_of_feed hj)).2.1] at hr
  · exact ⟨rfl, rfl⟩
  · simp [hb.running_of_feed hw] at hrun

/-- While a run runs, only the worker answers for the triggers. -/
theorem feeding_of_running (hb : Bookkept p) (hrun : p.ctl.running = true) (h : p.Feeding t n) :
    p.worker.feed = some t ∧ n = p.ctl.frameCount := by
  rcases h with ⟨j, hj, -⟩ | ⟨-, hrun', -⟩ | hw
  · simp [(hb.arming_caller (Caller.isArming_of_feed hj)).2.2] at hrun
  · simp [hrun] at hrun'
  · exact hw

/-- Whoever answers for the triggers answers alone, for one thread and one count of frames. -/
theorem feeding_unique (hb : Bookkept p) {t' : Option Nat} {n' : Nat} (h : p.Feeding t n)
    (h' : p.Feeding t' n') : t = t' ∧ n = n' := by
  rcases h with ⟨i, hi, rfl⟩ | ⟨hr, hrun, rfl, rfl⟩ | ⟨hw, rfl⟩
  · obtain ⟨hi', rfl⟩ := hb.feeding_of_arming (Caller.isArming_of_feed hi) h'
    exact ⟨Option.some.inj (hi.symm.trans hi'), rfl⟩
  · obtain ⟨rfl, rfl⟩ := hb.feeding_of_pending hr hrun h'
    exact ⟨rfl, rfl⟩
  · obtain ⟨hw', rfl⟩ := hb.feeding_of_running (hb.running_of_feed hw) h'
    exact ⟨Option.some.inj (hw.symm.trans hw'), rfl⟩

/-- Somebody answers for the triggers only on an active controller. -/
theorem active_of_feeding (hb : Bookkept p) (h : p.Feeding t n) : p.ctl.isActive = true := by
  rcases h with ⟨i, hi, -⟩ | ⟨hr, -⟩ | ⟨hw, -⟩
  · simp [Controller.isActive, (hb.arming_caller (Caller.isArming_of_feed hi)).1]
  · simp [Controller.isActive, hr]
  · simp [Controller.isActive, hb.running_of_feed hw]

/-- Whoever answers for a trigger thread answers for the triggers with it. -/
theorem feeding_of_owns (hb : Bookkept p) {j : Nat} (h : p.OwnsTimer j) :
    ∃ n, p.Feeding (some j) n := by
  rcases h with ⟨i, hi⟩ | hc | hw
  · exact ⟨0, .inl ⟨i, Caller.feed_of_timerOf hi, rfl⟩⟩
  · obtain ⟨hr, hrun⟩ := hb.sound.timer_pending (by simp [hc])
    exact ⟨p.ctl.frameCount, .inr (.inl ⟨hr, hrun, hc, rfl⟩)⟩
  · exact ⟨p.ctl.frameCount, .inr (.inr ⟨Worker.feed_of_timerOf hw, rfl⟩)⟩

end Bookkept

/-- A run is armed in software trigger mode exactly when it is internally triggered. -/
theorem AcqParams.captureMode_eq_triggerSoftware (ps : AcqParams) :
    ps.captureMode = .triggerSoftware ↔ ps.trigMode = .intTrig := by
  rcases ps with ⟨m, e, l, n, x, edge⟩
  cases m <;> cases x <;> simp [AcqParams.captureMode, ExtTrigger.captureMode]

/-! ## What a step changes of the trigger threads and the triggers -/

namespace Acquisition

variable {e : Bool} {s : Except CameraError Unit} {p q : Plant} {r : Caller}

/-- A step of a host call outside every start takes no part in the triggers: its next point
answers for none, it leaves the trigger stakes and the trigger threads alone, and the camera's
feed too, unless it is a prepare on an idle controller. -/
theorem Call.step_unarmed {c : Call} (hca : c.isArming = false)
    (h : Call.step e s c p = some (r, q)) :
    r.feed = none ∧ q.ctl.triggerStakes = p.ctl.triggerStakes ∧ q.timers = p.timers ∧
      ((c = .prepare ∧ p.ctl.isActive = false) ∨ q.sim.feed = p.sim.feed) := by
  cases c with
  | prepare =>
    rcases Call.step_prepare h with ⟨-, rfl, rfl⟩ |
      ⟨ha, ⟨res, rfl⟩, sim, cold, f, rfl, -⟩
    · exact ⟨rfl, rfl, rfl, .inr rfl⟩
    · exact ⟨rfl, rfl, rfl, .inl ⟨rfl, ha⟩⟩
  | releaseBuffer =>
    rcases Call.step_releaseBuffer h with ⟨-, rfl, rfl⟩ | ⟨-, ⟨res, rfl⟩, rfl⟩
    · exact ⟨rfl, rfl, rfl, .inr rfl⟩
    · split <;> exact ⟨rfl, rfl, rfl, .inr (by simp)⟩
  | update f =>
    obtain ⟨rfl, rfl⟩ := Call.step_update h
    exact ⟨rfl, rfl, rfl, .inr rfl⟩
  | start =>
    rcases Call.step_start h with ⟨-, -, -, -, rfl, rfl⟩ | ⟨rfl, rfl⟩ <;>
      exact ⟨rfl, rfl, rfl, .inr rfl⟩
  | awaitAck n =>
    obtain ⟨rfl, ⟨-, rfl⟩ | ⟨-, -, rfl⟩⟩ := Call.step_awaitAck h <;>
      exact ⟨rfl, rfl, rfl, .inr rfl⟩
  | stop a =>
    rcases Call.step_stop h with ⟨-, rfl, rfl⟩ | ⟨-, rfl, rfl⟩
    · exact ⟨rfl, rfl, rfl, .inr rfl⟩
    · refine ⟨Caller.feed_of_isArming (stopUnlessIdle_stopsAs a).1, ?_⟩
      rw [stopUnlessIdle_plant]
      split <;> exact ⟨rfl, rfl, .inr rfl⟩
  | stopAwaitArming a =>
    obtain ⟨-, rfl, rfl⟩ := Call.step_stopAwaitArming h
    refine ⟨Caller.feed_of_isArming (stopUnlessIdle_stopsAs a).1, ?_⟩
    rw [stopUnlessIdle_plant]
    split <;> exact ⟨rfl, rfl, .inr rfl⟩
  | stopAbort a n =>
    obtain ⟨rfl, ⟨-, rfl⟩ | ⟨-, rfl⟩⟩ := Call.step_stopAbort h
    · exact ⟨Caller.feed_of_isArming (afterStop_stopsAs a _).1, rfl, rfl, .inr (by simp)⟩
    · exact ⟨rfl, rfl, rfl, .inr (by simp)⟩
  | stopPause a n =>
    obtain ⟨-, rfl, rfl⟩ := Call.step_stopPause h
    rw [stopLoop_plant]
    exact ⟨Caller.feed_of_isArming (stopLoop_stopsAs a n).1, rfl, rfl, .inr rfl⟩
  | resetForce =>
    obtain ⟨rfl, rfl⟩ := Call.step_resetForce h
    exact ⟨rfl, rfl, rfl, .inr rfl⟩
  | dropQuit =>
    obtain ⟨rfl, rfl⟩ := Call.step_dropQuit h
    exact ⟨rfl, rfl, rfl, .inr rfl⟩
  | dropJoin =>
    obtain ⟨-, rfl, rfl⟩ := Call.step_dropJoin h
    exact ⟨rfl, rfl, rfl, .inr rfl⟩
  | dropRelease =>
    obtain ⟨rfl, rfl⟩ := Call.step_dropRelease h
    exact ⟨rfl, rfl, rfl, .inr (by split <;> simp)⟩
  | setRoi attr =>
    rcases Call.step_setRoi h with ⟨-, rfl, rfl⟩ | ⟨-, hr, rfl⟩
    · exact ⟨rfl, rfl, rfl, .inr rfl⟩
    · have hf : r.feed = none := by rcases hr with rfl | ⟨err, rfl⟩ <;> rfl
      split <;> exact ⟨hf, rfl, rfl, .inr (by simp)⟩
  | programRoi attr =>
    obtain ⟨rfl, rfl⟩ := Call.step_programRoi h
    exact ⟨rfl, rfl, rfl, .inr (by simp)⟩
  | _ => simp [Call.isArming] at hca

/-- Only a start changes the trigger threads: it starts the thread of an internally triggered
run, or tells its thread to stop when cancelled. -/
theorem Call.step_timers {c : Call} (h : Call.step e s c p = some (r, q)) :
    (∃ t, q.timers = (signalTimer t p).timers) ∨
    (∃ ps, c = .armTimer ps ∧ ps.trigMode = .intTrig ∧
      q.timers = p.timers ++ [Timer.make ps.nbFrames]) := by
  cases hca : c.isArming
  · exact .inl ⟨none, (Call.step_unarmed hca h).2.2.1⟩
  · cases c with
    | armCapture ps =>
      obtain ⟨rfl, -⟩ := Call.step_armCapture h
      exact .inl ⟨none, rfl⟩
    | settling ps =>
      obtain ⟨-, rfl, -⟩ := Call.step_settling h
      exact .inl ⟨none, rfl⟩
    | armTimer ps =>
      rcases Call.step_armTimer h with ⟨-, rfl, -⟩ | ⟨hm, -, rfl, -⟩ | ⟨-, -, -, rfl, -⟩
      · exact .inl ⟨none, rfl⟩
      · exact .inr ⟨ps, rfl, hm, rfl⟩
      · exact .inl ⟨none, rfl⟩
    | handOver t =>
      rcases Call.step_handOver h with ⟨-, -, rfl⟩ | ⟨-, rfl, -⟩ <;>
        exact .inl ⟨none, rfl⟩
    | cancelling t st =>
      rcases Call.step_cancelling h with ⟨-, rfl, -⟩ | ⟨-, -, rfl, -⟩ | ⟨-, rfl, -⟩ |
        ⟨-, -, rfl⟩
      · exact .inl ⟨t, rfl⟩
      all_goals exact .inl ⟨none, rfl⟩
    | failArming err =>
      obtain ⟨-, rfl⟩ := Call.step_failArming h
      exact .inl ⟨none, rfl⟩
    | _ => simp [Call.isArming] at hca

end Acquisition

namespace Worker

variable {p q : Plant} {pat : Bool}

/-- The worker changes the trigger threads only by telling its run's thread to stop. -/
theorem step_timers (h : Worker.step pat p = some q) :
    ∃ t, q.timers = (signalTimer t p).timers := by
  cases hw : p.worker with
  | idle => rcases step_idle hw h with ⟨-, rfl⟩ | ⟨-, -, rfl⟩ <;> exact ⟨none, rfl⟩
  | acquiring run f n spot => exact ⟨none, (acquireStep_frame (step_acquiring hw h)).2.2.1⟩
  | ending run o rel st =>
    rcases endStep_eq (step_ending hw h) with ⟨-, rfl⟩ | ⟨-, -, rfl⟩ | ⟨-, rfl⟩ |
      ⟨-, rfl⟩
    · exact ⟨run.timer, rfl⟩
    · exact ⟨none, rfl⟩
    · exact ⟨none, rfl⟩
    · exact ⟨none, recordEnd_timers p run o⟩
  | exited => simp [step_exited hw] at h

end Worker

/-! ## The frame count and the threads' counts -/

namespace Timer

/-- A thread that goes on firing has triggers left, when it has a number of them. -/
theorem fired_lt_of_keepsFiring {t : Timer} (h : t.keepsFiring = true) (hl : 0 < t.limit) :
    t.fired < t.limit := by
  simp only [keepsFiring, Bool.and_eq_true, Bool.not_eq_true', Bool.or_eq_true, beq_iff_eq,
    decide_eq_true_eq] at h
  omega

end Timer

namespace Plant

/-- The frame loop waits for the frame the frame count names. -/
def WaitsCounted (p : Plant) : Prop :=
  ∀ run f k spot n, p.worker = .acquiring run f k spot → spot.awaited = some n →
    n = p.ctl.frameCount

/-- A trigger thread for a number of triggers has fired at most that many. -/
def FiringBounded (p : Plant) : Prop :=
  ∀ (j : Nat) (t : Timer), p.timers[j]? = some t → 0 < t.limit → t.fired ≤ t.limit

variable {env : Bool} {p q : Plant} {a : Actor}

/-- The frame loop comes to wait only from its top, where it names the frame count, and nothing
else changes the frame count while the worker is in a run. -/
theorem WaitsCounted.step (h : p.WaitsCounted) (hb : Bookkept p) (hs : Transition env p a q) :
    q.WaitsCounted := by
  unfold WaitsCounted at h ⊢
  intro run f k spot n hq hn
  cases hs with
  | request i rq hm => exact h run f k spot n hq hn
  | call i e s hc hst =>
    obtain ⟨hw, -⟩ := Acquisition.Call.step_frame hst
    have hwp : p.worker = .acquiring run f k spot := by rw [← hw]; exact hq
    have hrun : p.ctl.running = true := by
      have e : p.ctl.running = p.worker.run?.isSome := hb.working.running_eq
      simp [e, hwp, Worker.run?]
    -- with a run running, no step of a host call sets the frame count
    rw [setCaller_ctl, (Acquisition.Call.step_running hb hc hrun hst).2]
    exact h run f k spot n hwp hn
  | worker hst =>
    have hwt : q.worker.waitsIn run.session = true := by simp [hq, Worker.waitsIn, hn]
    rcases Worker.step_waitsIn hst hwt with hp | ⟨run', f', n', hw, -, -⟩
    · -- a wait that goes on waits for the same frame, with the count as it was
      obtain ⟨run', f', k', spot', m, hw, -, hm⟩ := Worker.waitsIn_eq_true hp
      obtain ⟨-, rfl, hc⟩ := Worker.step_wait_goes_on hst hw hm hq hn
      rw [hc]
      exact h run' f' k' spot' n hw hm
    · -- the worker comes to wait from the top of its loop, for the frame the count names
      rcases Worker.acquireStep_top (Worker.step_acquiring hw hst) with ⟨-, rfl⟩ |
        ⟨-, -, -, rfl⟩ | ⟨-, -, rfl⟩
      · simp at hq
      · simp at hq
      · simp only [setWorker_worker, Worker.acquiring.injEq] at hq
        simp [← hq.2.2.2, Spot.awaited] at hn
        simp [hn]
  | timer i hst =>
    obtain ⟨hc, hw, -, -⟩ := Timer.step_frame hst
    rw [hc]
    exact h run f k spot n (hw ▸ hq) hn
  | outside sim host _ => exact h run f k spot n hq hn

theorem FiringBounded.modifyTimer (h : p.FiringBounded) {k : Nat} {f : Timer → Timer}
    (hf : ∀ t, p.timers[k]? = some t → 0 < (f t).limit → (f t).fired ≤ (f t).limit) :
    (p.modifyTimer k f).FiringBounded := by
  unfold FiringBounded at h ⊢
  intro j t ht hl
  simp only [Plant.modifyTimer, List.getElem?_modify] at ht
  cases hj : p.timers[j]? with
  | none => simp [hj] at ht
  | some t0 =>
    simp only [hj, Option.map_eq_map, Option.map_some, Option.some.injEq] at ht
    split at ht
    · next hk =>
      subst hk ht
      exact hf t0 hj hl
    · subst ht
      exact h j t0 hj hl

theorem FiringBounded.congr (h : p.FiringBounded) (ht : q.timers = p.timers) : q.FiringBounded := by
  unfold FiringBounded at h ⊢
  rw [ht]
  exact h

theorem FiringBounded.signalTimer (h : p.FiringBounded) (t : Option Nat) :
    (CameraAcquisition.signalTimer t p).FiringBounded := by
  cases t with
  | none => exact h
  | some k => exact h.modifyTimer fun t ht => h k t ht

/-- A thread just started has fired nothing. -/
theorem FiringBounded.append_make (h : p.FiringBounded) (n : Nat) :
    { p with timers := p.timers ++ [Timer.make n] }.FiringBounded := by
  unfold FiringBounded at h ⊢
  intro j t ht hl
  simp only [List.getElem?_append] at ht
  split at ht
  · exact h j t ht hl
  · have ht' := (List.getElem?_eq_some_iff.1 ht).2
    simp only [List.getElem_singleton] at ht'
    simp [← ht', Timer.make]

/-- Only a trigger thread's own step adds to its count, and only while it has triggers left. -/
theorem FiringBounded.step (h : p.FiringBounded) (hs : Transition env p a q) : q.FiringBounded := by
  cases hs with
  | request i rq hm => exact h
  | call i e s hc hst =>
    rcases Acquisition.Call.step_timers hst with ⟨t, ht⟩ | ⟨ps, -, -, ht⟩
    · exact (h.signalTimer t).congr (by rw [setCaller_timers, ht])
    · exact (h.append_make ps.nbFrames).congr (by rw [setCaller_timers, ht])
  | worker hst =>
    obtain ⟨t, ht⟩ := Worker.step_timers hst
    exact (h.signalTimer t).congr ht
  | timer k hst =>
    obtain ⟨t, ht, ⟨-, rfl⟩ | ⟨-, hkeep, rfl⟩ | ⟨-, -, rfl⟩⟩ := Timer.step_eq hst
    · exact h.modifyTimer fun t' ht' => h k t' ht'
    · -- a trigger that goes through leaves the count within the limit
      have h' : ({ p with sim := p.sim.doSoftwareTrigger.2 } : Plant).FiringBounded := h
      refine h'.modifyTimer fun t' ht' hl => ?_
      change p.timers[k]? = some t' at ht'
      rw [ht] at ht'
      cases ht'
      dsimp only at hl ⊢
      have hlt := Timer.fired_lt_of_keepsFiring hkeep hl
      split_ifs <;> omega
    · exact h.modifyTimer fun t' ht' => h k t' ht'
  | outside sim host _ => exact h

end Plant

end CameraAcquisition
