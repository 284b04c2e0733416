import CameraAcquisition.Proofs.Acquisition.Bookkeeping

/-!
# The session status

The status is written in two ways. A plain change (`Status.set`) leaves a fault as it is; a
forced change replaces any status. Host calls make plain changes to exposure when a start
hands its run over and to ready when a stop finds nothing to stop or a start cancels its run;
the worker makes plain changes to exposure, readout and latency within a run and to ready when
it records the end; the worker's record of a run that failed forces a fault, and a reset
forces ready.

`StatusKept` says how the status stands to the run flags: the statuses of a run (exposure,
readout, latency) only while a run is requested or running, and a fault only while the
controller is idle. Every step keeps it (`StatusKept.step`), so every reachable plant has it
(`statusKept_of_reachable`).

`Transition.status_cases` says what one step can do to the status. From it: a fault is entered
only by the worker's record of a run that ended in fault, and it is left only by the forced
change of a reset. A run ends in fault only at a frame wait that failed for the limit-th time
in a row (`Transition.fault_teardown`). A start on a controller in fault is refused, with
`Busy` only once a frame is prepared: right after a run that ended in fault the frame has gone
with the run, and the start is refused as not prepared (`start_in_fault_unprepared`).

A reset that no other host call overlaps returns with the controller idle and ready
(`reset_settles`). Its host thread passes through the phases of `ResetPhase`: the stop, the
loop that waits for the run to be torn down, the forced ready and the return. No step that
does not overlap the reset leaves them (`ResetKept.step`): only the reset's own steps and the
worker move the controller, and the worker waits once the controller is idle.

## What this module delivers

- `Status.inRun`, `StatusKept` with `StatusKept.step` and `statusKept_of_reachable`.
- `Transition.status_cases`, `Transition.fault_teardown`, `Call.step_start_fault`.
- `Overlapping`, `ResetPhase`, `ResetKept` with `ResetKept.step`, and `reset_settles`.
- `status_follows_runs`, with its instance in fault `status_follows_runs_in_fault`, and
  `start_in_fault_unprepared` at one execution.
-/

set_option autoImplicit false

namespace CameraAcquisition

/-- Whether a status belongs to a run: exposure, readout or latency. -/
def Status.inRun : Status → Bool
  | .exposure | .readout | .latency => true
  | _ => false

namespace Status

@[simp] theorem inRun_ready : Status.ready.inRun = false := rfl
@[simp] theorem inRun_fault : Status.fault.inRun = false := rfl
@[simp] theorem inRun_exposure : Status.exposure.inRun = true := rfl

/-- A plain change to a status other than fault gives a fault only when there was one. -/
theorem set_eq_fault {c s : Status} (hs : s ≠ .fault) : c.set s = .fault ↔ c = .fault := by
  unfold set
  split_ifs with hc <;> simp_all

/-- A plain change to ready leaves no status of a run. -/
@[simp] theorem inRun_set_ready (c : Status) : (c.set .ready).inRun = false := by
  unfold set
  split_ifs <;> rfl

/-- `c'` is `c` after no change or a plain change to a status other than fault. -/
def Plain (c c' : Status) : Prop := c' = c ∨ ∃ st, st ≠ .fault ∧ c' = c.set st

theorem Plain.refl (c : Status) : Plain c c := .inl rfl

theorem Plain.set {c st : Status} (h : st ≠ .fault) : Plain c (c.set st) := .inr ⟨st, h, rfl⟩

/-- A plain change neither enters nor leaves a fault. -/
theorem Plain.fault_iff {c c' : Status} (h : Plain c c') : c' = .fault ↔ c = .fault := by
  rcases h with rfl | ⟨st, hst, rfl⟩
  · rfl
  · exact set_eq_fault hst

end Status

/-- How the status stands to the run flags. -/
structure StatusKept (c : Controller) : Prop where
  in_run : c.status.inRun = true → c.runRequested = true ∨ c.running = true
  fault_idle : c.status = .fault → c.isActive = false

namespace StatusKept

variable {c : Controller}

/-- A status out of runs and faults stands to any flags. -/
theorem of_calm (hr : c.status.inRun = false) (hf : c.status ≠ .fault) : StatusKept c :=
  ⟨fun h => absurd h (by simp [hr]), fun h => absurd h hf⟩

/-- An idle controller stands to any status out of runs. -/
theorem of_idle (ha : c.isActive = false) (hr : c.status.inRun = false) : StatusKept c :=
  ⟨fun h => absurd h (by simp [hr]), fun _ => ha⟩

/-- An active controller is not in fault. -/
theorem not_fault (h : StatusKept c) (ha : c.isActive = true) : c.status ≠ .fault :=
  fun hf => by simp [h.fault_idle hf] at ha

/-- An arming start finds neither a fault nor a status of a run. -/
theorem of_arming (h : StatusKept c) (hs : c.runs.Sound) (ha : c.arming = true) :
    c.status.inRun = false ∧ c.status ≠ .fault := by
  obtain ⟨hr, hrun⟩ := hs.arming_idle ha
  refine ⟨?_, h.not_fault (by simp [Controller.isActive, ha])⟩
  cases hi : c.status.inRun
  · rfl
  · rcases h.in_run hi with e | e <;> simp_all

variable {p q : Plant}

/-- The first section of a stop that finds no start arming. -/
theorem stopUnlessIdle (h : StatusKept p.ctl) (a : AfterStop) :
    StatusKept ((Acquisition.stopUnlessIdle a).run' p).2.ctl := by
  rw [Acquisition.stopUnlessIdle_plant]
  split
  · next ha => exact of_idle ha (by simp)
  · exact ⟨h.1, h.2⟩

variable {e : Bool} {s : Except CameraError Unit} {i : Nat} {x : Call} {r : Caller}

/-- Every step of a host call keeps the status standing to the flags. -/
theorem call (hb : Bookkept p) (h : StatusKept p.ctl) (hc : p.callers i = .busy x)
    (hs : Acquisition.Call.step e s x p = some (r, q)) : StatusKept q.ctl := by
  open Acquisition in
  -- the points of a start hold the arming flag, which finds neither a fault nor a run
  have calm : x.isArming = true → p.ctl.status.inRun = false ∧ p.ctl.status ≠ .fault :=
    fun hx => h.of_arming hb.sound (hb.armed.arming_iff.2 ⟨i, by simp [hc, hx]⟩)
  cases x with
  | prepare =>
    rcases Call.step_prepare hs with ⟨-, -, rfl⟩ | ⟨-, -, sim, cold, f, rfl, -⟩
    · exact h
    · exact ⟨h.1, h.2⟩
  | releaseBuffer =>
    rcases Call.step_releaseBuffer hs with ⟨-, -, rfl⟩ | ⟨-, -, rfl⟩
    · exact h
    · split
      · exact ⟨h.1, h.2⟩
      · exact h
  | setRoi attr =>
    rcases Call.step_setRoi hs with ⟨-, -, rfl⟩ | ⟨-, -, rfl⟩
    · exact h
    · split
      · exact ⟨h.1, h.2⟩
      · exact h
  | update f => obtain ⟨-, rfl⟩ := Call.step_update hs; exact ⟨h.1, h.2⟩
  | start =>
    rcases Call.step_start hs with ⟨-, ha, -, hf, -, rfl⟩ | ⟨-, rfl⟩
    · -- an idle controller has no status of a run
      have hr : p.ctl.status.inRun = false := by
        cases hi : p.ctl.status.inRun
        · rfl
        · rcases h.in_run hi with e | e <;> simp [Controller.isActive, e] at ha
      exact of_calm hr hf
    · exact h
  | armCapture params => obtain ⟨rfl, -⟩ := Call.step_armCapture hs; exact h
  | settling params => obtain ⟨-, rfl, -⟩ := Call.step_settling hs; exact h
  | armTimer params =>
    rcases Call.step_armTimer hs with ⟨-, rfl, -⟩ | ⟨-, -, rfl, -⟩ | ⟨-, -, -, rfl, -⟩ <;> exact h
  | handOver t =>
    rcases Call.step_handOver hs with ⟨-, -, rfl⟩ | ⟨-, rfl, -⟩
    · exact h
    · have hf := (calm rfl).2
      refine ⟨fun _ => .inl rfl, fun e => absurd ((Status.set_eq_fault (by decide)).1 e) hf⟩
  | awaitAck n => obtain ⟨rfl, -⟩ := Call.step_awaitAck hs; exact h
  | cancelling t st =>
    rcases Call.step_cancelling hs with ⟨-, rfl, -⟩ | ⟨-, -, rfl, -⟩ | ⟨-, rfl, -⟩ | ⟨-, -, rfl⟩
    · simpa using h
    · exact h
    · exact h
    · have hf := (calm rfl).2
      exact of_calm (by simp) fun e => absurd ((Status.set_eq_fault (by decide)).1 e) hf
  | failArming err =>
    obtain ⟨-, rfl⟩ := Call.step_failArming hs
    exact of_calm (calm rfl).1 (calm rfl).2
  | stop a =>
    rcases Call.step_stop hs with ⟨-, -, rfl⟩ | ⟨-, -, rfl⟩
    · exact ⟨h.1, h.2⟩
    · exact h.stopUnlessIdle a
  | stopAwaitArming a =>
    obtain ⟨-, -, rfl⟩ := Call.step_stopAwaitArming hs
    exact h.stopUnlessIdle a
  | stopAbort a n => obtain ⟨rfl, -⟩ := Call.step_stopAbort hs; exact h
  | stopPause a n =>
    obtain ⟨-, -, rfl⟩ := Call.step_stopPause hs
    rw [stopLoop_plant]
    exact h
  | resetForce => obtain ⟨-, rfl⟩ := Call.step_resetForce hs; exact of_calm rfl (by simp)
  | dropQuit => obtain ⟨-, rfl⟩ := Call.step_dropQuit hs; exact ⟨h.1, h.2⟩
  | dropJoin => obtain ⟨-, -, rfl⟩ := Call.step_dropJoin hs; exact h
  | dropRelease => obtain ⟨-, rfl⟩ := Call.step_dropRelease hs; exact ⟨h.1, h.2⟩
  | programRoi attr => obtain ⟨-, rfl⟩ := Call.step_programRoi hs; exact h

/-- Every step of the worker keeps the status standing to the flags. -/
theorem worker (hb : Bookkept p) (h : StatusKept p.ctl) {pat : Bool}
    (hs : Worker.step pat p = some q) : StatusKept q.ctl := by
  cases hw : p.worker with
  | idle =>
    rcases Worker.step_idle hw hs with ⟨hr, rfl⟩ | ⟨-, -, rfl⟩
    · -- a requested run is no fault's
      refine ⟨fun _ => .inr rfl, fun e => ?_⟩
      have := h.fault_idle (by simpa using e)
      simp [Controller.isActive, hr] at this
    · exact ⟨h.1, h.2⟩
  | acquiring run f n spot =>
    have hst := Worker.step_acquiring hw hs
    obtain ⟨hc, -, -, -⟩ := Worker.acquireStep_frame hst
    have hrun : p.ctl.running = true := by simpa [hw, Worker.run?] using hb.working.running_eq
    -- within a run the worker never writes a fault, and a running controller has none
    refine ⟨fun _ => .inr (by rw [hc]; exact hrun), fun e => ?_⟩
    have hpf : p.ctl.status = .fault := by
      rcases Worker.acquireStep_status hst with e' | ⟨st, hst', e'⟩ <;> rw [e'] at e
      · exact e
      · exact (Status.set_eq_fault hst').1 e
    have := h.fault_idle hpf
    simp [Controller.isActive, hrun] at this
  | ending run o rel st =>
    rcases Worker.endStep_eq (Worker.step_ending hw hs) with
      ⟨-, rfl⟩ | ⟨-, -, rfl⟩ | ⟨-, rfl⟩ | ⟨-, rfl⟩
    · simpa using h
    · exact h
    · exact h
    · -- the record of the end leaves the controller idle
      have hrun : p.ctl.running = true := by simpa [hw, Worker.run?] using hb.working.running_eq
      have ha : p.ctl.arming = false := by
        cases ha : p.ctl.arming
        · rfl
        · simpa [hrun] using (hb.sound.arming_idle ha).2
      refine of_idle (by simp [Controller.isActive, ha]) ?_
      simp only [recordEnd_ctl]
      split_ifs <;> simp
  | exited => simp [Worker.step_exited hw] at hs

/-- Every step keeps the status standing to the flags. -/
theorem step (hb : Bookkept p) (h : StatusKept p.ctl) {env : Bool} {a : Actor}
    (hs : Transition env p a q) : StatusKept q.ctl := by
  cases hs with
  | request i rq hm => exact h
  | call i e s hc hst =>
    have hq := h.call hb hc hst
    exact hq
  | worker hst => exact h.worker hb hst
  | timer i hst => rw [(Timer.step_frame hst).1]; exact h
  | outside sim host _ => exact h

end StatusKept

/-- In every plant reachable from a controller just made, the status stands to the flags. -/
theorem statusKept_of_reachable {env : Bool} {params : AcqParams} {timings : Timings}
    {deviceIndex : Nat} {sim : Sdk.Simulator} {host : Host} {p : Plant}
    (h : Reachable env (Plant.initial params timings deviceIndex sim host) p) :
    StatusKept p.ctl := by
  induction h with
  | init => exact StatusKept.of_calm rfl (by simp [Plant.initial, Controller.make])
  | step hp hs ih => exact ih.step (bookkept_of_reachable hp) hs

namespace Acquisition

variable {p q : Plant} {e : Bool} {s : Except CameraError Unit} {x : Call} {r : Caller}

/-- A host call changes the status plainly, except for the forced ready of a reset. -/
theorem Call.step_status (hs : Call.step e s x p = some (r, q)) :
    Status.Plain p.ctl.status q.ctl.status ∨ (x = .resetForce ∧ q.ctl.status = .ready) := by
  have same : ∀ q : Plant, q.ctl.status = p.ctl.status →
      Status.Plain p.ctl.status q.ctl.status ∨ (x = .resetForce ∧ q.ctl.status = .ready) :=
    fun q e => .inl (.inl e)
  -- the first section of a stop makes a plain change to ready or none
  have stopping : ∀ a, Status.Plain p.ctl.status ((stopUnlessIdle a).run' p).2.ctl.status := by
    intro a
    rw [stopUnlessIdle_plant]
    split
    · exact Status.Plain.set (by decide)
    · exact Status.Plain.refl _
  cases x with
  | prepare =>
    rcases Call.step_prepare hs with ⟨-, -, rfl⟩ | ⟨-, -, sim, cold, f, rfl, -⟩ <;> exact same _ rfl
  | releaseBuffer =>
    rcases Call.step_releaseBuffer hs with ⟨-, -, rfl⟩ | ⟨-, -, rfl⟩
    · exact same _ rfl
    · split <;> exact same _ rfl
  | setRoi attr =>
    rcases Call.step_setRoi hs with ⟨-, -, rfl⟩ | ⟨-, -, rfl⟩
    · exact same _ rfl
    · split <;> exact same _ rfl
  | update f => obtain ⟨-, rfl⟩ := Call.step_update hs; exact same _ rfl
  | start => rcases Call.step_start hs with ⟨-, -, -, -, -, rfl⟩ | ⟨-, rfl⟩ <;> exact same _ rfl
  | armCapture params => obtain ⟨rfl, -⟩ := Call.step_armCapture hs; exact same _ rfl
  | settling params => obtain ⟨-, rfl, -⟩ := Call.step_settling hs; exact same _ rfl
  | armTimer params =>
    rcases Call.step_armTimer hs with ⟨-, rfl, -⟩ | ⟨-, -, rfl, -⟩ | ⟨-, -, -, rfl, -⟩ <;>
      exact same _ rfl
  | handOver t =>
    rcases Call.step_handOver hs with ⟨-, -, rfl⟩ | ⟨-, rfl, -⟩
    · exact same _ rfl
    · exact .inl (Status.Plain.set (by decide))
  | awaitAck n => obtain ⟨rfl, -⟩ := Call.step_awaitAck hs; exact same _ rfl
  | cancelling t st =>
    rcases Call.step_cancelling hs with ⟨-, rfl, -⟩ | ⟨-, -, rfl, -⟩ | ⟨-, rfl, -⟩ | ⟨-, -, rfl⟩
    · exact same _ (by simp)
    · exact same _ rfl
    · exact same _ rfl
    · exact .inl (Status.Plain.set (by decide))
  | failArming err => obtain ⟨-, rfl⟩ := Call.step_failArming hs; exact same _ rfl
  | stop a =>
    rcases Call.step_stop hs with ⟨-, -, rfl⟩ | ⟨-, -, rfl⟩
    · exact same _ rfl
    · exact .inl (stopping a)
  | stopAwaitArming a =>
    obtain ⟨-, -, rfl⟩ := Call.step_stopAwaitArming hs
    exact .inl (stopping a)
  | stopAbort a n => obtain ⟨rfl, -⟩ := Call.step_stopAbort hs; exact same _ rfl
  | stopPause a n =>
    obtain ⟨-, -, rfl⟩ := Call.step_stopPause hs
    exact same _ (by rw [stopLoop_plant])
  | resetForce => obtain ⟨-, rfl⟩ := Call.step_resetForce hs; exact .inr ⟨rfl, rfl⟩
  | dropQuit => obtain ⟨-, rfl⟩ := Call.step_dropQuit hs; exact same _ rfl
  | dropJoin => obtain ⟨-, -, rfl⟩ := Call.step_dropJoin hs; exact same _ rfl
  | dropRelease => obtain ⟨-, rfl⟩ := Call.step_dropRelease hs; exact same _ rfl
  | programRoi attr => obtain ⟨-, rfl⟩ := Call.step_programRoi hs; exact same _ rfl

end Acquisition

namespace Worker

variable {p q : Plant} {pat : Bool}

/-- The worker changes the status plainly, except when it records the end of a run that
failed, which forces a fault. -/
theorem step_status (hs : Worker.step pat p = some q) :
    Status.Plain p.ctl.status q.ctl.status ∨
      ((∃ run rel, p.worker = .ending run .fault rel .record) ∧ q.ctl.status = .fault) := by
  cases hw : p.worker with
  | idle => rcases step_idle hw hs with ⟨-, rfl⟩ | ⟨-, -, rfl⟩ <;> exact .inl (.refl _)
  | acquiring run f n spot => exact .inl (acquireStep_status (step_acquiring hw hs))
  | ending run o rel st =>
    rcases endStep_eq (step_ending hw hs) with ⟨-, rfl⟩ | ⟨-, -, rfl⟩ | ⟨-, rfl⟩ | ⟨rfl, rfl⟩
    · exact .inl (.inl (by simp))
    · exact .inl (.refl _)
    · exact .inl (.refl _)
    · by_cases ho : o = .fault
      · subst ho
        exact .inr ⟨⟨run, rel, rfl⟩, by simp⟩
      · exact .inl (.inr ⟨.ready, by decide, by simp [ho]⟩)
  | exited => simp [step_exited hw] at hs

end Worker

namespace Transition

variable {env : Bool} {p q : Plant} {a : Actor}

/-- What one step can do to the status: a plain change; the worker's record of a run that
failed, which forces a fault; or the forced ready of a reset. -/
theorem status_cases (hs : Transition env p a q) :
    Status.Plain p.ctl.status q.ctl.status ∨
    (a = .worker ∧ (∃ run rel, p.worker = .ending run .fault rel .record) ∧
      q.ctl.status = .fault) ∨
    (∃ i, a = .caller i ∧ p.callers i = .busy .resetForce ∧ q.ctl.status = .ready) := by
  cases hs with
  | request i rq hm => exact .inl (.refl _)
  | call i e s hc hst =>
    rcases Acquisition.Call.step_status hst with h | ⟨rfl, h⟩
    · exact .inl h
    · exact .inr (.inr ⟨i, rfl, hc, h⟩)
  | worker hst =>
    rcases Worker.step_status hst with h | h
    · exact .inl h
    · exact .inr (.inl ⟨rfl, h⟩)
  | timer i hst => exact .inl (.inl (by rw [(Timer.step_frame hst).1]))
  | outside sim host _ => exact .inl (.refl _)

/-- A run is torn down in fault only from a frame wait of the worker that failed, not by an
abort, for the limit-th time in a row; a teardown under way goes on as it began. -/
theorem fault_teardown (hb : Bookkept p) (hs : Transition env p a q) {run : Run} {rel : Bool}
    {st : Teardown} (hq : q.worker = .ending run .fault rel st) :
    (∃ st', p.worker = .ending run .fault rel st') ∨
    (a = .worker ∧ ∃ f n spot k pr err, p.worker = .acquiring run f n spot ∧
      spot.waitMove true f p.sim = some (k, pr) ∧ pr.1 = .returned (.failed err) ∧
      err.isAbort = false ∧ 0 < p.ctl.timings.maxConsecutiveWaitFailures ∧
      p.ctl.timings.maxConsecutiveWaitFailures ≤ n + 1) := by
  cases hs with
  | request i r hm => exact .inl ⟨st, hq⟩
  | call i e s hc hst =>
    rw [Plant.setCaller_worker, (Acquisition.Call.step_frame hst).1] at hq
    exact .inl ⟨st, hq⟩
  | worker hst =>
    cases hw : p.worker with
    | idle =>
      rcases Worker.step_idle hw hst with ⟨hr, rfl⟩ | ⟨-, -, rfl⟩
      · -- the books hold a prepared frame for every run the worker picks up
        obtain ⟨f, hf⟩ := hb.pickUp_acquiring hw hr
        rw [hf] at hq
        cases hq
      · cases hq
    | acquiring run' f n spot =>
      obtain ⟨k, pr, err, hm, he, ha, h0, hl, hq'⟩ :=
        Worker.acquireStep_fault (Worker.step_acquiring hw hst) hq
      rw [hq'] at hq
      cases hq
      exact .inr ⟨rfl, f, n, spot, k, pr, err, rfl, hm, he, ha, h0, hl⟩
    | ending run' o rel' st' =>
      obtain ⟨rfl, rfl, rfl⟩ := Worker.endStep_ending (Worker.step_ending hw hst) hq
      exact .inl ⟨st', rfl⟩
    | exited => simp [Worker.step_exited hw] at hst
  | timer i hst =>
    rw [(Timer.step_frame hst).2.1] at hq
    exact .inl ⟨st, hq⟩
  | outside sim host _ => exact .inl ⟨st, hq⟩

end Transition

/-- A start on a controller in fault is refused and changes nothing: the worker's end, a frame
not prepared and the fault itself are checked in this order. -/
theorem Acquisition.Call.step_start_fault {p q : Plant} {e : Bool} {s : Except CameraError Unit}
    {r : Caller} (hk : StatusKept p.ctl) (hf : p.ctl.status = .fault)
    (hs : Acquisition.Call.step e s .start p = some (r, q)) :
    q = p ∧ r = .returned (.error (if p.ctl.workerExited then workerGone
      else if p.ctl.frame.isNone then .notPrepared
      else .busy "in fault state, reset required")) := by
  rcases Acquisition.Call.step_start hs with ⟨-, -, -, hnf, -, -⟩ | ⟨hr, rfl⟩
  · exact absurd hf hnf
  · -- a fault stands only on an idle controller, so the start is not refused as running
    refine ⟨rfl, ?_⟩
    rw [hr]
    simp [hk.fault_idle hf]

/-! ## A reset that nothing overlaps -/

/-- Whether a step overlaps a call of host thread `i`: a step of another host thread, or a step
of `i` once its call is over. -/
def Overlapping (i : Nat) (p : Plant) (a : Actor) (_q : Plant) : Bool :=
  match a with
  | .caller j => j != i || !(p.callers i).isBusy
  | _ => false

/-- Where a reset that nothing overlaps may stand, and what holds of the controller there. -/
def ResetPhase (c : Controller) : Caller → Prop
  | .busy (.stop .reset) | .busy (.stopAwaitArming .reset) => True
  | .busy (.stopAbort .reset n) | .busy (.stopPause .reset n) =>
    c.session = n ∧ c.arming = false
  | .busy .resetForce => c.isActive = false
  | .returned r => r = .ok () ∧ c.isActive = false ∧ c.status = .ready
  | _ => False

namespace ResetPhase

variable {c : Controller}

theorem busy_cases {x : Call} (h : ResetPhase c (.busy x)) :
    x = .stop .reset ∨ x = .stopAwaitArming .reset ∨
    (∃ n, (x = .stopAbort .reset n ∨ x = .stopPause .reset n) ∧
      c.session = n ∧ c.arming = false) ∨
    (x = .resetForce ∧ c.isActive = false) := by
  unfold ResetPhase at h
  split at h <;> simp_all

end ResetPhase

/-- A torn-down run with no start arming leaves the controller idle. -/
theorem Bookkept.idle_of_torn_down {p : Plant} (hb : Bookkept p) (ha : p.ctl.arming = false)
    (hn : p.ctl.session ≤ p.ctl.completedSession) : p.ctl.isActive = false := by
  have s := hb.sound
  have he : p.ctl.runs.session = p.ctl.runs.completedSession :=
    Nat.le_antisymm hn (Nat.le_trans s.1 s.2)
  have hr : p.ctl.runRequested = false := (s.session_eq_iff.1 he).1
  have hrun : p.ctl.running = false := (s.session_eq_iff.1 he).2
  simp [Controller.isActive, ha, hr, hrun]

/-- What holds along a reset of host thread `i` that nothing overlaps. -/
structure ResetKept (i : Nat) (p : Plant) : Prop where
  books : Bookkept p
  quit : p.ctl.quit = false
  phase : ResetPhase p.ctl (p.callers i)

namespace ResetKept

open Acquisition

variable {i : Nat} {p q : Plant} {e : Bool} {s : Except CameraError Unit} {x : Call}
  {r : Caller}

/-- The first section of a reset that finds no start arming: an idle controller goes to the
forced ready at once, an active one has its run stopped. -/
theorem stopUnlessIdle (h : ResetKept i p) (ha : p.ctl.arming = false) :
    ((stopUnlessIdle .reset).run' p).2.ctl.quit = false ∧
      ResetPhase ((stopUnlessIdle .reset).run' p).2.ctl
        (Caller.after ((stopUnlessIdle .reset).run' p).1) := by
  rw [stopUnlessIdle_run']
  split_ifs with hi
  · simp only [afterStop_plant, afterStop_result]
    exact ⟨h.quit, hi⟩
  · rw [stopLoop_run']
    split_ifs with hn hx
    · -- an active controller has a run that is not torn down
      exact absurd (h.books.idle_of_torn_down ha hn) hi
    · exact absurd hx (by simp [h.books.workerExited_false h.quit])
    · exact ⟨h.quit, rfl, ha⟩

/-- A reset under way is no part of a drop, so the controller is not ending. -/
theorem start (hb : Bookkept p) (hc : p.callers i = .busy (.stop .reset)) : ResetKept i p := by
  refine ⟨hb, ?_, by rw [hc]; trivial⟩
  cases hq : p.ctl.quit
  · rfl
  · have := hb.dropping.quit_drop hq i (by simp [hc])
    simp [hc, Call.isDrop] at this

/-- A step of the reset itself keeps to its phases. -/
theorem call (h : ResetKept i p) (hc : p.callers i = .busy x)
    (hs : Call.step e s x p = some (r, q)) : q.ctl.quit = false ∧ ResetPhase q.ctl r := by
  have hp := h.phase
  rw [hc] at hp
  rcases ResetPhase.busy_cases hp with rfl | rfl | ⟨n, rfl | rfl, hn, ha⟩ | ⟨rfl, ha⟩
  · rcases Call.step_stop hs with ⟨-, rfl, rfl⟩ | ⟨ha, rfl, rfl⟩
    · exact ⟨h.quit, trivial⟩
    · exact h.stopUnlessIdle ha
  · obtain ⟨ha, rfl, rfl⟩ := Call.step_stopAwaitArming hs
    exact h.stopUnlessIdle ha
  · obtain ⟨rfl, ⟨hle, rfl⟩ | ⟨-, rfl⟩⟩ := Call.step_stopAbort hs
    · -- the run is torn down: on to the forced ready
      simp only [afterStop_result]
      exact ⟨h.quit, h.books.idle_of_torn_down ha (hn ▸ hle)⟩
    · exact ⟨h.quit, hn, ha⟩
  · obtain ⟨-, rfl, rfl⟩ := Call.step_stopPause hs
    rw [stopLoop_plant, stopLoop_run']
    split_ifs with hle hx
    · simp only [afterStop_result]
      exact ⟨h.quit, h.books.idle_of_torn_down ha (hn ▸ hle)⟩
    · exact absurd hx (by simp [h.books.workerExited_false h.quit])
    · exact ⟨h.quit, hn, ha⟩
  · obtain ⟨rfl, rfl⟩ := Call.step_resetForce hs
    exact ⟨h.quit, rfl, ha, rfl⟩

/-- The worker keeps the reset's phase: it moves only while a run is to be torn down. -/
theorem worker (h : ResetKept i p) {pat : Bool} (hs : Worker.step pat p = some q) :
    ResetKept i q := by
  obtain ⟨hse, har, hqu, -⟩ := Worker.step_keeps hs
  refine ⟨h.books.worker hs, hqu ▸ h.quit, ?_⟩
  rw [Worker.step_callers hs]
  -- on an idle controller not ending the worker waits
  have moving : p.ctl.isActive = true := by
    cases ha : p.ctl.isActive
    · obtain ⟨-, hr, hrun⟩ := Bookkept.active_false ha
      rw [h.books.worker_waits hr hrun h.quit] at hs
      cases hs
    · rfl
  have hp := h.phase
  cases hc : p.callers i with
  | idle => rw [hc] at hp; exact hp.elim
  | busy x =>
    rw [hc] at hp
    rcases ResetPhase.busy_cases hp with rfl | rfl | ⟨n, rfl | rfl, hn, ha⟩ | ⟨rfl, ha⟩
    · trivial
    · trivial
    · exact ⟨hse.trans hn, har.trans ha⟩
    · exact ⟨hse.trans hn, har.trans ha⟩
    · simp [ha] at moving
  | returned r =>
    rw [hc] at hp
    simp [hp.2.1] at moving

/-- Every step that does not overlap the reset keeps to its phases. -/
theorem step (h : ResetKept i p) {env : Bool} {a : Actor} (hs : Transition env p a q)
    (hov : Overlapping i p a q = false) : ResetKept i q := by
  cases hs with
  | request j rq hm =>
    simp only [Overlapping, Bool.or_eq_false_iff, bne_eq_false_iff_eq, Bool.not_eq_false'] at hov
    obtain ⟨rfl, hb⟩ := hov
    simp [hm.1] at hb
  | call j e s hc hst =>
    simp only [Overlapping, Bool.or_eq_false_iff, bne_eq_false_iff_eq] at hov
    obtain ⟨rfl, -⟩ := hov
    obtain ⟨hq, hp⟩ := h.call hc hst
    refine ⟨h.books.call hc hst, by simpa using hq, ?_⟩
    simpa using hp
  | worker hst => exact h.worker hst
  | timer j hst =>
    obtain ⟨hc, -, hcl, -⟩ := Timer.step_frame hst
    exact ⟨h.books.timer hst, hc ▸ h.quit, by rw [hc, hcl]; exact h.phase⟩
  | outside sim host _ => exact ⟨h.books, h.quit, h.phase⟩

end ResetKept

/-- A reset that no other host call overlaps returns with the controller idle and ready. -/
theorem reset_settles {env : Bool} {params : AcqParams} {timings : Timings} {deviceIndex : Nat}
    {sim : Sdk.Simulator} {host : Host} {p q : Plant} {i : Nat} {r : Except CameraError Unit}
    (h : Reachable env (Plant.initial params timings deviceIndex sim host) p)
    (hc : p.callers i = .busy (.stop .reset)) (hn : Counted env (Overlapping i) p 0 q)
    (hr : q.callers i = .returned r) :
    r = .ok () ∧ q.ctl.isActive = false ∧ q.ctl.status = .ready := by
  have hk : ResetKept i q :=
    Counted.invariant (fun _ _ _ hk hs hov => hk.step hs hov)
      (ResetKept.start (bookkept_of_reachable h) hc) hn
  have hp := hk.phase
  rw [hr] at hp
  exact hp

/-- The session status follows the runs: statuses of a run only within one and a fault only on
an idle controller; a fault is entered only by the worker's record of a run torn down in fault,
and such a teardown begins only at the limit-th frame wait in a row that failed; a fault stays
until the forced ready of a reset; a start in fault is refused and changes nothing, naming the
first of the worker's end, a frame not prepared and the fault; and a reset that no other host
call overlaps returns with the controller idle and ready. -/
theorem status_follows_runs {env : Bool} {params : AcqParams} {timings : Timings}
    {deviceIndex : Nat} {sim : Sdk.Simulator} {host : Host} {p : Plant}
    (h : Reachable env (Plant.initial params timings deviceIndex sim host) p) :
    (p.ctl.status.inRun = true → p.ctl.runRequested = true ∨ p.ctl.running = true) ∧
    (p.ctl.status = .fault → p.ctl.isActive = false) ∧
    (∀ a q, Transition env p a q →
      (p.ctl.status ≠ .fault → q.ctl.status = .fault →
        a = .worker ∧ ∃ run rel, p.worker = .ending run .fault rel .record) ∧
      (∀ run rel st, q.worker = .ending run .fault rel st →
        (∃ st', p.worker = .ending run .fault rel st') ∨
        (a = .worker ∧ ∃ f n spot k pr err, p.worker = .acquiring run f n spot ∧
          spot.waitMove true f p.sim = some (k, pr) ∧ pr.1 = .returned (.failed err) ∧
          err.isAbort = false ∧ 0 < p.ctl.timings.maxConsecutiveWaitFailures ∧
          p.ctl.timings.maxConsecutiveWaitFailures ≤ n + 1)) ∧
      (p.ctl.status = .fault → q.ctl.status = .fault ∨
        ∃ i, a = .caller i ∧ p.callers i = .busy .resetForce ∧ q.ctl.status = .ready)) ∧
    (p.ctl.status = .fault → ∀ e s r q, Acquisition.Call.step e s .start p = some (r, q) →
      q = p ∧ r = .returned (.error (if p.ctl.workerExited then Acquisition.workerGone
        else if p.ctl.frame.isNone then .notPrepared
        else .busy "in fault state, reset required"))) ∧
    (∀ i r q, p.callers i = .busy (.stop .reset) → Counted env (Overlapping i) p 0 q →
      q.callers i = .returned r → r = .ok () ∧ q.ctl.isActive = false ∧ q.ctl.status = .ready) := by
  have hb := bookkept_of_reachable h
  have hk := statusKept_of_reachable h
  refine ⟨hk.in_run, hk.fault_idle, fun a q hs => ⟨?_, fun _ _ _ hq => hs.fault_teardown hb hq, ?_⟩,
    fun hf _ _ _ _ hst => Acquisition.Call.step_start_fault hk hf hst,
    fun _ _ _ hc hn hr => reset_settles h hc hn hr⟩
  · -- a plain change keeps out of a fault, and a reset forces ready
    intro hnf hqf
    rcases hs.status_cases with hpl | ⟨ha, hw, -⟩ | ⟨i, -, -, hready⟩
    · exact absurd (hpl.fault_iff.1 hqf) hnf
    · exact ⟨ha, hw⟩
    · rw [hready] at hqf
      cases hqf
  · -- a plain change keeps a fault, and so does the worker's record of a fault
    intro hf
    rcases hs.status_cases with hpl | ⟨-, -, hqf⟩ | ⟨i, ha, hc, hready⟩
    · exact .inl (hpl.fault_iff.2 hf)
    · exact .inl hqf
    · exact .inr ⟨i, ha, hc, hready⟩

/-- A controller just made on a camera whose first frame wait fails, with a limit of one
failed wait, no arm settle and an external trigger. -/
def failingFirstWait : Plant :=
  Plant.initial { AcqParams.default with trigMode := .extTrigMult }
    { Timings.default with armSettleMs := 0, maxConsecutiveWaitFailures := 1 } 0
    { Sdk.Simulator.make Sdk.SimConfig.default with
      initialized := true, opened := true, failNextWaits := 1 } default

/-- The schedule of a run on that camera torn down in fault: a run begun, the worker's first
frame wait, which fails and so reaches the limit, and the four steps of the teardown. -/
def Move.faultedRun : List Move := Move.beginRun ++ List.replicate 6 .worker

/-- The status after a run torn down in fault, with a reset asked for: one host thread prepares
and starts a run on that camera, whose first frame wait fails, and then asks for a reset. -/
theorem status_follows_runs_in_fault :
    ∃ p, Reachable false failingFirstWait p ∧ p.ctl.status = .fault ∧
    p.callers 0 = .busy (.stop .reset) ∧
    (p.ctl.status.inRun = true → p.ctl.runRequested = true ∨ p.ctl.running = true) ∧
    (p.ctl.status = .fault → p.ctl.isActive = false) ∧
    (∀ a q, Transition false p a q →
      (p.ctl.status ≠ .fault → q.ctl.status = .fault →
        a = .worker ∧ ∃ run rel, p.worker = .ending run .fault rel .record) ∧
      (∀ run rel st, q.worker = .ending run .fault rel st →
        (∃ st', p.worker = .ending run .fault rel st') ∨
        (a = .worker ∧ ∃ f n spot k pr err, p.worker = .acquiring run f n spot ∧
          spot.waitMove true f p.sim = some (k, pr) ∧ pr.1 = .returned (.failed err) ∧
          err.isAbort = false ∧ 0 < p.ctl.timings.maxConsecutiveWaitFailures ∧
          p.ctl.timings.maxConsecutiveWaitFailures ≤ n + 1)) ∧
      (p.ctl.status = .fault → q.ctl.status = .fault ∨
        ∃ i, a = .caller i ∧ p.callers i = .busy .resetForce ∧ q.ctl.status = .ready)) ∧
    (p.ctl.status = .fault → ∀ e s r q, Acquisition.Call.step e s .start p = some (r, q) →
      q = p ∧ r = .returned (.error (if p.ctl.workerExited then Acquisition.workerGone
        else if p.ctl.frame.isNone then .notPrepared
        else .busy "in fault state, reset required"))) ∧
    (∀ i r q, p.callers i = .busy (.stop .reset) → Counted false (Overlapping i) p 0 q →
      q.callers i = .returned r → r = .ok () ∧ q.ctl.isActive = false ∧
        q.ctl.status = .ready) := by
  have h : Reachable false _ _ := Reachable.of_runAlone
    (rfl : failingFirstWait.runAlone (fun _ _ _ => false) (Move.faultedRun ++ [.request .reset]) =
      some (0, _))
  exact ⟨_, h, by decide +kernel, rfl, status_follows_runs h⟩

/-- Right after a run torn down in fault, a start is refused as not prepared rather than as
busy: the frame went with the run. One host thread prepares and starts a run whose first frame
wait fails, and starts again. -/
theorem start_in_fault_unprepared :
    ∃ p, Reachable false failingFirstWait p ∧ p.ctl.status = .fault ∧ p.callers 0 = .busy .start ∧
      Acquisition.Call.step false (.ok ()) .start p = some (.returned (.error .notPrepared), p) := by
  have h : Reachable false _ _ := Reachable.of_runAlone
    (rfl : failingFirstWait.runAlone (fun _ _ _ => false) (Move.faultedRun ++ [.request .start]) =
      some (0, _))
  exact ⟨_, h, by decide +kernel, rfl, rfl⟩

end CameraAcquisition
