import CameraAcquisition.Proofs.Acquisition.Balance

/-!
# What a step changes of the run numbers

A stop and a start read a few things of the controller: the run numbers, whether a run is
requested or running, the frame count, the prepared frame, whether a stop was asked for and
whether the status is ready. `Controller.Calm` says that a step leaves them as they were,
keeps a stop request made and keeps a ready status ready.

Most steps of a host call are calm (`Call.step_calm`). The others are a call on an idle
controller (a prepare, a release of the frame, a start), the release of the drop, the
hand-over of a run, and the give-up of a start that a stop cancelled; so while a run runs no
host call sets the frame count (`Call.step_running`). A step of an arming
start stays in the start calmly, or hands its run over when no stop was asked for, or
returns: on a failure or on giving up (`Call.step_arming`).

The worker changes the run numbers and the requests only when it records the end of a run
(`Worker.step_runs`), and it comes into a wait for a frame of a run only from the top of that
run's frame loop with no stop asked for (`Worker.step_waitsIn`). So the run numbers never go
back (`Transition.sessions_mono`).

## What this module delivers

- `Controller.Calm`, `Call.step_calm`, `Call.step_arming`, `Call.step_running`.
- `Worker.waitsIn` with `Worker.waitsIn_eq_true` and `Worker.waitsIn_run`, `Worker.step_runs`,
  `Worker.step_waitsIn`, `Worker.step_wait_goes_on`.
- `Transition.sessions_mono`.
-/

set_option autoImplicit false

namespace CameraAcquisition

/-! ## Calm steps -/

/-- `c'` leaves what stops and starts read of `c` as it was: the run numbers, the run flags,
the frame count and the prepared frame; a stop request made and a ready status stay. -/
structure Controller.Calm (c c' : Controller) : Prop where
  session : c'.session = c.session
  runRequested : c'.runRequested = c.runRequested
  running : c'.running = c.running
  completedSession : c'.completedSession = c.completedSession
  frameCount : c'.frameCount = c.frameCount
  frame : c'.frame = c.frame
  stopRequested : c.stopRequested = true → c'.stopRequested = true
  ready : c.status = .ready → c'.status = .ready

namespace Controller.Calm

variable {c c' : Controller}

theorem of_eq (h : c' = c) : Calm c c' := by
  subst h
  exact ⟨rfl, rfl, rfl, rfl, rfl, rfl, id, id⟩

/-- A stop asked for. -/
theorem stop (c : Controller) : Calm c { c with stopRequested := true } :=
  ⟨rfl, rfl, rfl, rfl, rfl, rfl, fun _ => rfl, id⟩

/-- A plain change to ready. -/
theorem setReady (c : Controller) : Calm c { c with status := c.status.set .ready } := by
  refine ⟨rfl, rfl, rfl, rfl, rfl, rfl, id, fun h => ?_⟩
  simp [h, Status.set]

end Controller.Calm

namespace Acquisition

open Controller

variable {e : Bool} {s : Except CameraError Unit} {p q : Plant} {r : Caller}

/-- The first section of a stop is calm: it asks for a stop, or finds nothing to stop and
makes a plain change to ready. -/
theorem stopUnlessIdle_calm (a : AfterStop) : Calm p.ctl ((stopUnlessIdle a).run' p).2.ctl := by
  rw [stopUnlessIdle_plant]
  split
  · exact Calm.setReady p.ctl
  · exact Calm.stop p.ctl

/-- A step of a host call is calm, or it is a call on an idle controller, the release of the
drop, the hand-over of a run with no stop asked for, or the give-up of a cancelled start. -/
theorem Call.step_calm {c : Call} (h : Call.step e s c p = some (r, q)) :
    Calm p.ctl q.ctl ∨
    (p.ctl.isActive = false ∧ q.ctl.session = p.ctl.session ∧
      q.ctl.runRequested = p.ctl.runRequested ∧
      q.ctl.completedSession = p.ctl.completedSession) ∨
    (c = .dropRelease ∧ q.ctl = { p.ctl with frame := none }) ∨
    (∃ t, c = .handOver t ∧ p.ctl.stopRequested = false ∧
      q.ctl.session = p.ctl.session + 1 ∧ q.ctl.completedSession = p.ctl.completedSession) ∨
    (∃ t, c = .cancelling t .record ∧
      q.ctl = { p.ctl with stopRequested := false, status := p.ctl.status.set .ready,
                           arming := false }) := by
  cases c with
  | prepare =>
    rcases Call.step_prepare h with ⟨-, -, rfl⟩ | ⟨ha, -, sim, cold, f, rfl, -⟩
    · exact .inl (Calm.of_eq rfl)
    · exact .inr (.inl ⟨ha, rfl, rfl, rfl⟩)
  | releaseBuffer =>
    rcases Call.step_releaseBuffer h with ⟨-, -, rfl⟩ | ⟨ha, -, rfl⟩
    · exact .inl (Calm.of_eq rfl)
    · exact .inr (.inl ⟨ha, by split <;> rfl, by split <;> rfl, by split <;> rfl⟩)
  | setRoi attr =>
    rcases Call.step_setRoi h with ⟨-, -, rfl⟩ | ⟨ha, -, rfl⟩
    · exact .inl (Calm.of_eq rfl)
    · exact .inr (.inl ⟨ha, by split <;> rfl, by split <;> rfl, by split <;> rfl⟩)
  | start =>
    rcases Call.step_start h with ⟨-, ha, -, -, -, rfl⟩ | ⟨-, rfl⟩
    · exact .inr (.inl ⟨ha, rfl, rfl, rfl⟩)
    · exact .inl (Calm.of_eq rfl)
  | handOver t =>
    rcases Call.step_handOver h with ⟨-, -, rfl⟩ | ⟨hs, rfl, -⟩
    · exact .inl (Calm.of_eq rfl)
    · exact .inr (.inr (.inr (.inl ⟨t, rfl, hs, rfl, rfl⟩)))
  | cancelling t st =>
    rcases Call.step_cancelling h with ⟨-, rfl, -⟩ | ⟨-, -, rfl, -⟩ | ⟨-, rfl, -⟩ |
      ⟨rfl, -, rfl⟩
    · exact .inl (Calm.of_eq (by simp))
    · exact .inl (Calm.of_eq rfl)
    · exact .inl (Calm.of_eq rfl)
    · exact .inr (.inr (.inr (.inr ⟨t, rfl, rfl⟩)))
  | dropRelease =>
    obtain ⟨-, rfl⟩ := Call.step_dropRelease h
    exact .inr (.inr (.inl ⟨rfl, rfl⟩))
  | update f =>
    obtain ⟨-, rfl⟩ := Call.step_update h
    exact .inl ⟨rfl, rfl, rfl, rfl, rfl, rfl, id, id⟩
  | armCapture params => obtain ⟨rfl, -⟩ := Call.step_armCapture h; exact .inl (Calm.of_eq rfl)
  | settling params => obtain ⟨-, rfl, -⟩ := Call.step_settling h; exact .inl (Calm.of_eq rfl)
  | armTimer params =>
    rcases Call.step_armTimer h with ⟨-, rfl, -⟩ | ⟨-, -, rfl, -⟩ | ⟨-, -, -, rfl, -⟩ <;>
      exact .inl (Calm.of_eq rfl)
  | awaitAck n => obtain ⟨rfl, -⟩ := Call.step_awaitAck h; exact .inl (Calm.of_eq rfl)
  | failArming err =>
    obtain ⟨-, rfl⟩ := Call.step_failArming h
    exact .inl ⟨rfl, rfl, rfl, rfl, rfl, rfl, id, id⟩
  | stop a =>
    rcases Call.step_stop h with ⟨-, -, rfl⟩ | ⟨-, -, rfl⟩
    · exact .inl (Calm.stop p.ctl)
    · exact .inl (stopUnlessIdle_calm a)
  | stopAwaitArming a =>
    obtain ⟨-, -, rfl⟩ := Call.step_stopAwaitArming h
    exact .inl (stopUnlessIdle_calm a)
  | stopAbort a n => obtain ⟨rfl, -⟩ := Call.step_stopAbort h; exact .inl (Calm.of_eq rfl)
  | stopPause a n =>
    obtain ⟨-, -, rfl⟩ := Call.step_stopPause h
    exact .inl (Calm.of_eq (by rw [stopLoop_plant]))
  | resetForce =>
    obtain ⟨-, rfl⟩ := Call.step_resetForce h
    exact .inl ⟨rfl, rfl, rfl, rfl, rfl, rfl, id, fun _ => rfl⟩
  | dropQuit =>
    obtain ⟨-, rfl⟩ := Call.step_dropQuit h
    exact .inl ⟨rfl, rfl, rfl, rfl, rfl, rfl, fun _ => rfl, id⟩
  | dropJoin => obtain ⟨-, -, rfl⟩ := Call.step_dropJoin h; exact .inl (Calm.of_eq rfl)
  | programRoi attr => obtain ⟨-, rfl⟩ := Call.step_programRoi h; exact .inl (Calm.of_eq rfl)

/-- A step of an arming start stays in the start calmly, hands its run over when no stop
was asked for, or returns: on a failure, with the arming flag cleared, or on giving up a
cancelled run, with the stop request cleared and a plain change to ready. -/
theorem Call.step_arming {c : Call} (hc : c.isArming = true)
    (h : Call.step e s c p = some (r, q)) :
    (r.isArming = true ∧ Calm p.ctl q.ctl) ∨
    (∃ t, c = .handOver t ∧ p.ctl.stopRequested = false) ∨
    (∃ res, r = .returned res ∧
      (q.ctl = { p.ctl with arming := false } ∨
        q.ctl = { p.ctl with stopRequested := false, status := p.ctl.status.set .ready,
                             arming := false })) := by
  cases c with
  | armCapture params =>
    obtain ⟨rfl, ⟨u, -, rfl⟩ | ⟨err, -, rfl⟩⟩ := Call.step_armCapture h
    · exact .inl ⟨by split <;> rfl, Calm.of_eq rfl⟩
    · exact .inl ⟨rfl, Calm.of_eq rfl⟩
  | settling params =>
    obtain ⟨-, rfl, rfl⟩ := Call.step_settling h
    exact .inl ⟨by split <;> rfl, Calm.of_eq rfl⟩
  | armTimer params =>
    rcases Call.step_armTimer h with ⟨-, rfl, rfl⟩ | ⟨-, -, rfl, rfl⟩ | ⟨-, err, -, rfl, rfl⟩ <;>
      exact .inl ⟨rfl, Calm.of_eq rfl⟩
  | handOver t =>
    rcases Call.step_handOver h with ⟨-, rfl, rfl⟩ | ⟨hs, -, -⟩
    · exact .inl ⟨rfl, Calm.of_eq rfl⟩
    · exact .inr (.inl ⟨t, rfl, hs⟩)
  | cancelling t st =>
    rcases Call.step_cancelling h with ⟨-, rfl, rfl⟩ | ⟨-, -, rfl, rfl⟩ | ⟨-, rfl, rfl⟩ |
      ⟨-, rfl, rfl⟩
    · exact .inl ⟨rfl, Calm.of_eq (by simp)⟩
    · exact .inl ⟨rfl, Calm.of_eq rfl⟩
    · exact .inl ⟨rfl, Calm.of_eq rfl⟩
    · exact .inr (.inr ⟨_, rfl, .inr rfl⟩)
  | failArming err =>
    obtain ⟨rfl, rfl⟩ := Call.step_failArming h
    exact .inr (.inr ⟨_, rfl, .inl rfl⟩)
  | _ => simp [Call.isArming] at hc

/-- While a run runs no start arms, so no host call hands a run over, and none sets the frame
count. -/
theorem Call.step_running {i : Nat} {c : Call} (hb : Bookkept p) (hc : p.callers i = .busy c)
    (hrun : p.ctl.running = true) (h : Call.step e s c p = some (r, q)) :
    (∀ t, c ≠ .handOver t) ∧ q.ctl.frameCount = p.ctl.frameCount := by
  have hnh : ∀ t, c ≠ .handOver t := by
    rintro t rfl
    have ha : (p.callers i).isArming = true := by simp [hc, Call.isArming]
    simp [(hb.arming_caller ha).2.2] at hrun
  refine ⟨hnh, ?_⟩
  rcases Call.step_calm h with hcalm | ⟨ha, -⟩ | ⟨-, hq⟩ | ⟨t, rfl, -⟩ | ⟨t, -, hq⟩
  · exact hcalm.frameCount
  · simp [(Bookkept.active_false ha).2.2] at hrun
  · rw [hq]
  · exact absurd rfl (hnh t)
  · rw [hq]

end Acquisition

/-! ## The worker -/

/-- Whether the worker is in a wait for a frame of run number `s`: about to wait, or paused in
the wait. -/
def Worker.waitsIn (s : Nat) : Worker → Bool
  | .acquiring run _ _ spot => run.session == s && spot.awaited.isSome
  | _ => false

/-- A worker in a wait for a frame of run `s` is in the frame loop of that run, at a wait for
some frame. -/
theorem Worker.waitsIn_eq_true {w : Worker} {s : Nat} (h : w.waitsIn s = true) :
    ∃ run f n spot k, w = .acquiring run f n spot ∧ run.session = s ∧ spot.awaited = some k := by
  cases w with
  | acquiring run f n spot =>
    simp only [Worker.waitsIn, Bool.and_eq_true, beq_iff_eq] at h
    obtain ⟨k, hk⟩ := Option.isSome_iff_exists.1 h.2
    exact ⟨run, f, n, spot, k, rfl, h.1, hk⟩
  | _ => simp [Worker.waitsIn] at h

/-- A wait for a frame of run `s` is a wait of the worker in run `s`. -/
theorem Worker.waitsIn_run {w : Worker} {s : Nat} (h : w.waitsIn s = true) :
    ∃ run, w.run? = some run ∧ run.session = s := by
  unfold Worker.waitsIn at h
  split at h
  · next run _ _ _ =>
    simp only [Bool.and_eq_true, beq_iff_eq] at h
    exact ⟨run, rfl, h.1⟩
  · cases h

section AfterFrame

variable {run : Run} {f : Sdk.Frame} {k : Nat} {p : Plant} {s : Nat}

/-- After a frame the worker does not wait for the next one before passing the top of its
loop. -/
@[simp] theorem afterFrame_waitsIn {kg : Bool} :
    (afterFrame run f k kg p).worker.waitsIn s = false := by
  rw [afterFrame_eq]
  split_ifs <;> simp [Worker.waitsIn, Spot.awaited]

@[simp] theorem received_waitsIn : (received run f k p).worker.waitsIn s = false := by
  rw [received_eq]
  dsimp only
  split_ifs
  · simp [Worker.waitsIn, Spot.awaited]
  · exact afterFrame_waitsIn

end AfterFrame

namespace Worker

variable {p q : Plant} {pat : Bool}

/-- The worker changes the run numbers, the request of a run and the stop request only when
it records the end of a run. -/
theorem step_runs (h : Worker.step pat p = some q) :
    (q.ctl.session = p.ctl.session ∧ q.ctl.completedSession = p.ctl.completedSession ∧
      q.ctl.runRequested = p.ctl.runRequested ∧ q.ctl.stopRequested = p.ctl.stopRequested) ∨
    (∃ run o rel, p.worker = .ending run o rel .record ∧ q = recordEnd run o p) := by
  cases hw : p.worker with
  | idle => rcases step_idle hw h with ⟨-, rfl⟩ | ⟨-, -, rfl⟩ <;> exact .inl ⟨rfl, rfl, rfl, rfl⟩
  | acquiring run f n spot =>
    have hc := (acquireStep_frame (step_acquiring hw h)).1
    exact .inl ⟨by rw [hc], by rw [hc], by rw [hc], by rw [hc]⟩
  | ending run o rel st =>
    rcases endStep_eq (step_ending hw h) with ⟨-, rfl⟩ | ⟨-, -, rfl⟩ | ⟨-, rfl⟩ | ⟨rfl, rfl⟩
    · exact .inl (by simp)
    · exact .inl ⟨rfl, rfl, rfl, rfl⟩
    · exact .inl ⟨rfl, rfl, rfl, rfl⟩
    · exact .inr ⟨run, o, rel, rfl, rfl⟩
  | exited => simp [step_exited hw] at h

/-- The worker comes into a wait for a frame of run `s` only from the top of that run's frame
loop, with no stop asked for; a wait it is in may go on. -/
theorem step_waitsIn {s : Nat} (h : Worker.step pat p = some q) (hq : q.worker.waitsIn s = true) :
    p.worker.waitsIn s = true ∨ ∃ run f n, p.worker = .acquiring run f n .top ∧ run.session = s ∧
      p.ctl.stopRequested = false := by
  cases hw : p.worker with
  | idle =>
    rcases step_idle hw h with ⟨-, rfl⟩ | ⟨-, -, rfl⟩
    · -- a run picked up starts at the top of its loop
      rw [pickUp_worker] at hq
      split at hq <;> simp [waitsIn, Spot.awaited] at hq
    · simp [waitsIn] at hq
  | acquiring run f n spot =>
    have hst := step_acquiring hw h
    cases spot with
    | top =>
      rcases acquireStep_top hst with ⟨-, rfl⟩ | ⟨-, -, -, rfl⟩ | ⟨hs, -, rfl⟩
      · simp [waitsIn] at hq
      · simp [waitsIn] at hq
      · simp only [Plant.setWorker_worker, waitsIn, Spot.awaited, Option.isSome_some,
          Bool.and_true, beq_iff_eq] at hq
        exact .inr ⟨run, f, n, rfl, hq, hs⟩
    | waiting k | paused k _ =>
      -- a wait that goes on stays in its run
      obtain ⟨pr, -, hp⟩ := acquireStep_waits rfl hst
      rcases waitProgress_cases hp with ⟨g, -, rfl⟩ | ⟨err, -, -, rfl⟩ |
        ⟨err, -, -, -, -, rfl⟩ | ⟨err, -, -, -, rfl⟩ | ⟨pause, -, rfl⟩
      · simp at hq
      · simp [waitsIn, Spot.awaited] at hq
      · simp [waitsIn] at hq
      · simp [waitsIn, Spot.awaited] at hq
      · simp only [Plant.setWorker_worker, waitsIn, Spot.awaited, Option.isSome_some,
          Bool.and_true] at hq
        simp [waitsIn, Spot.awaited, hq]
    | latency =>
      rw [acquireStep_latency hst] at hq
      simp [waitsIn, Spot.awaited] at hq
    | holding k kg =>
      obtain ⟨-, rfl⟩ := acquireStep_holding hst
      simp at hq
  | ending run o rel st =>
    rcases endStep_eq (step_ending hw h) with ⟨-, rfl⟩ | ⟨-, -, rfl⟩ | ⟨-, rfl⟩ | ⟨-, rfl⟩
    · simp [waitsIn] at hq
    · simp [waitsIn] at hq
    · simp [waitsIn] at hq
    · -- recording the end leaves the worker waiting for a run or ended
      by_cases hquit : p.ctl.quit <;> simp [hquit, waitsIn] at hq
  | exited => simp [step_exited hw] at h

/-- A wait the worker stays in goes on in its run, for the same frame, with the controller as
it was. -/
theorem step_wait_goes_on {run run' : Run} {f f' : Sdk.Frame} {n n' k k' : Nat}
    {spot spot' : Spot} (h : Worker.step pat p = some q) (hw : p.worker = .acquiring run f n spot)
    (hk : spot.awaited = some k) (hq : q.worker = .acquiring run' f' n' spot')
    (hk' : spot'.awaited = some k') : run' = run ∧ k' = k ∧ q.ctl = p.ctl := by
  obtain ⟨pr, -, hp⟩ := acquireStep_waits hk (step_acquiring hw h)
  rcases waitProgress_cases hp with ⟨g, -, rfl⟩ | ⟨err, -, -, rfl⟩ | ⟨err, -, -, -, -, rfl⟩ |
    ⟨err, -, -, -, rfl⟩ | ⟨pause, -, rfl⟩
  · -- a frame received leaves the wait
    have hnw : (received run g k { p with sim := pr.2 }).worker.waitsIn run'.session = false :=
      received_waitsIn
    simp [hq, waitsIn, hk'] at hnw
  · simp only [Plant.setWorker_worker, Worker.acquiring.injEq] at hq
    simp [← hq.2.2.2, Spot.awaited] at hk'
  · simp at hq
  · simp only [Plant.setWorker_worker, Worker.acquiring.injEq] at hq
    simp [← hq.2.2.2, Spot.awaited] at hk'
  · simp only [Plant.setWorker_worker, Worker.acquiring.injEq] at hq
    obtain ⟨rfl, -, -, rfl⟩ := hq
    exact ⟨rfl, by simpa [Spot.awaited] using hk'.symm, rfl⟩

end Worker

/-- No step takes the run numbers back. -/
theorem Transition.sessions_mono {env : Bool} {p q : Plant} {a : Actor} (hb : Bookkept p)
    (hs : Transition env p a q) :
    p.ctl.session ≤ q.ctl.session ∧ p.ctl.completedSession ≤ q.ctl.completedSession := by
  cases hs with
  | request i rq hm => exact ⟨Nat.le_refl _, Nat.le_refl _⟩
  | call i e s hc hst =>
    rcases Acquisition.Call.step_calm hst with hcalm | ⟨-, hs', -, hc'⟩ | ⟨-, hq⟩ |
      ⟨t, -, -, hs', hc'⟩ | ⟨t, -, hq⟩
    · exact ⟨Nat.le_of_eq hcalm.session.symm, Nat.le_of_eq hcalm.completedSession.symm⟩
    · exact ⟨Nat.le_of_eq hs'.symm, Nat.le_of_eq hc'.symm⟩
    · simp [hq]
    · simp [hs', hc']
    · simp [hq]
  | worker hst =>
    rcases Worker.step_runs hst with ⟨hs', hc', -, -⟩ | ⟨run, o, rel, hw, rfl⟩
    · exact ⟨Nat.le_of_eq hs'.symm, Nat.le_of_eq hc'.symm⟩
    · -- the run recorded is the current one, numbered at least as the last torn down
      have hrun : run.session = p.ctl.session :=
        (hb.working.run_current run (by simp [hw, Worker.run?])).1
      have hle : p.ctl.completedSession ≤ p.ctl.session :=
        Nat.le_trans hb.sound.completed_le_acked hb.sound.acked_le_session
      simp [hrun, hle]
  | timer i hst =>
    rw [(Timer.step_frame hst).1]
    exact ⟨Nat.le_refl _, Nat.le_refl _⟩
  | outside sim host _ => exact ⟨Nat.le_refl _, Nat.le_refl _⟩

end CameraAcquisition
