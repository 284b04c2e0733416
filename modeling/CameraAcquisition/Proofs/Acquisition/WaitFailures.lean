import CameraAcquisition.Proofs.Acquisition.Status

/-!
# Failed frame waits in a row

A frame wait of the worker ends with a frame, an abort, or another failure. The worker counts
the failures in a row: a frame clears the count, an abort neither counts nor clears it, and
another failure adds one. When the controller's limit `m` of failed waits is positive and a
failure brings the count to `m`, the run ends in fault, and the worker's record of that end
forces the status to fault. With `m = 0` no failure ends a run. A wait that fails or is aborted
leaves the frame count alone.

`failureStreak` reads that count off the list of a run's wait results, and `Looping` follows an
execution in which the worker stays in the frame loop of one run, listing what its waits gave,
whatever the other threads and the outside do meanwhile. `Counting` is what every step keeps
(`Counting.step`): the worker's count is the streak, stays below a positive limit, and is zero
while the host holds a frame. So the step that takes the worker out of the loop ends the run in
fault exactly when it is a failed wait that brings the streak to `m`
(`Counting.ending`); every other way out is a stop, the frame target or the host's answer. The
timings never change (`Transition.timings_eq`), so `m` is the limit the controller was made
with.

## What this module delivers

- `WaitResult`, `WaitResult.count`, `failureStreak`, `Sdk.Wait.result`, `waitResultOf`,
  `Looping`.
- `Acquisition.Call.step_timings`, `Worker.step_timings`, `Transition.timings_eq`,
  `Transition.worker_eq`, `timings_of_reachable`, `Looping.timings_eq`.
- `waitResultOf_eq_some` and `Worker.failed_wait_step`: what a failed or aborted wait does.
- `Counting` with `Counting.step`, `Counting.failed_wait`, `Counting.fault_at_limit`,
  `Counting.ending` and `Looping.counting`; `Worker.record_status`.
- `fault_at_failure_limit` and its instance on a camera whose waits fail.
-/

set_option autoImplicit false

namespace CameraAcquisition

/-! ## Wait results and the streak of failures -/

/-- What a frame wait gave the worker. -/
inductive WaitResult where
  /-- A frame. -/
  | frame
  /-- An abort, which a stop asks for. -/
  | aborted
  /-- Any other failure. -/
  | failed
  deriving Repr, DecidableEq

/-- The failed waits in a row after a wait with result `res`, from `k` before it: a frame clears
the count, an abort leaves it, another failure adds one. -/
def WaitResult.count (k : Nat) : WaitResult → Nat
  | .frame => 0
  | .aborted => k
  | .failed => k + 1

/-- The failed waits in a row at the end of a run's wait results. -/
def failureStreak (rs : List WaitResult) : Nat := rs.foldl WaitResult.count 0

/-- The streak after one more step, which may have been a wait. -/
theorem failureStreak_append (rs : List WaitResult) (o : Option WaitResult) :
    failureStreak (rs ++ o.toList) =
      o.elim (failureStreak rs) (WaitResult.count (failureStreak rs)) := by
  cases o <;> simp [failureStreak, List.foldl_append]

/-- Aborts are skipped and a frame starts the count again. -/
example : failureStreak [.failed, .aborted, .failed, .frame, .failed, .aborted] = 1 := rfl

/-- The result a frame wait's answer gives the worker; a wait still blocked gives none. -/
def Sdk.Wait.result : Sdk.Wait → Option WaitResult
  | .captured _ => some .frame
  | .failed e => some (if e.isAbort then .aborted else .failed)
  | .starved | .lasting => none

/-- The result a move of a frame wait gives the worker: none while the wait pauses. -/
def Sdk.Progress.result : Sdk.Progress → Option WaitResult
  | .returned w => w.result
  | .paused _ => none

/-- The result of the frame wait that a step of `a` ends, if the step ends one: a step of the
worker whose wait returns. -/
def waitResultOf (p : Plant) : Actor → Option WaitResult
  | .worker =>
    match p.worker with
    | .acquiring _ f _ spot => (spot.waitMove true f p.sim).bind fun m => m.2.1.result
    | _ => none
  | _ => none

/-- `Looping env run p rs q`: an execution leads from `p` to `q` with the worker in the frame
loop of `run` after each of its steps, and `rs` lists the results of the worker's frame waits
in order. -/
inductive Looping (env : Bool) (run : Run) (p : Plant) : List WaitResult → Plant → Prop where
  | refl : Looping env run p [] p
  | step {q r : Plant} {a : Actor} {rs : List WaitResult} (hq : Looping env run p rs q)
      (h : Transition env q a r) (hr : ∃ f k spot, r.worker = .acquiring run f k spot) :
      Looping env run p (rs ++ (waitResultOf q a).toList) r

/-! ## The timings never change -/

namespace Acquisition

variable {p q : Plant} {e : Bool} {s : Except CameraError Unit} {x : Call} {r : Caller}

/-- A host call never changes the controller's timings. -/
theorem Call.step_timings (hs : Call.step e s x p = some (r, q)) :
    q.ctl.timings = p.ctl.timings := by
  -- every program point changes the controller by one of its step lemma's updates
  cases x with
  | prepare =>
    rcases Call.step_prepare hs with ⟨-, -, rfl⟩ | ⟨-, -, sim, cold, f, rfl, -⟩ <;> rfl
  | releaseBuffer =>
    rcases Call.step_releaseBuffer hs with ⟨-, -, rfl⟩ | ⟨-, -, rfl⟩
    · rfl
    · split <;> rfl
  | setRoi attr =>
    rcases Call.step_setRoi hs with ⟨-, -, rfl⟩ | ⟨-, -, rfl⟩
    · rfl
    · split <;> rfl
  | update f => obtain ⟨-, rfl⟩ := Call.step_update hs; rfl
  | start => rcases Call.step_start hs with ⟨-, -, -, -, -, rfl⟩ | ⟨-, rfl⟩ <;> rfl
  | armCapture params => obtain ⟨rfl, -⟩ := Call.step_armCapture hs; rfl
  | settling params => obtain ⟨-, rfl, -⟩ := Call.step_settling hs; rfl
  | armTimer params =>
    rcases Call.step_armTimer hs with ⟨-, rfl, -⟩ | ⟨-, -, rfl, -⟩ | ⟨-, -, -, rfl, -⟩ <;> rfl
  | handOver t => rcases Call.step_handOver hs with ⟨-, -, rfl⟩ | ⟨-, rfl, -⟩ <;> rfl
  | awaitAck n => obtain ⟨rfl, -⟩ := Call.step_awaitAck hs; rfl
  | cancelling t st =>
    rcases Call.step_cancelling hs with ⟨-, rfl, -⟩ | ⟨-, -, rfl, -⟩ | ⟨-, rfl, -⟩ | ⟨-, -, rfl⟩
    · rw [signalTimer_ctl]
    all_goals rfl
  | failArming err => obtain ⟨-, rfl⟩ := Call.step_failArming hs; rfl
  | stop a =>
    rcases Call.step_stop hs with ⟨-, -, rfl⟩ | ⟨-, -, rfl⟩
    · rfl
    · rw [stopUnlessIdle_plant]
      split <;> rfl
  | stopAwaitArming a =>
    obtain ⟨-, -, rfl⟩ := Call.step_stopAwaitArming hs
    rw [stopUnlessIdle_plant]
    split <;> rfl
  | stopAbort a n => obtain ⟨rfl, -⟩ := Call.step_stopAbort hs; rfl
  | stopPause a n =>
    obtain ⟨-, -, rfl⟩ := Call.step_stopPause hs
    rw [stopLoop_plant]
  | resetForce => obtain ⟨-, rfl⟩ := Call.step_resetForce hs; rfl
  | dropQuit => obtain ⟨-, rfl⟩ := Call.step_dropQuit hs; rfl
  | dropJoin => obtain ⟨-, -, rfl⟩ := Call.step_dropJoin hs; rfl
  | dropRelease => obtain ⟨-, rfl⟩ := Call.step_dropRelease hs; rfl
  | programRoi attr => obtain ⟨-, rfl⟩ := Call.step_programRoi hs; rfl

end Acquisition

namespace Worker

variable {p q : Plant} {pat : Bool}

/-- The worker never changes the controller's timings. -/
theorem step_timings (hs : Worker.step pat p = some q) : q.ctl.timings = p.ctl.timings := by
  cases hw : p.worker with
  | idle => rcases step_idle hw hs with ⟨-, rfl⟩ | ⟨-, -, rfl⟩ <;> rfl
  | acquiring run f n spot => rw [(acquireStep_frame (step_acquiring hw hs)).1]
  | ending run o rel st =>
    rcases endStep_eq (step_ending hw hs) with ⟨-, rfl⟩ | ⟨-, -, rfl⟩ | ⟨-, rfl⟩ | ⟨-, rfl⟩ <;> simp
  | exited => simp [step_exited hw] at hs

end Worker

namespace Transition

variable {env : Bool} {p q : Plant} {a : Actor}

theorem timings_eq (hs : Transition env p a q) : q.ctl.timings = p.ctl.timings := by
  cases hs with
  | request i r hm => rfl
  | call i e s hc hst => rw [Plant.setCaller_ctl, Acquisition.Call.step_timings hst]
  | worker hst => exact Worker.step_timings hst
  | timer i hst => rw [(Timer.step_frame hst).1]
  | outside sim host _ => rfl

/-- Only the worker moves itself. -/
theorem worker_eq (hs : Transition env p a q) (ha : a ≠ .worker) : q.worker = p.worker := by
  cases hs with
  | request i r hm => rfl
  | call i e s hc hst => rw [Plant.setCaller_worker, (Acquisition.Call.step_frame hst).1]
  | worker hst => exact absurd rfl ha
  | timer i hst => exact (Timer.step_frame hst).2.1
  | outside sim host _ => rfl

end Transition

theorem timings_of_reachable {env : Bool} {params : AcqParams} {timings : Timings}
    {deviceIndex : Nat} {sim : Sdk.Simulator} {host : Host} {p : Plant}
    (h : Reachable env (Plant.initial params timings deviceIndex sim host) p) :
    p.ctl.timings = timings := by
  induction h with
  | init => rfl
  | step _ hs ih => rw [hs.timings_eq, ih]

theorem Looping.timings_eq {env : Bool} {run : Run} {p q : Plant} {rs : List WaitResult}
    (hl : Looping env run p rs q) : q.ctl.timings = p.ctl.timings := by
  induction hl with
  | refl => rfl
  | step _ hs _ ih => rw [hs.timings_eq, ih]

/-! ## One step of the count -/

section Count

variable {p q r : Plant} {run : Run} {f : Sdk.Frame} {k n : Nat}

theorem waitResultOf_ne {a : Actor} (ha : a ≠ .worker) : waitResultOf p a = none := by
  cases a <;> simp_all [waitResultOf]

theorem waitResultOf_move {spot : Spot} {pr : Sdk.Progress × Sdk.Simulator}
    (hw : p.worker = .acquiring run f k spot) (hm : spot.waitMove true f p.sim = some (n, pr)) :
    waitResultOf p .worker = pr.1.result := by
  simp [waitResultOf, hw, hm]

theorem waitResultOf_still {spot : Spot} (hw : p.worker = .acquiring run f k spot)
    (hm : spot.waitMove true f p.sim = none) : waitResultOf p .worker = none := by
  simp [waitResultOf, hw, hm]

/-- After a frame the worker stays in the run's loop with no failure counted, or ends the run. -/
theorem afterFrame_count {kg : Bool} {run' : Run} {f' : Sdk.Frame} {k' : Nat} {spot' : Spot}
    (h : (afterFrame run f n kg p).worker = .acquiring run' f' k' spot') : run' = run ∧ k' = 0 := by
  rw [afterFrame_eq] at h
  split_ifs at h <;> simp only [Plant.setWorker_worker, Worker.acquiring.injEq,
    reduceCtorEq] at h <;> exact ⟨h.1.symm, h.2.2.1.symm⟩

theorem received_count {run' : Run} {f' : Sdk.Frame} {k' : Nat} {spot' : Spot}
    (h : (received run f n p).worker = .acquiring run' f' k' spot') : run' = run ∧ k' = 0 := by
  rw [received_eq] at h
  dsimp only at h
  split_ifs at h
  · simp only [Plant.setWorker_worker, Worker.acquiring.injEq] at h
    exact ⟨h.1.symm, h.2.2.1.symm⟩
  · exact afterFrame_count h

/-- A step ends a frame wait only as a step of the worker whose wait returns. -/
theorem waitResultOf_eq_some {a : Actor} {res : WaitResult} (h : waitResultOf p a = some res) :
    a = .worker ∧ ∃ run f k spot n pr, p.worker = .acquiring run f k spot ∧
      spot.waitMove true f p.sim = some (n, pr) ∧ pr.1.result = some res := by
  cases a with
  | worker =>
    refine ⟨rfl, ?_⟩
    -- only a worker whose wait moves has a result to give
    rcases hw : p.worker with _ | ⟨run, f, k, spot⟩ | _ <;>
      simp only [waitResultOf, hw, reduceCtorEq] at h
    rcases hm : spot.waitMove true f p.sim with _ | ⟨n, pr⟩ <;>
      simp only [hm, Option.bind_none, Option.bind_some, reduceCtorEq] at h
    exact ⟨run, f, k, spot, n, pr, rfl, hm, h⟩
  | _ => simp [waitResultOf] at h

/-- A frame wait that failed leaves the controller alone. After an abort the worker goes back to
the top of its loop with its count; after another failure it ends the run in fault at a positive
limit, and otherwise goes back to the top with one more failure counted. -/
theorem Worker.failed_wait_step {spot : Spot} {pr : Sdk.Progress × Sdk.Simulator}
    (hw : p.worker = .acquiring run f k spot) (hm : spot.waitMove true f p.sim = some (n, pr))
    (hs : Worker.step true p = some q) :
    (pr.1.result = some .aborted → q.ctl = p.ctl ∧ q.worker = .acquiring run f k .top) ∧
    (pr.1.result = some .failed →
      q.ctl = p.ctl ∧ q.worker = if 0 < p.ctl.timings.maxConsecutiveWaitFailures ∧
          p.ctl.timings.maxConsecutiveWaitFailures ≤ k + 1 then .ending run .fault true .signal
        else .acquiring run f (k + 1) .top) := by
  obtain ⟨pr', hm', hp⟩ :=
    Worker.acquireStep_waits (Spot.awaited_of_waitMove hm) (Worker.step_acquiring hw hs)
  obtain rfl : pr' = pr := by
    rw [hm] at hm'
    exact (Prod.mk.inj (Option.some.inj hm')).2.symm
  rcases Worker.waitProgress_cases hp with ⟨g, hg, rfl⟩ | ⟨err, he, ha, rfl⟩ |
    ⟨err, he, ha, h0, hl, rfl⟩ | ⟨err, he, ha, hl, rfl⟩ | ⟨pause, he, rfl⟩
  · simp [hg, Sdk.Progress.result, Sdk.Wait.result]
  · simp [he, Sdk.Progress.result, Sdk.Wait.result, ha]
  · simp [he, Sdk.Progress.result, Sdk.Wait.result, ha, h0, hl]
  · simp [he, Sdk.Progress.result, Sdk.Wait.result, ha, hl]
  · simp [he, Sdk.Progress.result]

end Count

/-- The worker is in the frame loop of `run` with `k` failed waits counted in a row: fewer than
the limit `m` when it is positive, and none while the host holds it after a frame. -/
structure Counting (run : Run) (m k : Nat) (w : Worker) : Prop where
  looping : ∃ f spot, w = .acquiring run f k spot
  holding : ∀ f n kg, w = .acquiring run f k (.holding n kg) → k = 0
  below : 0 < m → k < m

namespace Counting

variable {run : Run} {m k : Nat} {p q r : Plant} {env : Bool} {a : Actor}

/-- At the top of the loop with nothing counted, as a run is picked up. -/
theorem top (f : Sdk.Frame) : Counting run m 0 (.acquiring run f 0 .top) :=
  ⟨⟨f, .top, rfl⟩, fun _ _ _ _ => rfl, id⟩

/-- Anywhere in the loop with nothing counted, as after a frame. -/
theorem cleared {w : Worker} (hw : ∃ f spot, w = .acquiring run f 0 spot) : Counting run m 0 w :=
  ⟨hw, fun _ _ _ _ => rfl, id⟩

/-- A step of the worker that stays in the loop counts the result of its wait, if it took one. -/
theorem worker (hc : Counting run m k q.worker)
    (hm : q.ctl.timings.maxConsecutiveWaitFailures = m) (hs : Worker.step true q = some r)
    (hr : ∃ f k spot, r.worker = .acquiring run f k spot) :
    Counting run m ((waitResultOf q .worker).elim k (WaitResult.count k)) r.worker := by
  obtain ⟨⟨f, spot, hw⟩, hhold, hbelow⟩ := hc
  obtain ⟨f', k', spot', hr⟩ := hr
  have hstep := Worker.step_acquiring hw hs
  cases spot with
  | top =>
    rw [waitResultOf_still hw rfl]
    rcases Worker.acquireStep_top hstep with ⟨-, rfl⟩ | ⟨-, -, -, rfl⟩ | ⟨-, -, rfl⟩
    · simp at hr
    · simp at hr
    · exact ⟨⟨f, _, rfl⟩, by simp, hbelow⟩
  | waiting n | paused n _ =>
    obtain ⟨pr, hmv, hp⟩ := Worker.acquireStep_waits rfl hstep
    rw [waitResultOf_move hw hmv]
    rcases Worker.waitProgress_cases hp with ⟨g, hg, rfl⟩ | ⟨err, he, ha, rfl⟩ |
      ⟨err, he, ha, -, -, rfl⟩ | ⟨err, he, ha, hl, rfl⟩ | ⟨pause, he, rfl⟩
    · -- a frame clears the count
      rw [hg]
      obtain ⟨-, rfl⟩ := received_count hr
      exact cleared ⟨f', spot', hr⟩
    · -- an abort leaves it
      rw [he]
      simp only [Sdk.Progress.result, Sdk.Wait.result, ha, if_true, Option.elim,
        WaitResult.count]
      exact ⟨⟨f, .top, rfl⟩, by simp, hbelow⟩
    · simp at hr
    · -- another failure counts one more, still below the limit since the run goes on
      rw [he]
      simp only [Sdk.Progress.result, Sdk.Wait.result, ha, Bool.false_eq_true, if_false,
        Option.elim, WaitResult.count]
      refine ⟨⟨f, .top, rfl⟩, by simp, fun h0 => ?_⟩
      rw [hm] at hl
      omega
    · -- a wait that pauses has given nothing yet
      rw [he]
      exact ⟨⟨f, _, rfl⟩, by simp, hbelow⟩
  | latency =>
    rw [waitResultOf_still hw rfl, Worker.acquireStep_latency hstep]
    exact ⟨⟨f, .top, rfl⟩, by simp, hbelow⟩
  | holding n kg =>
    -- the host lets the worker go on after a frame, with nothing counted
    rw [waitResultOf_still hw rfl]
    obtain ⟨-, rfl⟩ := Worker.acquireStep_holding hstep
    obtain ⟨-, rfl⟩ := afterFrame_count hr
    rw [hhold f n kg hw]
    exact cleared ⟨f', spot', hr⟩

/-- Every step that leaves the worker in the loop keeps the count: the worker counts its waits,
and no other thread moves it. -/
theorem step (hc : Counting run m k q.worker) (hm : q.ctl.timings.maxConsecutiveWaitFailures = m)
    (hs : Transition env q a r) (hr : ∃ f k spot, r.worker = .acquiring run f k spot) :
    Counting run m ((waitResultOf q a).elim k (WaitResult.count k)) r.worker := by
  by_cases ha : a = .worker
  · subst ha
    cases hs with
    | worker hst => exact hc.worker hm hst hr
  · rw [waitResultOf_ne ha, hs.worker_eq ha]
    exact hc

/-- The failed wait at the worker's place in the loop, with what the step does. -/
theorem failed_at (hc : Counting run m k q.worker) (hs : Transition env q a r)
    {res : WaitResult} (hres : waitResultOf q a = some res) :
    ∃ f spot n pr, a = .worker ∧ q.worker = .acquiring run f k spot ∧
      spot.waitMove true f q.sim = some (n, pr) ∧ pr.1.result = some res ∧
      Worker.step true q = some r := by
  obtain ⟨⟨f, spot, hw⟩, -, -⟩ := hc
  obtain ⟨rfl, run', f', k', spot', n, pr, hw', hm, hr⟩ := waitResultOf_eq_some hres
  rw [hw] at hw'
  cases hw'
  cases hs with
  | worker hst => exact ⟨f, spot, n, pr, rfl, hw, hm, hr, hst⟩

/-- A frame wait that fails or is aborted leaves the frame count alone, and with no limit it
leaves the worker in the loop. -/
theorem failed_wait (hc : Counting run m k q.worker) (hs : Transition env q a r)
    (ho : waitResultOf q a = some .aborted ∨ waitResultOf q a = some .failed) :
    r.ctl.frameCount = q.ctl.frameCount ∧
      (q.ctl.timings.maxConsecutiveWaitFailures = 0 →
        ∃ f k spot, r.worker = .acquiring run f k spot) := by
  rcases ho with ho | ho
  · obtain ⟨f, spot, n, pr, -, hw, hm, hr, hst⟩ := hc.failed_at hs ho
    obtain ⟨hctl, hwk⟩ := (Worker.failed_wait_step hw hm hst).1 hr
    exact ⟨by rw [hctl], fun _ => ⟨f, k, .top, hwk⟩⟩
  · obtain ⟨f, spot, n, pr, -, hw, hm, hr, hst⟩ := hc.failed_at hs ho
    obtain ⟨hctl, hwk⟩ := (Worker.failed_wait_step hw hm hst).2 hr
    refine ⟨by rw [hctl], fun h0 => ⟨f, k + 1, .top, ?_⟩⟩
    -- with no limit, no failure ends the run
    rw [hwk, h0]
    simp

/-- The failed wait that brings the count to a positive limit ends the run in fault. -/
theorem fault_at_limit (hc : Counting run m k q.worker)
    (hm : q.ctl.timings.maxConsecutiveWaitFailures = m) (hs : Transition env q a r)
    (hf : waitResultOf q a = some .failed) (h0 : 0 < m) (hk : k + 1 = m) :
    r.worker = .ending run .fault true .signal := by
  obtain ⟨f, spot, n, pr, -, hw, hm, hr, hst⟩ := hc.failed_at hs hf
  obtain ⟨-, hwk⟩ := (Worker.failed_wait_step hw hm hst).2 hr
  rw [hwk, if_pos (by omega)]

/-- The step that takes the worker out of the loop ends its run, in fault exactly when it is a
frame wait that failed, not by an abort, and brings the count to a positive limit. -/
theorem ending (hc : Counting run m k q.worker) (hm : q.ctl.timings.maxConsecutiveWaitFailures = m)
    (hs : Transition env q a r) {run' : Run} {o : RunEnd} {rel : Bool} {st : Teardown}
    (hr : r.worker = .ending run' o rel st) :
    run' = run ∧ (o = .fault ↔ 0 < m ∧ waitResultOf q a = some .failed ∧ k + 1 = m) := by
  obtain ⟨f, spot, hw⟩ := hc.looping
  -- only the worker leaves its loop, and it keeps to its run
  have ha : a = .worker := by
    by_contra ha
    rw [hs.worker_eq ha, hw] at hr
    cases hr
  subst ha
  have hlimit : 0 < m ∧ waitResultOf q .worker = some .failed ∧ k + 1 = m → o = .fault :=
    fun ⟨h0, hf, hk⟩ => by
      have h := hc.fault_at_limit hm hs hf h0 hk
      rw [hr] at h
      exact (Worker.ending.inj h).2.1
  cases hs with
  | worker hst =>
    have hstep := Worker.step_acquiring hw hst
    have hrun : run' = run := by
      rcases (Worker.acquireStep_frame hstep).2.2.2 with ⟨f', n', spot', h⟩ | ⟨o', h⟩ <;>
        rw [hr] at h <;> simp only [reduceCtorEq, Worker.ending.injEq] at h
      exact h.1
    refine ⟨hrun, fun ho => ?_, hlimit⟩
    -- a run ends in fault only at the limit-th failure in a row, which the count is below
    subst ho
    obtain ⟨n, pr, err, hmv, he, hab, h0, hl, -⟩ := Worker.acquireStep_fault hstep hr
    rw [hm] at h0 hl
    refine ⟨h0, ?_, by have := hc.below h0; omega⟩
    rw [waitResultOf_move hw hmv, he]
    simp [Sdk.Progress.result, Sdk.Wait.result, hab]

end Counting

/-- Along an execution in the loop of a run picked up with nothing counted, the worker counts
the streak of its waits' results, below a positive limit. -/
theorem Looping.counting {env : Bool} {run : Run} {m : Nat} {p q : Plant}
    {rs : List WaitResult} (hl : Looping env run p rs q) (hp : Counting run m 0 p.worker)
    (hm : p.ctl.timings.maxConsecutiveWaitFailures = m) :
    Counting run m (failureStreak rs) q.worker := by
  induction hl with
  | refl => exact hp
  | step hq hs hr ih =>
    rw [failureStreak_append]
    exact ih.step (by rw [hq.timings_eq, hm]) hs hr

/-- The worker's record of the end of a run forces a fault exactly for a run that ended in
fault: a teardown runs on an active controller, which is never in fault. -/
theorem Worker.record_status {p q : Plant} {run : Run} {o : RunEnd} {rel : Bool} (hb : Bookkept p)
    (hk : StatusKept p.ctl) (hw : p.worker = .ending run o rel .record)
    (hs : Worker.step true p = some q) : q.ctl.status = .fault ↔ o = .fault := by
  rcases endStep_eq (step_ending hw hs) with ⟨h, -⟩ | ⟨h, -⟩ | ⟨h, -⟩ | ⟨-, rfl⟩
  all_goals try cases h
  have hrun : p.ctl.running = true := by
    have e : p.ctl.running = p.worker.run?.isSome := hb.working.running_eq
    rw [e, hw]
    rfl
  have hnf : p.ctl.status ≠ .fault := hk.not_fault (by simp [Controller.isActive, hrun])
  by_cases ho : o = .fault
  · simp [ho]
  · simp [ho, Status.set, hnf]

/-! ## The limit of failed waits -/

/-- Take a controller made with `timings`, so that its limit of failed waits in a row is
`m = timings.maxConsecutiveWaitFailures`, and any execution from a point where the worker is at
the top of a run's frame loop with nothing counted, as when it picks the run up. For every
sequence of results of the run's frame waits, while the run goes on the worker counts the
failures in a row since the last frame, skipping aborts, and a positive `m` stays above the
count. A failed or aborted wait leaves the frame count alone and, when `m = 0`, the run going.
The step that ends the run ends it in fault exactly when `m > 0` and it is a failed wait that
brings the streak to `m`. The worker's record of the end of the run forces the status to fault
exactly when the run ended in fault. -/
theorem fault_at_failure_limit {env : Bool} {params : AcqParams} {timings : Timings}
    {deviceIndex : Nat} {sim : Sdk.Simulator} {host : Host} {p q : Plant} {run : Run}
    {f : Sdk.Frame} {rs : List WaitResult}
    (hp : Reachable env (Plant.initial params timings deviceIndex sim host) p)
    (hw : p.worker = .acquiring run f 0 .top) (hl : Looping env run p rs q) :
    (∃ f' spot, q.worker = .acquiring run f' (failureStreak rs) spot) ∧
    (0 < timings.maxConsecutiveWaitFailures →
      failureStreak rs < timings.maxConsecutiveWaitFailures) ∧
    (∀ a r, Transition env q a r →
      ((waitResultOf q a = some .aborted ∨ waitResultOf q a = some .failed) →
        r.ctl.frameCount = q.ctl.frameCount ∧
        (timings.maxConsecutiveWaitFailures = 0 →
          ∃ f' k spot, r.worker = .acquiring run f' k spot)) ∧
      (waitResultOf q a = some .failed → 0 < timings.maxConsecutiveWaitFailures →
        failureStreak rs + 1 = timings.maxConsecutiveWaitFailures →
        r.worker = .ending run .fault true .signal) ∧
      (∀ run' o rel st, r.worker = .ending run' o rel st →
        run' = run ∧ (o = .fault ↔ 0 < timings.maxConsecutiveWaitFailures ∧
          waitResultOf q a = some .failed ∧
          failureStreak rs + 1 = timings.maxConsecutiveWaitFailures))) ∧
    (∀ p' r o rel, Reachable env (Plant.initial params timings deviceIndex sim host) p' →
      p'.worker = .ending run o rel .record → Transition env p' .worker r →
      (r.ctl.status = .fault ↔ o = .fault)) := by
  have hm : p.ctl.timings.maxConsecutiveWaitFailures = timings.maxConsecutiveWaitFailures := by
    rw [timings_of_reachable hp]
  have hmq : q.ctl.timings.maxConsecutiveWaitFailures = timings.maxConsecutiveWaitFailures := by
    rw [hl.timings_eq, hm]
  -- the count along the run, from the top of the loop
  have hc : Counting run timings.maxConsecutiveWaitFailures (failureStreak rs) q.worker :=
    hl.counting (by rw [hw]; exact Counting.top f) hm
  refine ⟨hc.looping, hc.below, fun a r hs => ⟨fun ho => ?_, hc.fault_at_limit hmq hs,
    fun _ _ _ _ hr => hc.ending hmq hs hr⟩, fun p' r o rel hp' hw' hs => ?_⟩
  · obtain ⟨hfc, hloop⟩ := hc.failed_wait hs ho
    exact ⟨hfc, fun h0 => hloop (by rw [hmq]; exact h0)⟩
  · cases hs with
    | worker hst =>
      exact Worker.record_status (bookkept_of_reachable hp') (statusKept_of_reachable hp') hw' hst

/-- A controller just made on an opened camera whose next two frame waits fail, with a limit of
two failed waits in a row, no arm settle and an external trigger. -/
def Plant.failingWaits : Plant :=
  Plant.initial { AcqParams.default with trigMode := .extTrigMult }
    { Timings.default with armSettleMs := 0, maxConsecutiveWaitFailures := 2 } 0
    { Sdk.Simulator.make Sdk.SimConfig.default with
      initialized := true, opened := true, failNextWaits := 2 } default

/-- The run that one host thread prepares and starts on that camera, from the worker's pick-up
through its first frame wait, which fails. -/
theorem fault_at_failure_limit_failing :
    ∃ p run f, Reachable false Plant.failingWaits p ∧ p.worker = .acquiring run f 0 .top ∧
      ∃ q rs, Looping false run p rs q ∧ rs = [.failed] ∧
      (∃ f' spot, q.worker = .acquiring run f' (failureStreak rs) spot) ∧
      (0 < 2 → failureStreak rs < 2) ∧
      (∀ a r, Transition false q a r →
        ((waitResultOf q a = some .aborted ∨ waitResultOf q a = some .failed) →
          r.ctl.frameCount = q.ctl.frameCount ∧
          (2 = 0 → ∃ f' k spot, r.worker = .acquiring run f' k spot)) ∧
        (waitResultOf q a = some .failed → 0 < 2 → failureStreak rs + 1 = 2 →
          r.worker = .ending run .fault true .signal) ∧
        (∀ run' o rel st, r.worker = .ending run' o rel st →
          run' = run ∧ (o = .fault ↔ 0 < 2 ∧ waitResultOf q a = some .failed ∧
            failureStreak rs + 1 = 2))) ∧
      (∀ p' r o rel, Reachable false Plant.failingWaits p' →
        p'.worker = .ending run o rel .record → Transition false p' .worker r →
        (r.ctl.status = .fault ↔ o = .fault)) := by
  have h : Reachable false _ _ := Reachable.of_runAlone
    (rfl : Plant.failingWaits.runAlone (fun _ _ _ => false) Move.beginRun = some (0, _))
  refine ⟨_, _, _, h, rfl, ?_⟩
  -- the worker comes to its first frame wait, and the wait fails
  -- the same two steps of the worker, once for the statement and once for the theorem
  refine ⟨_, _, Looping.step (Looping.step .refl (.worker rfl) ⟨_, _, _, rfl⟩) (.worker rfl)
    ⟨_, _, _, rfl⟩, rfl, ?_⟩
  exact fault_at_failure_limit h rfl (Looping.step (Looping.step .refl (.worker rfl)
    ⟨_, _, _, rfl⟩) (.worker rfl) ⟨_, _, _, rfl⟩)

end CameraAcquisition
