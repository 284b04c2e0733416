import CameraAcquisition.Proofs.Acquisition.Operations
import CameraAcquisition.Proofs.Sdk.Pauses

/-!
# What one step of a thread can do

One lemma per program point of a host call, per place of the worker and for a trigger
thread says everything that the step taken there can do: when it can be taken, the plant
after it and where the thread stands then. The lemmas are read off the operations by the
symbolic runs of `Proofs.Acquisition.Operations`; proofs about executions cite them and do
not unfold a step again.

A host call's step is `Call.step_eq_some`: the call must be ready, and its outcome is its
operation's. The worker's step splits by where it stands (`Worker.step_idle`,
`Worker.step_acquiring`, `Worker.step_ending`), then by the place in its frame loop or
teardown.

## What this module delivers

- `Call.step_eq_some` and one lemma `Call.step_*` per program point of a host call.
- `Worker.step_*`, `Worker.acquireStep_*`, `Worker.endStep_eq` and `afterFrame_eq`.
- `Timer.step_eq`.
-/

set_option autoImplicit false

namespace CameraAcquisition

namespace Acquisition

variable {e : Bool} {s : Except CameraError Unit} {p q : Plant} {r : Caller}

/-- A step that leads to another program point leaves its thread busy there. -/
@[simp] theorem Caller.after_some (c : Call) : Caller.after (.ok (some c)) = .busy c := rfl
/-- A step that ends its call returns success. -/
@[simp] theorem Caller.after_none : Caller.after (.ok none) = .returned (.ok ()) := rfl
/-- A step that fails ends its call with the error. -/
@[simp] theorem Caller.after_error (err : CameraError) :
    Caller.after (.error err) = .returned (.error err) := rfl

/-- A host call's step is taken when its call is ready, and comes to what its operation does. -/
theorem Call.step_eq_some {c : Call} : Call.step e s c p = some (r, q) ↔
    Call.ready e p c = true ∧ ∃ res, (Call.act s c).run' p = (res, q) ∧ r = Caller.after res := by
  unfold Call.step
  split
  · simp only [Option.some.injEq, Prod.mk.injEq, true_and, *]
    constructor
    · rintro ⟨rfl, rfl⟩; exact ⟨_, rfl, rfl⟩
    · rintro ⟨res, h, rfl⟩; simp [h]
  · simp_all

/-- The first section of a start arms when the worker lives, no run is under way, a frame is
prepared and the status is no fault, and is refused with the first check that fails otherwise. -/
theorem Call.step_start (h : Call.step e s .start p = some (r, q)) :
    (p.ctl.workerExited = false ∧ p.ctl.isActive = false ∧ p.ctl.frame.isSome ∧
      p.ctl.status ≠ .fault ∧ r = .busy (.armCapture p.ctl.params) ∧
      q = { p with ctl := { p.ctl with arming := true, stopRequested := false } }) ∨
    -- a refusal names the first check that fails
    (r = .returned (.error (if p.ctl.workerExited then workerGone
      else if p.ctl.isActive then .alreadyRunning
      else if p.ctl.frame.isNone then .notPrepared
      else .busy "in fault state, reset required")) ∧ q = p) := by
  obtain ⟨-, res, hrun, rfl⟩ := Call.step_eq_some.1 h
  simp only [Call.act, beginStart, Act.run'_bind, run'_getCtl, Act.andThen_ok, Act.run'_ite,
    Act.run'_throw, Act.andThen_ite, Act.andThen_error, run'_modifyCtl, Act.run'_pure] at hrun
  split_ifs at hrun with h1 h2 h3 h4 <;> obtain ⟨rfl, rfl⟩ := Prod.mk.inj hrun
  · exact .inr ⟨by simp [h1], rfl⟩
  · exact .inr ⟨by simp [h1, h2], rfl⟩
  · exact .inr ⟨by simp [h1, h2, h3], rfl⟩
  · exact .inr ⟨by simp [h1, h2, h3], rfl⟩
  · refine .inl ⟨by simpa using h1, by simpa using h2, ?_, h4, rfl, rfl⟩
    simpa [Option.isSome_iff_ne_none] using h3

/-- A prepare is refused while a run is under way, and otherwise returns with only the changes a
prepare makes. -/
theorem Call.step_prepare (h : Call.step e s .prepare p = some (r, q)) :
    (p.ctl.isActive = true ∧ r = .returned (.error .alreadyRunning) ∧ q = p) ∨
    (p.ctl.isActive = false ∧ (∃ res, r = .returned res) ∧ Preparing p q) := by
  obtain ⟨-, res, hrun, rfl⟩ := Call.step_eq_some.1 h
  simp only [Call.act, Act.run'_bind] at hrun
  by_cases ha : p.ctl.isActive
  · have hp : prepare.run' p = (.error .alreadyRunning, p) := by simp [prepare, ha]
    rw [hp] at hrun
    obtain ⟨rfl, rfl⟩ := Prod.mk.inj hrun
    exact .inl ⟨ha, rfl, rfl⟩
  · have hk := prepare_preparing p
    rcases hp : prepare.run' p with ⟨res', q'⟩
    rw [hp] at hrun hk
    refine .inr ⟨by simpa using ha, ?_⟩
    cases res' <;> obtain ⟨rfl, rfl⟩ := Prod.mk.inj hrun <;> exact ⟨⟨_, rfl⟩, hk⟩

/-- What a prepare step leaves is what the prepare leaves. -/
theorem Call.step_prepare_plant (h : Call.step e s .prepare p = some (r, q)) :
    q = (prepare.run' p).2 := by
  obtain ⟨-, res, hrun, rfl⟩ := Call.step_eq_some.1 h
  simp only [Call.act, Act.run'_bind] at hrun
  rcases hp : prepare.run' p with ⟨res', q'⟩
  rw [hp] at hrun
  cases res' <;> obtain ⟨rfl, rfl⟩ := Prod.mk.inj hrun <;> rfl

/-- A release refused while active, or the release of a prepared frame. -/
theorem releaseBuffer_cases {res : Except CameraError Unit} (h : releaseBuffer.run' p = (res, q)) :
    (p.ctl.isActive = true ∧ res = .error (.busy "acquisition running") ∧ q = p) ∨
    (p.ctl.isActive = false ∧
      q = if p.ctl.frame.isSome then
            { p with ctl := { p.ctl with frame := none }, sim := p.sim.bufRelease.2 }
          else p) := by
  rw [releaseBuffer_run'] at h
  split_ifs at h with ha hf <;> obtain ⟨rfl, rfl⟩ := Prod.mk.inj h
  · exact .inl ⟨ha, rfl, rfl⟩
  · exact .inr ⟨by simpa using ha, by simp [hf]⟩
  · exact .inr ⟨by simpa using ha, by simp [hf]⟩

/-- Releasing the buffer is refused while a run is under way, and otherwise gives back a prepared
frame. -/
theorem Call.step_releaseBuffer (h : Call.step e s .releaseBuffer p = some (r, q)) :
    (p.ctl.isActive = true ∧ r = .returned (.error (.busy "acquisition running")) ∧ q = p) ∨
    (p.ctl.isActive = false ∧ (∃ res, r = .returned res) ∧
      q = if p.ctl.frame.isSome then
            { p with ctl := { p.ctl with frame := none }, sim := p.sim.bufRelease.2 }
          else p) := by
  obtain ⟨-, res, hrun, rfl⟩ := Call.step_eq_some.1 h
  simp only [Call.act, Act.run'_bind] at hrun
  rcases hp : releaseBuffer.run' p with ⟨res', q'⟩
  rw [hp] at hrun
  rcases releaseBuffer_cases hp with ⟨ha, rfl, rfl⟩ | ⟨ha, rfl⟩
  · obtain ⟨rfl, rfl⟩ := Prod.mk.inj hrun
    exact .inl ⟨ha, rfl, rfl⟩
  · cases res' <;> obtain ⟨rfl, rfl⟩ := Prod.mk.inj hrun <;> exact .inr ⟨ha, ⟨_, rfl⟩, rfl⟩

/-- An update applies its change to the parameters and returns. -/
theorem Call.step_update {f : AcqParams → AcqParams}
    (h : Call.step e s (.update f) p = some (r, q)) :
    r = .returned (.ok ()) ∧ q = { p with ctl := { p.ctl with params := f p.ctl.params } } := by
  obtain ⟨-, res, hrun, rfl⟩ := Call.step_eq_some.1 h
  obtain ⟨rfl, rfl⟩ := Prod.mk.inj hrun
  exact ⟨rfl, rfl⟩

/-- A start's capture start asks the camera to capture in the start's mode, and goes on to its
settle pause or its trigger thread, or to its failure. -/
theorem Call.step_armCapture {params : AcqParams}
    (h : Call.step e s (.armCapture params) p = some (r, q)) :
    q = { p with sim := (p.sim.capStart params.captureMode).2 } ∧
      ((∃ u, (p.sim.capStart params.captureMode).1 = .ok u ∧
          r = .busy (if p.ctl.timings.armSettleMs = 0 then .armTimer params
            else .settling params)) ∨
        (∃ err, (p.sim.capStart params.captureMode).1 = .error err ∧
          r = .busy (.failArming (.ofCall err)))) := by
  obtain ⟨-, res, hrun, rfl⟩ := Call.step_eq_some.1 h
  simp only [Call.act, Act.run'_tryCatch, Act.run'_bind, run'_call] at hrun
  rcases hc : (p.sim.capStart params.captureMode).1 with err | u <;>
    simp only [hc, Except.mapError, Act.andThen_ok, Act.andThen_error, Act.orElse_error,
      Act.run'_pure, run'_getCtl, Act.run'_bind] at hrun <;>
    obtain ⟨rfl, rfl⟩ := Prod.mk.inj hrun
  · exact ⟨rfl, .inr ⟨err, rfl, rfl⟩⟩
  · exact ⟨rfl, .inl ⟨u, rfl, rfl⟩⟩

/-- A start's settle pause ends when it expires or a stop comes, and goes on to hand over at once
if a stop came. -/
theorem Call.step_settling {params : AcqParams}
    (h : Call.step e s (.settling params) p = some (r, q)) :
    (e = true ∨ p.ctl.stopRequested = true) ∧ q = p ∧
      r = .busy (if p.ctl.stopRequested then .handOver none else .armTimer params) := by
  obtain ⟨hr, res, hrun, rfl⟩ := Call.step_eq_some.1 h
  simp only [Call.ready, Bool.or_eq_true] at hr
  simp only [Call.act, Act.run'_bind, run'_getCtl, Act.andThen_ok, Act.run'_ite,
    Act.run'_pure] at hrun
  split_ifs at hrun with hs <;> obtain ⟨rfl, rfl⟩ := Prod.mk.inj hrun <;>
    exact ⟨hr, rfl, by simp [hs]⟩

/-- A start of an internally triggered run starts its trigger thread, or stops the capture and
fails if the thread cannot be spawned; other starts go on to hand over. -/
theorem Call.step_armTimer {params : AcqParams}
    (h : Call.step e s (.armTimer params) p = some (r, q)) :
    (params.trigMode ≠ .intTrig ∧ q = p ∧ r = .busy (.handOver none)) ∨
    (params.trigMode = .intTrig ∧ s = .ok () ∧
      q = { p with timers := p.timers ++ [Timer.make params.nbFrames] } ∧
      r = .busy (.handOver (some p.timers.length))) ∨
    (params.trigMode = .intTrig ∧ ∃ err, s = .error err ∧
      q = { p with sim := p.sim.capStop.2 } ∧ r = .busy (.failArming err)) := by
  obtain ⟨-, res, hrun, rfl⟩ := Call.step_eq_some.1 h
  simp only [Call.act] at hrun
  by_cases hm : params.trigMode = .intTrig
  · rcases s with err | u
    · simp [hm] at hrun
      obtain ⟨rfl, rfl⟩ := hrun
      exact .inr (.inr ⟨hm, err, rfl, rfl, rfl⟩)
    · simp [hm] at hrun
      obtain ⟨rfl, rfl⟩ := hrun
      exact .inr (.inl ⟨hm, rfl, rfl, rfl⟩)
  · simp [hm] at hrun
    obtain ⟨rfl, rfl⟩ := hrun
    exact .inl ⟨hm, rfl, rfl⟩

/-- A start hands its run over unless a stop came, in which case it cancels what it armed. -/
theorem Call.step_handOver {t : Option Nat} (h : Call.step e s (.handOver t) p = some (r, q)) :
    (p.ctl.stopRequested = true ∧ r = .busy (.cancelling t .signal) ∧ q = p) ∨
    (p.ctl.stopRequested = false ∧
      q = { p with host := { p.host with ring := p.host.ring.markStart },
                   ctl := { p.ctl with frameCount := 0, status := p.ctl.status.set .exposure,
                                       timer := t, arming := false, runRequested := true,
                                       session := p.ctl.session + 1 } } ∧
      (r = .returned (.ok ()) ∨ r = .returned (.error workerGone) ∨
        r = .busy (.awaitAck (p.ctl.session + 1)))) := by
  obtain ⟨-, res, hrun, rfl⟩ := Call.step_eq_some.1 h
  simp only [Call.act, handOver_run'] at hrun
  split_ifs at hrun with hs <;> obtain ⟨rfl, rfl⟩ := Prod.mk.inj hrun <;> simp_all

/-- A start waiting for its run to be picked up returns once the worker picked it up, or fails
once the worker ended. -/
theorem Call.step_awaitAck {n : Nat} (h : Call.step e s (.awaitAck n) p = some (r, q)) :
    q = p ∧ ((n ≤ p.ctl.ackedSession ∧ r = .returned (.ok ())) ∨
      (p.ctl.ackedSession < n ∧ p.ctl.workerExited = true ∧
        r = .returned (.error workerGone))) := by
  obtain ⟨hr, res, hrun, rfl⟩ := Call.step_eq_some.1 h
  simp only [Call.ready, Bool.or_eq_true, decide_eq_true_eq] at hr
  simp only [Call.act, Act.run'_bind, run'_getCtl, Act.andThen_ok, Act.run'_ite,
    Act.run'_pure, Act.run'_throw] at hrun
  split_ifs at hrun with hs <;> obtain ⟨rfl, rfl⟩ := Prod.mk.inj hrun
  · exact ⟨rfl, .inl ⟨hs, rfl⟩⟩
  · exact ⟨rfl, .inr ⟨by omega, by simpa [hs] using hr, rfl⟩⟩

/-- A start cancelled by a stop signals its trigger thread, waits for it, stops the capture, and
records the cancel. -/
theorem Call.step_cancelling {t : Option Nat} {st : Teardown}
    (h : Call.step e s (.cancelling t st) p = some (r, q)) :
    (st = .signal ∧ q = signalTimer t p ∧ r = .busy (.cancelling t .join)) ∨
    (st = .join ∧ p.timerEnded t = true ∧ q = p ∧ r = .busy (.cancelling t .stopCapture)) ∨
    (st = .stopCapture ∧ q = stopCapture false p ∧ r = .busy (.cancelling t .record)) ∨
    (st = .record ∧ r = .returned (.ok ()) ∧
      q = { p with ctl := { p.ctl with stopRequested := false, status := p.ctl.status.set .ready,
                                       arming := false } }) := by
  obtain ⟨hr, res, hrun, rfl⟩ := Call.step_eq_some.1 h
  cases st <;> simp only [Call.act, Call.ready, Act.run'_bind, Act.run'_modify,
    Act.andThen_ok, Act.run'_pure, run'_modifyCtl] at hr hrun <;>
    obtain ⟨rfl, rfl⟩ := Prod.mk.inj hrun <;> simp [hr]

/-- A start that failed to arm clears the arming flag and returns its error. -/
theorem Call.step_failArming {err : CameraError}
    (h : Call.step e s (.failArming err) p = some (r, q)) :
    r = .returned (.error err) ∧ q = { p with ctl := { p.ctl with arming := false } } := by
  obtain ⟨-, res, hrun, rfl⟩ := Call.step_eq_some.1 h
  obtain ⟨rfl, rfl⟩ := Prod.mk.inj hrun
  exact ⟨rfl, rfl⟩

/-- A stop that finds a start arming asks it to stop and waits for it; otherwise it goes to its
first section. -/
theorem Call.step_stop {a : AfterStop} (h : Call.step e s (.stop a) p = some (r, q)) :
    (p.ctl.arming = true ∧ r = .busy (.stopAwaitArming a) ∧
      q = { p with ctl := { p.ctl with stopRequested := true } }) ∨
    (p.ctl.arming = false ∧ r = Caller.after ((stopUnlessIdle a).run' p).1 ∧
      q = ((stopUnlessIdle a).run' p).2) := by
  obtain ⟨-, res, hrun, rfl⟩ := Call.step_eq_some.1 h
  simp only [Call.act, Act.run'_bind, run'_getCtl, Act.andThen_ok, Act.run'_ite,
    run'_modifyCtl, Act.run'_pure] at hrun
  split_ifs at hrun with hs
  · obtain ⟨rfl, rfl⟩ := Prod.mk.inj hrun
    exact .inl ⟨hs, rfl, rfl⟩
  · rw [hrun]
    exact .inr ⟨by simpa using hs, rfl, rfl⟩

/-- A stop waiting for a start goes on once the start no longer arms. -/
theorem Call.step_stopAwaitArming {a : AfterStop}
    (h : Call.step e s (.stopAwaitArming a) p = some (r, q)) :
    p.ctl.arming = false ∧ r = Caller.after ((stopUnlessIdle a).run' p).1 ∧
      q = ((stopUnlessIdle a).run' p).2 := by
  obtain ⟨hr, res, hrun, rfl⟩ := Call.step_eq_some.1 h
  simp only [Call.ready, Bool.not_eq_true'] at hr
  simp only [Call.act] at hrun
  rw [hrun]
  exact ⟨hr, rfl, rfl⟩

/-- A stop aborts the frame wait of run `n`, and ends if the run is over or waits for it
otherwise. -/
theorem Call.step_stopAbort {a : AfterStop} {n : Nat}
    (h : Call.step e s (.stopAbort a n) p = some (r, q)) :
    q = { p with sim := p.sim.abortWait.2 } ∧
      ((n ≤ p.ctl.completedSession ∧ r = Caller.after ((afterStop a (.ok ())).run' q).1) ∨
        (p.ctl.completedSession < n ∧ r = .busy (.stopPause a n))) := by
  obtain ⟨-, res, hrun, rfl⟩ := Call.step_eq_some.1 h
  simp only [Call.act, Act.run'_bind, run'_attempt, run'_getCtl, Act.andThen_ok,
    Act.run'_ite, Act.run'_pure] at hrun
  split_ifs at hrun with hs
  · have hq := congrArg Prod.snd hrun
    simp only [afterStop_plant] at hq
    subst hq
    exact ⟨rfl, .inl ⟨hs, by rw [hrun]⟩⟩
  · obtain ⟨rfl, rfl⟩ := Prod.mk.inj hrun
    exact ⟨rfl, .inr ⟨by omega, rfl⟩⟩

/-- A stop's pause ends when it expires, when the run is over or when the worker ended. -/
theorem Call.step_stopPause {a : AfterStop} {n : Nat}
    (h : Call.step e s (.stopPause a n) p = some (r, q)) :
    (e = true ∨ n ≤ p.ctl.completedSession ∨ p.ctl.workerExited = true) ∧
      r = Caller.after ((stopLoop a n).run' p).1 ∧ q = ((stopLoop a n).run' p).2 := by
  obtain ⟨hr, res, hrun, rfl⟩ := Call.step_eq_some.1 h
  simp only [Call.ready, Bool.or_eq_true, decide_eq_true_eq, or_assoc] at hr
  simp only [Call.act] at hrun
  rw [hrun]
  exact ⟨hr, rfl, rfl⟩

/-- A reset forces the status ready and returns. -/
theorem Call.step_resetForce (h : Call.step e s .resetForce p = some (r, q)) :
    r = .returned (.ok ()) ∧ q = { p with ctl := { p.ctl with status := .ready } } := by
  obtain ⟨-, res, hrun, rfl⟩ := Call.step_eq_some.1 h
  obtain ⟨rfl, rfl⟩ := Prod.mk.inj hrun
  exact ⟨rfl, rfl⟩

/-- A drop tells the worker to end and asks for a stop. -/
theorem Call.step_dropQuit (h : Call.step e s .dropQuit p = some (r, q)) :
    r = .busy .dropJoin ∧
      q = { p with ctl := { p.ctl with quit := true, stopRequested := true } } := by
  obtain ⟨-, res, hrun, rfl⟩ := Call.step_eq_some.1 h
  obtain ⟨rfl, rfl⟩ := Prod.mk.inj hrun
  exact ⟨rfl, rfl⟩

/-- A drop waits until the worker has ended. -/
theorem Call.step_dropJoin (h : Call.step e s .dropJoin p = some (r, q)) :
    p.worker = .exited ∧ r = .busy .dropRelease ∧ q = p := by
  obtain ⟨hr, res, hrun, rfl⟩ := Call.step_eq_some.1 h
  obtain ⟨rfl, rfl⟩ := Prod.mk.inj hrun
  refine ⟨?_, rfl, rfl⟩
  simp only [Call.ready] at hr
  split at hr <;> simp_all

/-- The last step of a drop gives back a prepared frame and returns. -/
theorem Call.step_dropRelease (h : Call.step e s .dropRelease p = some (r, q)) :
    r = .returned (.ok ()) ∧
      q = { p with ctl := { p.ctl with frame := none },
                   sim := if p.ctl.frame.isSome then p.sim.bufRelease.2 else p.sim } := by
  obtain ⟨-, res, hrun, rfl⟩ := Call.step_eq_some.1 h
  simp only [Call.act, Act.run'_bind, run'_getCtl, Act.andThen_ok, run'_modifyCtl,
    Act.run'_ite, run'_attempt, Act.run'_pure] at hrun
  split_ifs at hrun with hf <;> obtain ⟨rfl, rfl⟩ := Prod.mk.inj hrun <;> simp [hf]

/-- A region change is refused while a run is under way, and otherwise gives back a prepared
frame and goes on to program the region. -/
theorem Call.step_setRoi {attr : Sdk.RoiAttr} (h : Call.step e s (.setRoi attr) p = some (r, q)) :
    (p.ctl.isActive = true ∧ r = .returned (.error (.busy "acquisition running")) ∧ q = p) ∨
    (p.ctl.isActive = false ∧ (r = .busy (.programRoi attr) ∨ ∃ err, r = .returned (.error err)) ∧
      q = if p.ctl.frame.isSome then
            { p with ctl := { p.ctl with frame := none }, sim := p.sim.bufRelease.2 }
          else p) := by
  obtain ⟨-, res, hrun, rfl⟩ := Call.step_eq_some.1 h
  simp only [Call.act, Act.run'_bind] at hrun
  rcases hp : releaseBuffer.run' p with ⟨res', q'⟩
  rw [hp] at hrun
  rcases releaseBuffer_cases hp with ⟨ha, rfl, rfl⟩ | ⟨ha, rfl⟩
  · obtain ⟨rfl, rfl⟩ := Prod.mk.inj hrun
    exact .inl ⟨ha, rfl, rfl⟩
  · cases res' <;> obtain ⟨rfl, rfl⟩ := Prod.mk.inj hrun
    · exact .inr ⟨ha, .inr ⟨_, rfl⟩, rfl⟩
    · exact .inr ⟨ha, .inl rfl, rfl⟩

/-- A region change programs the region in the camera and returns its answer. -/
theorem Call.step_programRoi {attr : Sdk.RoiAttr}
    (h : Call.step e s (.programRoi attr) p = some (r, q)) :
    r = .returned ((p.sim.setRoi attr).1.mapError .ofCall) ∧
      q = { p with sim := (p.sim.setRoi attr).2 } := by
  obtain ⟨-, res, hrun, rfl⟩ := Call.step_eq_some.1 h
  simp only [Call.act, Act.run'_bind, run'_call] at hrun
  rcases hc : (p.sim.setRoi attr).1 with err | u <;>
    simp only [hc, Except.mapError, Act.andThen_ok, Act.andThen_error] at hrun <;>
    obtain ⟨rfl, rfl⟩ := Prod.mk.inj hrun <;> simp [Except.mapError]

/-- A host call's step leaves the worker and every host thread where they stand: only the
caller's own point moves, by `Transition.call`. -/
theorem Call.step_frame {c : Call} (h : Call.step e s c p = some (r, q)) :
    q.worker = p.worker ∧ q.callers = p.callers := by
  cases c with
  | prepare =>
    rcases Call.step_prepare h with ⟨-, -, rfl⟩ | ⟨-, -, sim, cold, f, rfl, -⟩ <;> exact ⟨rfl, rfl⟩
  | releaseBuffer =>
    rcases Call.step_releaseBuffer h with ⟨-, -, rfl⟩ | ⟨-, -, rfl⟩
    · exact ⟨rfl, rfl⟩
    · split <;> exact ⟨rfl, rfl⟩
  | setRoi attr =>
    rcases Call.step_setRoi h with ⟨-, -, rfl⟩ | ⟨-, -, rfl⟩
    · exact ⟨rfl, rfl⟩
    · split <;> exact ⟨rfl, rfl⟩
  | update f => obtain ⟨-, rfl⟩ := Call.step_update h; exact ⟨rfl, rfl⟩
  | start =>
    rcases Call.step_start h with ⟨-, -, -, -, -, rfl⟩ | ⟨-, rfl⟩ <;> exact ⟨rfl, rfl⟩
  | armCapture params => obtain ⟨rfl, -⟩ := Call.step_armCapture h; exact ⟨rfl, rfl⟩
  | settling params => obtain ⟨-, rfl, -⟩ := Call.step_settling h; exact ⟨rfl, rfl⟩
  | armTimer params =>
    rcases Call.step_armTimer h with ⟨-, rfl, -⟩ | ⟨-, -, rfl, -⟩ | ⟨-, -, -, rfl, -⟩ <;>
      exact ⟨rfl, rfl⟩
  | handOver t =>
    rcases Call.step_handOver h with ⟨-, -, rfl⟩ | ⟨-, rfl, -⟩ <;> exact ⟨rfl, rfl⟩
  | awaitAck n => obtain ⟨rfl, -⟩ := Call.step_awaitAck h; exact ⟨rfl, rfl⟩
  | cancelling t st =>
    rcases Call.step_cancelling h with ⟨-, rfl, -⟩ | ⟨-, -, rfl, -⟩ | ⟨-, rfl, -⟩ | ⟨-, -, rfl⟩
    · cases t <;> exact ⟨rfl, rfl⟩
    all_goals exact ⟨rfl, rfl⟩
  | failArming err => obtain ⟨-, rfl⟩ := Call.step_failArming h; exact ⟨rfl, rfl⟩
  | stop a =>
    rcases Call.step_stop h with ⟨-, -, rfl⟩ | ⟨-, -, rfl⟩
    · exact ⟨rfl, rfl⟩
    · rw [stopUnlessIdle_plant]
      split <;> exact ⟨rfl, rfl⟩
  | stopAwaitArming a =>
    obtain ⟨-, -, rfl⟩ := Call.step_stopAwaitArming h
    rw [stopUnlessIdle_plant]
    split <;> exact ⟨rfl, rfl⟩
  | stopAbort a n => obtain ⟨rfl, -⟩ := Call.step_stopAbort h; exact ⟨rfl, rfl⟩
  | stopPause a n =>
    obtain ⟨-, -, rfl⟩ := Call.step_stopPause h
    rw [stopLoop_plant]
    exact ⟨rfl, rfl⟩
  | resetForce => obtain ⟨-, rfl⟩ := Call.step_resetForce h; exact ⟨rfl, rfl⟩
  | dropQuit => obtain ⟨-, rfl⟩ := Call.step_dropQuit h; exact ⟨rfl, rfl⟩
  | dropJoin => obtain ⟨-, -, rfl⟩ := Call.step_dropJoin h; exact ⟨rfl, rfl⟩
  | dropRelease => obtain ⟨-, rfl⟩ := Call.step_dropRelease h; exact ⟨rfl, rfl⟩
  | programRoi attr => obtain ⟨-, rfl⟩ := Call.step_programRoi h; exact ⟨rfl, rfl⟩

end Acquisition

/-! ## The worker and the trigger threads -/

namespace Plant

variable (p : Plant)

/-- Moving the worker keeps the controller. -/
@[simp] theorem setWorker_ctl (w : Worker) : (p.setWorker w).ctl = p.ctl := rfl
/-- Moving the worker puts it where it is moved to. -/
@[simp] theorem setWorker_worker (w : Worker) : (p.setWorker w).worker = w := rfl
/-- Moving the worker keeps the trigger threads. -/
@[simp] theorem setWorker_timers (w : Worker) : (p.setWorker w).timers = p.timers := rfl
/-- Moving the worker keeps the host threads. -/
@[simp] theorem setWorker_callers (w : Worker) : (p.setWorker w).callers = p.callers := rfl
/-- Moving the worker keeps the camera. -/
@[simp] theorem setWorker_sim (w : Worker) : (p.setWorker w).sim = p.sim := rfl
/-- Moving the worker keeps the host. -/
@[simp] theorem setWorker_host (w : Worker) : (p.setWorker w).host = p.host := rfl

/-- Setting the status changes the status alone, by the status's rule for a change. -/
@[simp] theorem withStatus_ctl (st : Status) :
    (p.withStatus st).ctl = { p.ctl with status := p.ctl.status.set st } := rfl
/-- Setting the status keeps the worker. -/
@[simp] theorem withStatus_worker (st : Status) : (p.withStatus st).worker = p.worker := rfl
/-- Setting the status keeps the trigger threads. -/
@[simp] theorem withStatus_timers (st : Status) : (p.withStatus st).timers = p.timers := rfl
/-- Setting the status keeps the host threads. -/
@[simp] theorem withStatus_callers (st : Status) : (p.withStatus st).callers = p.callers := rfl
/-- Setting the status keeps the camera. -/
@[simp] theorem withStatus_sim (st : Status) : (p.withStatus st).sim = p.sim := rfl
/-- Setting the status keeps the host. -/
@[simp] theorem withStatus_host (st : Status) : (p.withStatus st).host = p.host := rfl

/-- Changing a trigger thread keeps the controller. -/
@[simp] theorem modifyTimer_ctl (i : Nat) (f : Timer → Timer) :
    (p.modifyTimer i f).ctl = p.ctl := rfl
/-- Changing a trigger thread keeps the worker. -/
@[simp] theorem modifyTimer_worker (i : Nat) (f : Timer → Timer) :
    (p.modifyTimer i f).worker = p.worker := rfl
/-- Changing a trigger thread changes that thread alone. -/
@[simp] theorem modifyTimer_timers (i : Nat) (f : Timer → Timer) :
    (p.modifyTimer i f).timers = p.timers.modify i f := rfl
/-- Changing a trigger thread keeps the host threads. -/
@[simp] theorem modifyTimer_callers (i : Nat) (f : Timer → Timer) :
    (p.modifyTimer i f).callers = p.callers := rfl
/-- Changing a trigger thread keeps the camera. -/
@[simp] theorem modifyTimer_sim (i : Nat) (f : Timer → Timer) :
    (p.modifyTimer i f).sim = p.sim := rfl
/-- Changing a trigger thread keeps the host. -/
@[simp] theorem modifyTimer_host (i : Nat) (f : Timer → Timer) :
    (p.modifyTimer i f).host = p.host := rfl

end Plant

section Teardown

variable (p : Plant)

/-- Signalling a trigger thread keeps the controller. -/
@[simp] theorem signalTimer_ctl (t : Option Nat) : (signalTimer t p).ctl = p.ctl := by
  cases t <;> rfl
/-- Signalling a trigger thread keeps the worker. -/
@[simp] theorem signalTimer_worker (t : Option Nat) : (signalTimer t p).worker = p.worker := by
  cases t <;> rfl
/-- Signalling a trigger thread keeps the host threads. -/
@[simp] theorem signalTimer_callers (t : Option Nat) :
    (signalTimer t p).callers = p.callers := by
  cases t <;> rfl
/-- Signalling a trigger thread keeps the camera. -/
@[simp] theorem signalTimer_sim (t : Option Nat) : (signalTimer t p).sim = p.sim := by
  cases t <;> rfl
/-- Signalling a trigger thread keeps the host. -/
@[simp] theorem signalTimer_host (t : Option Nat) : (signalTimer t p).host = p.host := by
  cases t <;> rfl

/-- Stopping the capture keeps the controller. -/
@[simp] theorem stopCapture_ctl (rel : Bool) : (stopCapture rel p).ctl = p.ctl := rfl
/-- Stopping the capture keeps the worker. -/
@[simp] theorem stopCapture_worker (rel : Bool) : (stopCapture rel p).worker = p.worker := rfl
/-- Stopping the capture keeps the trigger threads. -/
@[simp] theorem stopCapture_timers (rel : Bool) : (stopCapture rel p).timers = p.timers := rfl
/-- Stopping the capture keeps the host threads. -/
@[simp] theorem stopCapture_callers (rel : Bool) : (stopCapture rel p).callers = p.callers := rfl
/-- Stopping the capture keeps the host. -/
@[simp] theorem stopCapture_host (rel : Bool) : (stopCapture rel p).host = p.host := rfl

end Teardown

section PickUp

variable (p : Plant) (run : Run) (o : RunEnd)

/-- The worker's pick-up of a run marks it running and acknowledged, and takes the prepared frame
and the trigger thread from the controller. -/
@[simp] theorem pickUp_ctl : (pickUp p).ctl =
    { p.ctl with running := true, ackedSession := p.ctl.session, frame := none, timer := none } :=
  rfl
/-- The worker picks a run up into its frame loop with the prepared frame, and tears it down in
fault if no frame is prepared. -/
theorem pickUp_worker : (pickUp p).worker = match p.ctl.frame with
    | some f => .acquiring ⟨p.ctl.session, p.ctl.timer, p.ctl.params⟩ f 0 .top
    | none => .ending ⟨p.ctl.session, p.ctl.timer, p.ctl.params⟩ .fault false .signal := rfl
/-- The pick-up keeps the trigger threads. -/
@[simp] theorem pickUp_timers : (pickUp p).timers = p.timers := rfl
/-- The pick-up keeps the host threads. -/
@[simp] theorem pickUp_callers : (pickUp p).callers = p.callers := rfl
/-- The pick-up keeps the camera. -/
@[simp] theorem pickUp_sim : (pickUp p).sim = p.sim := rfl
/-- The pick-up keeps the host. -/
@[simp] theorem pickUp_host : (pickUp p).host = p.host := rfl

/-- The record of a run's end clears the run flags, sets the status by the outcome, and completes
the run. -/
@[simp] theorem recordEnd_ctl : (recordEnd run o p).ctl =
    { p.ctl with running := false, runRequested := false, stopRequested := false,
                 status := if o = .fault then .fault else p.ctl.status.set .ready,
                 completedSession := run.session,
                 workerExited := p.ctl.workerExited || p.ctl.quit } := by
  unfold recordEnd
  by_cases hq : p.ctl.quit <;> simp [hq]
/-- After the record of a run's end the worker waits for the next run, or ends if told to. -/
@[simp] theorem recordEnd_worker :
    (recordEnd run o p).worker = if p.ctl.quit then .exited else .idle := by
  unfold recordEnd
  by_cases hq : p.ctl.quit <;> simp [hq]
/-- The record of a run's end keeps the trigger threads. -/
@[simp] theorem recordEnd_timers : (recordEnd run o p).timers = p.timers := by
  unfold recordEnd
  by_cases hq : p.ctl.quit <;> simp [hq]
/-- The record of a run's end keeps the host threads. -/
@[simp] theorem recordEnd_callers : (recordEnd run o p).callers = p.callers := by
  unfold recordEnd
  by_cases hq : p.ctl.quit <;> simp [hq]
/-- The record of a run's end keeps the camera. -/
@[simp] theorem recordEnd_sim : (recordEnd run o p).sim = p.sim := by
  unfold recordEnd
  by_cases hq : p.ctl.quit <;> simp [hq]
/-- The record of a run's end keeps the host. -/
@[simp] theorem recordEnd_host : (recordEnd run o p).host = p.host := by
  unfold recordEnd
  by_cases hq : p.ctl.quit <;> simp [hq]

end PickUp

/-- After a frame the frame loop stops when the host said so, pauses for the latency when a next
frame is due, and goes back to its top otherwise. -/
theorem afterFrame_eq {run : Run} {f : Sdk.Frame} {k : Nat} {kg : Bool} {p : Plant} :
    afterFrame run f k kg p =
      if kg = false then p.setWorker (.ending run .hostStopped true .signal)
      else if run.params.latTime > 0.0 ∧
          (run.params.nbFrames = 0 ∨ k + 1 < run.params.nbFrames) then
        (p.withStatus .latency).setWorker (.acquiring run f 0 .latency)
      else p.setWorker (.acquiring run f 0 .top) := by
  simp only [afterFrame]
  split_ifs <;> simp_all

/-- A frame copied to the host buffer of its number, counted and announced; the listener
holds the worker or it goes on after the frame. -/
theorem received_eq {run : Run} {f : Sdk.Frame} {k : Nat} {p : Plant} :
    received run f k p =
      let host :=
        { p.host with ring := p.host.ring.write k (f.imagePrefix (p.host.ring.slot k).size) }
      let p' := { p with host := (host.announce k).1,
                         ctl := { p.ctl with status := p.ctl.status.set .readout,
                                             frameCount := k + 1 } }
      if (host.announce k).2.holds then
        p'.setWorker (.acquiring run f 0 (.holding k (host.announce k).2.keepGoing))
      else afterFrame run f k (host.announce k).2.keepGoing p' := rfl

/-- A teardown that starts after the host heard of a frame is a stop by the host. -/
theorem afterFrame_ending {run run' : Run} {f : Sdk.Frame} {k : Nat} {kg : Bool} {p : Plant}
    {o : RunEnd} {rel : Bool} {st : Teardown}
    (h : (afterFrame run f k kg p).worker = .ending run' o rel st) : o = .hostStopped := by
  rw [afterFrame_eq] at h
  split_ifs at h
  · simp only [Plant.setWorker_worker, Worker.ending.injEq] at h
    exact h.2.1.symm
  · simp at h
  · simp at h

/-- A teardown that starts at a frame received is a stop by the host. -/
theorem received_ending {run run' : Run} {f : Sdk.Frame} {k : Nat} {p : Plant} {o : RunEnd}
    {rel : Bool} {st : Teardown} (h : (received run f k p).worker = .ending run' o rel st) :
    o = .hostStopped := by
  rw [received_eq] at h
  dsimp only at h
  split_ifs at h
  · simp at h
  · exact afterFrame_ending h

/-- What follows a frame keeps the camera. -/
@[simp] theorem afterFrame_sim {run : Run} {f : Sdk.Frame} {k : Nat} {kg : Bool} {p : Plant} :
    (afterFrame run f k kg p).sim = p.sim := by
  rw [afterFrame_eq]
  split_ifs <;> rfl

/-- A frame received keeps the camera. -/
@[simp] theorem received_sim {run : Run} {f : Sdk.Frame} {k : Nat} {p : Plant} :
    (received run f k p).sim = p.sim := by
  rw [received_eq]
  dsimp only
  split_ifs <;> simp

/-- The frame a place of the frame loop waits for: none outside a wait. -/
def Spot.awaited : Spot → Option Nat
  | .waiting k | .paused k _ => some k
  | _ => none

/-- How far the wait of the frame loop at `spot` gets in the worker's next step, with the number
of the frame it waits for: none outside a wait, and none while the wait stays paused. -/
def Spot.waitMove (pat : Bool) (f : Sdk.Frame) (s : Sdk.Simulator) :
    Spot → Option (Nat × Sdk.Progress × Sdk.Simulator)
  | .waiting k => some (k, s.beginWait)
  | .paused k pause => if s.stillPaused pat pause then none else some (k, s.wake pause true f)
  | _ => none

/-- Whether a place of the frame loop is a wait paused past the software-trigger loop. -/
def Spot.pastTrigger : Spot → Bool
  | .paused _ pause => pause.pastTrigger
  | _ => false

/-- A wait that moves is the wait for the frame it names. -/
theorem Spot.awaited_of_waitMove {spot : Spot} {pat : Bool} {f : Sdk.Frame} {s : Sdk.Simulator}
    {k : Nat} {pr : Sdk.Progress × Sdk.Simulator} (h : spot.waitMove pat f s = some (k, pr)) :
    spot.awaited = some k := by
  cases spot <;> simp only [Spot.waitMove, reduceCtorEq] at h
  · obtain ⟨rfl, -⟩ := Prod.mk.inj (Option.some.inj h)
    rfl
  · split_ifs at h
    obtain ⟨rfl, -⟩ := Prod.mk.inj (Option.some.inj h)
    rfl

section WaitMove

variable {spot : Spot} {pat : Bool} {f : Sdk.Frame} {s : Sdk.Simulator} {k : Nat}
  {pr : Sdk.Progress × Sdk.Simulator}

/-- A move of a wait writes of the camera only what a frame wait writes. -/
theorem Spot.waitsFrom_waitMove (h : spot.waitMove pat f s = some (k, pr)) : s.WaitsFrom pr.2 := by
  cases spot <;> simp only [Spot.waitMove, reduceCtorEq] at h
  · obtain ⟨-, rfl⟩ := Prod.mk.inj (Option.some.inj h)
    exact Sdk.Simulator.waitsFrom_beginWait s
  · split_ifs at h
    obtain ⟨-, rfl⟩ := Prod.mk.inj (Option.some.inj h)
    exact Sdk.Simulator.waitsFrom_wake s _ _ f

/-- A move of a wait counts a frame exactly when it returns one. -/
theorem Spot.frames_waitMove (h : spot.waitMove pat f s = some (k, pr)) :
    pr.2.stats.frames = s.stats.frames + pr.1.delivers.toNat := by
  cases spot <;> simp only [Spot.waitMove, reduceCtorEq] at h
  · obtain ⟨-, rfl⟩ := Prod.mk.inj (Option.some.inj h)
    obtain ⟨hd, hf⟩ := Sdk.Simulator.beginWait_frames s
    rw [hd, hf]
    rfl
  · split_ifs at h
    obtain ⟨-, rfl⟩ := Prod.mk.inj (Option.some.inj h)
    exact Sdk.Simulator.wake_frames s _ _ f

/-- On a camera in software trigger mode, a move of a wait takes a pending trigger only on its
way past the trigger loop, and has none to give back once past it. -/
theorem Spot.triggers_waitMove (hc : s.capture = some .triggerSoftware)
    (h : spot.waitMove pat f s = some (k, pr)) :
    pr.2.pendingTriggers + pr.1.pastTrigger.toNat + pr.1.delivers.toNat ≤
      s.pendingTriggers + spot.pastTrigger.toNat := by
  cases spot <;> simp only [Spot.waitMove, reduceCtorEq] at h
  · obtain ⟨-, rfl⟩ := Prod.mk.inj (Option.some.inj h)
    simpa [Spot.pastTrigger] using Sdk.Simulator.beginWait_triggers hc
  · split_ifs at h
    obtain ⟨-, rfl⟩ := Prod.mk.inj (Option.some.inj h)
    exact Sdk.Simulator.wake_triggers s _ _ f

end WaitMove

namespace Worker

variable {p q : Plant} {pat : Bool} {run : Run} {f : Sdk.Frame} {n : Nat}

/-- An idle worker picks up a run requested, or ends when told to. -/
theorem step_idle (hw : p.worker = .idle) (h : Worker.step pat p = some q) :
    (p.ctl.runRequested = true ∧ q = pickUp p) ∨
    (p.ctl.runRequested = false ∧ p.ctl.quit = true ∧
      q = { p with ctl := { p.ctl with workerExited := true }, worker := .exited }) := by
  simp only [Worker.step, hw] at h
  split_ifs at h with hr hq
  · exact .inl ⟨hr, (Option.some.inj h).symm⟩
  · exact .inr ⟨by simpa using hr, hq, (Option.some.inj h).symm⟩

/-- The worker in its frame loop takes the loop's step. -/
theorem step_acquiring {spot : Spot} (hw : p.worker = .acquiring run f n spot)
    (h : Worker.step pat p = some q) : acquireStep pat run f n spot p = some q := by
  simpa only [Worker.step, hw] using h

/-- The worker tearing a run down takes the teardown's step. -/
theorem step_ending {o : RunEnd} {rel : Bool} {st : Teardown} (hw : p.worker = .ending run o rel st)
    (h : Worker.step pat p = some q) : endStep run o rel st p = some q := by
  simpa only [Worker.step, hw] using h

/-- An ended worker takes no step. -/
theorem step_exited (hw : p.worker = .exited) : Worker.step pat p = none := by
  simp [Worker.step, hw]

/-- At the top of its frame loop the worker stops for a stop requested, ends the run at its frame
target, and waits for the next frame otherwise. -/
theorem acquireStep_top (h : acquireStep pat run f n .top p = some q) :
    (p.ctl.stopRequested = true ∧ q = p.setWorker (.ending run .stopped true .signal)) ∨
    (p.ctl.stopRequested = false ∧ 0 < run.params.nbFrames ∧
      run.params.nbFrames ≤ p.ctl.frameCount ∧
      q = p.setWorker (.ending run .targetReached true .signal)) ∨
    (p.ctl.stopRequested = false ∧
      ¬(0 < run.params.nbFrames ∧ run.params.nbFrames ≤ p.ctl.frameCount) ∧
      q = (p.withStatus .exposure).setWorker (.acquiring run f n (.waiting p.ctl.frameCount))) := by
  simp only [acquireStep] at h
  split_ifs at h with hs ht <;> obtain rfl := (Option.some.inj h).symm
  · exact .inl ⟨hs, rfl⟩
  · simp only [Bool.and_eq_true, decide_eq_true_eq] at ht
    exact .inr (.inl ⟨by simpa using hs, ht.1, ht.2, rfl⟩)
  · simp only [Bool.and_eq_true, decide_eq_true_eq] at ht
    exact .inr (.inr ⟨by simpa using hs, ht, rfl⟩)

/-- The frame loop's step at a wait moves the wait as `Spot.waitMove` says. -/
theorem acquireStep_wait {spot : Spot} {k : Nat} {pr : Sdk.Progress × Sdk.Simulator}
    (hm : spot.waitMove pat f p.sim = some (k, pr)) :
    acquireStep pat run f n spot p = waitProgress run f n k pr p := by
  cases spot with
  | waiting k' =>
    obtain ⟨rfl, rfl⟩ := Prod.mk.inj (Option.some.inj hm)
    rfl
  | paused k' pause =>
    simp only [Spot.waitMove] at hm
    split_ifs at hm with hp
    obtain ⟨rfl, rfl⟩ := Prod.mk.inj (Option.some.inj hm)
    simp [acquireStep, hp]
  | _ => simp [Spot.waitMove] at hm

/-- A step of the frame loop in its wait for frame `k` is a move of the wait. -/
theorem acquireStep_waits {spot : Spot} {k : Nat} (hk : spot.awaited = some k)
    (h : acquireStep pat run f n spot p = some q) :
    ∃ pr, spot.waitMove pat f p.sim = some (k, pr) ∧ waitProgress run f n k pr p = some q := by
  cases spot with
  | waiting k' =>
    obtain rfl : k' = k := Option.some.inj hk
    exact ⟨_, rfl, h⟩
  | paused k' pause =>
    obtain rfl : k' = k := Option.some.inj hk
    simp only [acquireStep] at h
    split_ifs at h with hp
    exact ⟨_, by simp [Spot.waitMove, hp], h⟩
  | _ => simp [Spot.awaited] at hk

/-- Where a move of the wait for frame `k` leaves the frame loop: a frame is received, an abort
goes back to the top, another failure is counted and at a positive limit ends the run in fault,
and a pause waits on with the lock released. -/
theorem waitProgress_cases {k : Nat} {pr : Sdk.Progress × Sdk.Simulator}
    (h : waitProgress run f n k pr p = some q) :
    let p' := { p with sim := pr.2 }
    (∃ g, pr.1 = .returned (.captured g) ∧ q = received run g k p') ∨
    (∃ err, pr.1 = .returned (.failed err) ∧ err.isAbort = true ∧
      q = p'.setWorker (.acquiring run f n .top)) ∨
    (∃ err, pr.1 = .returned (.failed err) ∧ err.isAbort = false ∧
      0 < p.ctl.timings.maxConsecutiveWaitFailures ∧
      p.ctl.timings.maxConsecutiveWaitFailures ≤ n + 1 ∧
      q = p'.setWorker (.ending run .fault true .signal)) ∨
    (∃ err, pr.1 = .returned (.failed err) ∧ err.isAbort = false ∧
      ¬(0 < p.ctl.timings.maxConsecutiveWaitFailures ∧
        p.ctl.timings.maxConsecutiveWaitFailures ≤ n + 1) ∧
      q = p'.setWorker (.acquiring run f (n + 1) .top)) ∨
    (∃ pause, pr.1 = .paused pause ∧
      q = p'.setWorker (.acquiring run f n (.paused k pause))) := by
  obtain ⟨pg, s⟩ := pr
  simp only [waitProgress] at h
  rcases pg with ((g | err | _ | _) | pause) <;> simp only [waitAnswer] at h
  · exact .inl ⟨g, rfl, (Option.some.inj h).symm⟩
  · split_ifs at h with ha hl <;> obtain rfl := (Option.some.inj h).symm
    · exact .inr (.inl ⟨err, rfl, ha, rfl⟩)
    · simp only [Bool.and_eq_true, decide_eq_true_eq] at hl
      exact .inr (.inr (.inl ⟨err, rfl, by simpa using ha, hl.1, hl.2, rfl⟩))
    · simp only [Bool.and_eq_true, decide_eq_true_eq] at hl
      exact .inr (.inr (.inr (.inl ⟨err, rfl, by simpa using ha, hl, rfl⟩)))
  · cases h
  · cases h
  · exact .inr (.inr (.inr (.inr ⟨pause, rfl, (Option.some.inj h).symm⟩)))

/-- After a move of its wait the frame loop has the camera the move left. -/
theorem waitProgress_sim {k : Nat} {pr : Sdk.Progress × Sdk.Simulator}
    (h : waitProgress run f n k pr p = some q) : q.sim = pr.2 := by
  rcases waitProgress_cases h with ⟨g, -, rfl⟩ | ⟨err, -, -, rfl⟩ | ⟨err, -, -, -, -, rfl⟩ |
    ⟨err, -, -, -, rfl⟩ | ⟨pause, -, rfl⟩ <;> simp

/-- After its latency pause the frame loop goes back to its top. -/
theorem acquireStep_latency (h : acquireStep pat run f n .latency p = some q) :
    q = p.setWorker (.acquiring run f n .top) := by
  simp only [acquireStep] at h
  split_ifs at h
  exact (Option.some.inj h).symm

/-- A frame loop held by the host goes on after the frame once the host's gate opens. -/
theorem acquireStep_holding {k : Nat} {kg : Bool}
    (h : acquireStep pat run f n (.holding k kg) p = some q) :
    p.host.gateOpen = true ∧ q = afterFrame run f k kg p := by
  simp only [acquireStep] at h
  split_ifs at h with hg
  exact ⟨hg, (Option.some.inj h).symm⟩

/-- A step of the frame loop writes of the camera only what a frame wait writes. -/
theorem acquireStep_waitsFrom {spot : Spot} (h : acquireStep pat run f n spot p = some q) :
    p.sim.WaitsFrom q.sim := by
  cases spot with
  | top =>
    rcases acquireStep_top h with ⟨-, rfl⟩ | ⟨-, -, -, rfl⟩ | ⟨-, -, rfl⟩ <;>
      exact Sdk.Simulator.WaitsFrom.refl _
  | waiting k | paused k _ =>
    obtain ⟨pr, hm, hq⟩ := acquireStep_waits rfl h
    rw [waitProgress_sim hq]
    exact Spot.waitsFrom_waitMove hm
  | latency =>
    rw [acquireStep_latency h]
    exact Sdk.Simulator.WaitsFrom.refl _
  | holding k kg =>
    obtain ⟨-, rfl⟩ := acquireStep_holding h
    rw [afterFrame_sim]
    exact Sdk.Simulator.WaitsFrom.refl _

/-- A teardown signals the run's trigger thread, waits for it, stops the capture with the frame
released or kept, and records the end. -/
theorem endStep_eq {o : RunEnd} {rel : Bool} {st : Teardown}
    (h : endStep run o rel st p = some q) :
    (st = .signal ∧ q = (signalTimer run.timer p).setWorker (.ending run o rel .join)) ∨
    (st = .join ∧ p.timerEnded run.timer = true ∧
      q = p.setWorker (.ending run o rel .stopCapture)) ∨
    (st = .stopCapture ∧ q = (stopCapture rel p).setWorker (.ending run o rel .record)) ∨
    (st = .record ∧ q = recordEnd run o p) := by
  cases st <;> simp only [endStep] at h
  · exact .inl ⟨rfl, (Option.some.inj h).symm⟩
  · split_ifs at h with hj
    exact .inr (.inl ⟨rfl, hj, (Option.some.inj h).symm⟩)
  · exact .inr (.inr (.inl ⟨rfl, (Option.some.inj h).symm⟩))
  · exact .inr (.inr (.inr ⟨rfl, (Option.some.inj h).symm⟩))

/-- A step of a teardown keeps its run, its outcome and whether the frame goes back. -/
theorem endStep_ending {o : RunEnd} {rel : Bool} {st : Teardown}
    (h : endStep run o rel st p = some q) {run' : Run} {o' : RunEnd} {rel' : Bool} {st' : Teardown}
    (hq : q.worker = .ending run' o' rel' st') : run' = run ∧ o' = o ∧ rel' = rel := by
  rcases endStep_eq h with ⟨-, rfl⟩ | ⟨-, -, rfl⟩ | ⟨-, rfl⟩ | ⟨-, rfl⟩
  case inr.inr.inr =>
    -- recording the end leaves the worker waiting or ended
    by_cases hquit : p.ctl.quit <;> simp [hquit] at hq
  -- the other stages move the teardown on
  all_goals
    simp only [Plant.setWorker_worker, Worker.ending.injEq] at hq
    exact ⟨hq.1.symm, hq.2.1.symm, hq.2.2.1.symm⟩

/-- A step of the frame loop changes of the controller only the status and the frame count;
the worker stays in its run, or starts its teardown with the frame to release. -/
theorem acquireStep_frame {spot : Spot} (h : acquireStep pat run f n spot p = some q) :
    q.ctl = { p.ctl with status := q.ctl.status, frameCount := q.ctl.frameCount } ∧
    q.callers = p.callers ∧ q.timers = p.timers ∧
    ((∃ f' n' spot', q.worker = .acquiring run f' n' spot') ∨
      (∃ o, q.worker = .ending run o true .signal)) := by
  -- what the worker does once the host heard of a frame
  have after : ∀ (p : Plant) (g : Sdk.Frame) (k : Nat) (kg : Bool),
      let q := afterFrame run g k kg p
      q.ctl = { p.ctl with status := q.ctl.status } ∧ q.callers = p.callers ∧
        q.timers = p.timers ∧
        ((∃ f' n' spot', q.worker = .acquiring run f' n' spot') ∨
          (∃ o, q.worker = .ending run o true .signal)) := by
    intro p g k kg
    rw [afterFrame_eq]
    split_ifs <;> simp
  cases spot with
  | top =>
    rcases acquireStep_top h with ⟨-, rfl⟩ | ⟨-, -, -, rfl⟩ | ⟨-, -, rfl⟩ <;> simp
  | waiting k | paused k _ =>
    obtain ⟨pr, -, hq⟩ := acquireStep_waits rfl h
    rcases waitProgress_cases hq with ⟨g, -, rfl⟩ | ⟨err, -, -, rfl⟩ |
      ⟨err, -, -, -, -, rfl⟩ | ⟨err, -, -, -, rfl⟩ | ⟨pause, -, rfl⟩
    · rw [received_eq]
      dsimp only
      split_ifs
      · simp
      · obtain ⟨hc, hcl, ht, hw⟩ := after _ g k _
        refine ⟨?_, hcl, ht, hw⟩
        rw [hc]
    all_goals simp
  | latency =>
    rw [acquireStep_latency h]
    simp
  | holding k kg =>
    obtain ⟨-, rfl⟩ := acquireStep_holding h
    obtain ⟨hc, hcl, ht, hw⟩ := after p f k kg
    exact ⟨by rw [hc], hcl, ht, hw⟩

/-- Within a run the worker writes the status only by plain changes to statuses other than
fault. -/
theorem acquireStep_status {spot : Spot} (h : acquireStep pat run f n spot p = some q) :
    q.ctl.status = p.ctl.status ∨ ∃ st, st ≠ .fault ∧ q.ctl.status = p.ctl.status.set st := by
  -- after a frame, the status is the one the frame left or the latency
  have after : ∀ (p' : Plant) (g : Sdk.Frame) (k : Nat) (kg : Bool),
      (afterFrame run g k kg p').ctl.status = p'.ctl.status ∨
        (afterFrame run g k kg p').ctl.status = p'.ctl.status.set .latency := by
    intro p' g k kg
    rw [afterFrame_eq]
    split_ifs <;> simp
  cases spot with
  | top =>
    rcases acquireStep_top h with ⟨-, rfl⟩ | ⟨-, -, -, rfl⟩ | ⟨-, -, rfl⟩
    · exact .inl rfl
    · exact .inl rfl
    · exact .inr ⟨.exposure, by decide, rfl⟩
  | waiting k | paused k _ =>
    obtain ⟨pr, -, hq⟩ := acquireStep_waits rfl h
    rcases waitProgress_cases hq with ⟨g, -, rfl⟩ | ⟨err, -, -, rfl⟩ |
      ⟨err, -, -, -, -, rfl⟩ | ⟨err, -, -, -, rfl⟩ | ⟨pause, -, rfl⟩
    · rw [received_eq]
      dsimp only
      split_ifs
      · exact .inr ⟨.readout, by decide, rfl⟩
      · rcases after _ g k _ with hs | hs <;> rw [hs]
        · exact .inr ⟨.readout, by decide, rfl⟩
        · refine .inr ⟨.latency, by decide, ?_⟩
          simp only [Status.set]
          split_ifs <;> simp_all
    all_goals exact .inl rfl
  | latency =>
    rw [acquireStep_latency h]
    exact .inl rfl
  | holding k kg =>
    obtain ⟨-, rfl⟩ := acquireStep_holding h
    rcases after p f k kg with hs | hs
    · exact .inl hs
    · exact .inr ⟨.latency, by decide, hs⟩

/-- A step of the frame loop ends its run in fault only at a frame wait that failed, not by an
abort, for the limit-th time in a row. -/
theorem acquireStep_fault {spot : Spot} (h : acquireStep pat run f n spot p = some q)
    {run' : Run} {rel : Bool} {st : Teardown} (hq : q.worker = .ending run' .fault rel st) :
    ∃ k pr err, spot.waitMove pat f p.sim = some (k, pr) ∧ pr.1 = .returned (.failed err) ∧
      err.isAbort = false ∧ 0 < p.ctl.timings.maxConsecutiveWaitFailures ∧
      p.ctl.timings.maxConsecutiveWaitFailures ≤ n + 1 ∧
      q.worker = .ending run .fault true .signal := by
  cases spot with
  | top => rcases acquireStep_top h with ⟨-, rfl⟩ | ⟨-, -, -, rfl⟩ | ⟨-, -, rfl⟩ <;> simp at hq
  | waiting k | paused k _ =>
    obtain ⟨pr, hm, hp⟩ := acquireStep_waits rfl h
    rcases waitProgress_cases hp with ⟨g, -, rfl⟩ | ⟨err, -, -, rfl⟩ |
      ⟨err, he, ha, h0, hl, rfl⟩ | ⟨err, -, -, -, rfl⟩ | ⟨pause, -, rfl⟩
    · cases received_ending hq
    · simp at hq
    · exact ⟨k, pr, err, hm, he, ha, h0, hl, rfl⟩
    · simp at hq
    · simp at hq
  | latency => simp [acquireStep_latency h] at hq
  | holding k kg =>
    obtain ⟨-, rfl⟩ := acquireStep_holding h
    cases afterFrame_ending hq

/-- The worker leaves the run numbers, the arming flag, the end of the controller and its cold
start alone. -/
theorem step_keeps (h : Worker.step pat p = some q) :
    q.ctl.session = p.ctl.session ∧ q.ctl.arming = p.ctl.arming ∧ q.ctl.quit = p.ctl.quit ∧
      q.ctl.coldStarted = p.ctl.coldStarted := by
  cases hw : p.worker with
  | idle => rcases step_idle hw h with ⟨-, rfl⟩ | ⟨-, -, rfl⟩ <;> simp
  | acquiring run f n spot =>
    have hc := (acquireStep_frame (step_acquiring hw h)).1
    exact ⟨by rw [hc], by rw [hc], by rw [hc], by rw [hc]⟩
  | ending run o rel st =>
    rcases endStep_eq (step_ending hw h) with ⟨-, rfl⟩ | ⟨-, -, rfl⟩ | ⟨-, rfl⟩ | ⟨-, rfl⟩ <;> simp
  | exited => simp [step_exited hw] at h

/-- The worker never moves a host thread. -/
theorem step_callers (h : Worker.step pat p = some q) : q.callers = p.callers := by
  cases hw : p.worker with
  | idle => rcases step_idle hw h with ⟨-, rfl⟩ | ⟨-, -, rfl⟩ <;> rfl
  | acquiring run f n spot => exact (acquireStep_frame (step_acquiring hw h)).2.1
  | ending run o rel st =>
    rcases endStep_eq (step_ending hw h) with ⟨-, rfl⟩ | ⟨-, -, rfl⟩ | ⟨-, rfl⟩ | ⟨-, rfl⟩ <;> simp
  | exited => simp [step_exited hw] at h

end Worker

namespace Timer

variable {p q : Plant} {i : Nat}

/-- A trigger thread pauses between triggers, fires while it keeps firing, and ends otherwise. -/
theorem step_eq (h : Timer.step i p = some q) :
    ∃ t, p.timers[i]? = some t ∧
      ((t.pc = .pausing ∧ q = p.modifyTimer i fun t => { t with pc := .firing }) ∨
       (t.pc = .firing ∧ t.keepsFiring = true ∧
          q = { p with sim := p.sim.doSoftwareTrigger.2 }.modifyTimer i fun t' =>
            { t' with
              fired := if p.sim.doSoftwareTrigger.1 matches .ok _ then t.fired + 1 else t.fired,
              pc := .pausing }) ∨
       (t.pc = .firing ∧ t.keepsFiring = false ∧
          q = p.modifyTimer i fun t => { t with pc := .exited })) := by
  simp only [Timer.step] at h
  rcases ht : p.timers[i]? with _ | t <;> simp only [ht] at h
  · cases h
  · refine ⟨t, rfl, ?_⟩
    rcases hpc : t.pc <;> simp only [hpc] at h
    · by_cases hk : t.keepsFiring
      · rw [if_pos hk] at h
        exact .inr (.inl ⟨rfl, hk, (Option.some.inj h).symm⟩)
      · rw [if_neg hk] at h
        exact .inr (.inr ⟨rfl, by simpa using hk, (Option.some.inj h).symm⟩)
    · exact .inl ⟨rfl, (Option.some.inj h).symm⟩
    · cases h

/-- A trigger thread changes only the trigger threads and the camera. -/
theorem step_frame (h : Timer.step i p = some q) :
    q.ctl = p.ctl ∧ q.worker = p.worker ∧ q.callers = p.callers ∧ q.host = p.host := by
  obtain ⟨t, -, ⟨-, rfl⟩ | ⟨-, -, rfl⟩ | ⟨-, -, rfl⟩⟩ := step_eq h <;> simp

end Timer


end CameraAcquisition
