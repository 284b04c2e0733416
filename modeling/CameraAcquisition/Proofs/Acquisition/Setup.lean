import CameraAcquisition.Proofs.Acquisition.Region
import CameraAcquisition.Proofs.Acquisition.Feeding

/-!
# The set-up of the next acquisition

The controller keeps the parameters of the next acquisition. A prepare programs the camera's
trigger from them and prepares a frame; a start reads them in its first section, where they
choose the capture mode, whether a trigger thread is started and for how many triggers, and
the worker reads them again when it picks the run up, where they fix the frame target and the
latency. Updates of the parameters take the lock alone, between any two of these sections.

Here every step is said once for what it does to this set-up. Only an update changes the
parameters; only a prepare programs the trigger or prepares a frame; and a host thread comes to
hold parameters in a start only by taking the controller's in the start's first section
(`Call.step_setup`, `Worker.step_setup`, `Timer.step_setup`). A prepare that programs the
trigger programs the capture mode that `AcqParams.captureMode` derives for the start from the
same parameters: the two derivations agree on every trigger mode the programming takes
(`programTrigger_cases`, `prepare_programs`).

## What this module delivers

- The trigger set-up of the SDK calls: `Simulator.trigger_capStart` and the other calls that
  keep it, `Simulator.capTrigger_camera`, `Simulator.setCapTrigger_cases`.
- `Call.params?` and `Caller.params?`, the parameters a start holds while it arms.
- `programTrigger_cases` and `prepare_programs`.
- `Call.step_setup`, `Worker.step_setup` and `Timer.step_setup`; `ReachableAvoiding.reachable`.
-/

set_option autoImplicit false

namespace CameraAcquisition

namespace Sdk.Simulator

variable (s : Simulator)

@[simp] theorem trigger_capStart (m : CaptureMode) : (s.capStart m).2.trigger = s.trigger := by
  unfold capStart
  rw [whenOpen_eq]
  split
  · split_ifs <;> rfl
  · rfl

@[simp] theorem trigger_capStop : s.capStop.2.trigger = s.trigger := by
  unfold capStop
  rw [whenOpen_eq]
  split <;> rfl

@[simp] theorem trigger_bufAlloc : s.bufAlloc.2.trigger = s.trigger := by
  unfold bufAlloc
  rw [whenOpen_eq]
  split
  · split_ifs <;> rfl
  · rfl

@[simp] theorem trigger_bufRelease : s.bufRelease.2.trigger = s.trigger := by
  unfold bufRelease
  rw [whenOpen_eq]
  split
  · split_ifs <;> rfl
  · rfl

@[simp] theorem trigger_abortWait : s.abortWait.2.trigger = s.trigger := by
  unfold abortWait
  rw [whenOpen_eq]
  split <;> rfl

@[simp] theorem trigger_doSoftwareTrigger : s.doSoftwareTrigger.2.trigger = s.trigger := by
  unfold doSoftwareTrigger
  rw [whenOpen_eq]
  split
  · split <;> rfl
  · rfl

@[simp] theorem trigger_waitForFrame (patient : Bool) (f : Frame) :
    (s.waitForFrame patient f).2.trigger = s.trigger := by
  unfold waitForFrame deliver
  split
  · rfl
  · split_ifs <;> (try split) <;> (try split_ifs) <;> rfl

@[simp] theorem trigger_setRoi (attr : RoiAttr) : (s.setRoi attr).2.trigger = s.trigger := by
  unfold setRoi
  rw [whenOpen_eq]
  split
  · split_ifs <;> rfl
  · rfl

@[simp] theorem capTrigger_camera : s.capTrigger.2 = s := by
  unfold capTrigger
  rw [whenOpen_eq]
  split <;> rfl

theorem setCapTrigger_cases (attr : TriggerAttr) :
    ((s.setCapTrigger attr).1 = .ok () ∧ (s.setCapTrigger attr).2.trigger = attr) ∨
    (∃ err, (s.setCapTrigger attr).1 = .error err ∧ (s.setCapTrigger attr).2 = s) := by
  unfold setCapTrigger
  rw [whenOpen_eq]
  split
  · split
    · exact .inr ⟨_, rfl, rfl⟩
    · exact .inl ⟨rfl, rfl⟩
  · exact .inr ⟨_, rfl, rfl⟩

end Sdk.Simulator

/-- The parameters a start holds at this point of its arming: those it took in its first
section, until it has started its trigger thread. -/
def Call.params? : Call → Option AcqParams
  | .armCapture ps | .settling ps | .armTimer ps => some ps
  | _ => none

/-- The parameters a host thread holds in a start. -/
def Caller.params? : Caller → Option AcqParams
  | .busy c => c.params?
  | _ => none

@[simp] theorem Caller.params?_busy (c : Call) : (Caller.busy c).params? = c.params? := rfl
@[simp] theorem Caller.params?_idle : Caller.idle.params? = none := rfl
@[simp] theorem Caller.params?_returned (r : Except CameraError Unit) :
    (Caller.returned r).params? = none := rfl

/-- Only a start that holds the arming flag holds parameters. -/
theorem Caller.isArming_of_params? {c : Caller} {ps : AcqParams} (h : c.params? = some ps) :
    c.isArming = true := by
  rcases c with _ | x | _
  · simp at h
  · cases x <;> simp_all [Call.params?, Call.isArming]
  · simp at h

theorem Caller.params?_of_isArming {c : Caller} (h : c.isArming = false) : c.params? = none := by
  cases hp : c.params?
  · rfl
  · simp [Caller.isArming_of_params? hp] at h

namespace Acquisition

theorem programTrigger_cases (ps : AcqParams) (p : Plant) :
    OnCamera p ((programTrigger ps).run' p).2 ∧
    ((∃ err, ((programTrigger ps).run' p).1 = .error err ∧
        ((programTrigger ps).run' p).2.sim.trigger = p.sim.trigger) ∨
      (((programTrigger ps).run' p).1 = .ok () ∧
        ((programTrigger ps).run' p).2.sim.trigger.mode = ps.captureMode)) := by
  refine ⟨programTrigger_onCamera ps p, ?_⟩
  -- a write of a set-up in the capture mode of the parameters programs that mode, or fails
  have write : ∀ q : Plant, q.sim = p.sim → ∀ a : Sdk.TriggerAttr, a.mode = ps.captureMode →
      let r := (call (Sdk.Simulator.setCapTrigger a)).run' q
      (∃ err, r.1 = .error err ∧ r.2.sim.trigger = p.sim.trigger) ∨
        (r.1 = .ok () ∧ r.2.sim.trigger.mode = ps.captureMode) := by
    intro q hq a ha
    rcases q.sim.setCapTrigger_cases a with ⟨hok, ht⟩ | ⟨err, herr, hs⟩
    · right
      simp [hok, ht, ha, Except.mapError]
    · left
      refine ⟨.ofCall err, by simp [herr, Except.mapError], ?_⟩
      rw [run'_call]
      dsimp only
      rw [hs, hq]
  unfold programTrigger
  simp only [Act.run'_bind, run'_call]
  rcases hr : p.sim.capTrigger.1 with err | attr
  · exact .inl ⟨_, rfl, by simp [Except.mapError]⟩
  · simp only [Except.mapError, Act.andThen_ok]
    -- the modes that are supported go on to the write, the others fail before it
    split
    case h_5 => exact .inl ⟨_, rfl, by simp⟩
    all_goals
      simp only [Act.run'_bind, Act.run'_pure, Act.andThen_ok]
      exact write _ (by simp) _ (by simp [AcqParams.captureMode, *])

theorem prepare_programs (p : Plant) :
    ((prepare.run' p).2.sim.trigger = p.sim.trigger ∧
      (prepare.run' p).2.ctl.frame = p.ctl.frame) ∨
    (prepare.run' p).2.sim.trigger.mode = p.ctl.params.captureMode := by
  -- the allocation of a frame keeps the trigger set-up
  have alloc : ∀ q : Plant, ((getCtl >>= fun c =>
      if c.frame.isNone = true then allocFrame else pure ()).run' q).2.sim.trigger =
        q.sim.trigger := by
    intro q
    simp only [Act.run'_bind, run'_getCtl, Act.andThen_ok, Act.run'_ite, Act.run'_pure]
    split
    · rw [allocFrame_plant]
      split <;> simp
    · rfl
  -- from a plant with the trigger set-up and the frame of `p`: the programming fails and
  -- changes neither, or programs the capture mode, which the allocation keeps
  have rest : ∀ q : Plant, q.sim.trigger = p.sim.trigger → q.ctl.frame = p.ctl.frame →
      let r := (Act.andThen ((programTrigger p.ctl.params).run' q) fun _ => getCtl >>= fun c =>
        if c.frame.isNone = true then allocFrame else pure ()).2
      (r.sim.trigger = p.sim.trigger ∧ r.ctl.frame = p.ctl.frame) ∨
        r.sim.trigger.mode = p.ctl.params.captureMode := by
    intro q ht hf
    obtain ⟨⟨sim, hq⟩, ⟨err, herr, htr⟩ | ⟨hok, hmode⟩⟩ := programTrigger_cases p.ctl.params q
    · rcases e : (programTrigger p.ctl.params).run' q with ⟨res, q'⟩
      rw [e] at herr htr hq
      subst herr hq
      exact .inl ⟨htr.trans ht, hf⟩
    · rcases e : (programTrigger p.ctl.params).run' q with ⟨res, q'⟩
      rw [e] at hok hmode
      subst hok
      right
      rw [Act.andThen_ok, alloc q']
      exact hmode
  simp only [prepare, Act.run'_bind, run'_getCtl, Act.andThen_ok, Act.run'_ite, Act.run'_throw,
    Act.andThen_error]
  split
  · exact .inl ⟨rfl, rfl⟩
  · split
    · -- the cold start starts and stops a capture, and keeps both
      have hcold : (coldStart.run' p).2.sim.trigger = p.sim.trigger ∧
          (coldStart.run' p).2.ctl.frame = p.ctl.frame := by
        rw [coldStart_plant]
        split <;> simp
      rcases e : coldStart.run' p with ⟨_ | _, q⟩
      · rw [e] at hcold
        exact .inl hcold
      · rw [e] at hcold
        simpa only [Act.andThen_ok, Act.run'_bind] using rest q hcold.1 hcold.2
    · exact rest p rfl rfl

variable {e : Bool} {s : Except CameraError Unit} {p q : Plant} {r : Caller}

/-- What a step of a host call does to the set-up of the next acquisition: only an update
changes the parameters; only a prepare programs the trigger or prepares a frame; and a host
thread comes to hold parameters only in a start that takes the controller's, or that held them
already. -/
theorem Call.step_setup {c : Call} (h : Call.step e s c p = some (r, q)) :
    (q.ctl.params = p.ctl.params ∨ ∃ f, c = .update f) ∧
    (q.sim.trigger = p.sim.trigger ∨ c = .prepare) ∧
    (q.ctl.frame = p.ctl.frame ∨ q.ctl.frame = none ∨ c = .prepare) ∧
    (∀ ps, r.params? = some ps → (c = .start ∧ ps = p.ctl.params) ∨ c.params? = some ps) := by
  have unheld : r.params? = none →
      ∀ ps, r.params? = some ps → (c = .start ∧ ps = p.ctl.params) ∨ c.params? = some ps :=
    fun hr ps hps => by simp [hr] at hps
  cases c with
  | prepare =>
    rcases Call.step_prepare h with ⟨-, rfl, rfl⟩ | ⟨-, ⟨res, rfl⟩, sim, cold, f, rfl, -⟩
    · exact ⟨.inl rfl, .inl rfl, .inl rfl, unheld rfl⟩
    · exact ⟨.inl rfl, .inr rfl, .inr (.inr rfl), unheld rfl⟩
  | releaseBuffer =>
    rcases Call.step_releaseBuffer h with ⟨-, rfl, rfl⟩ | ⟨-, ⟨res, rfl⟩, rfl⟩
    · exact ⟨.inl rfl, .inl rfl, .inl rfl, unheld rfl⟩
    · refine ⟨?_, ?_, ?_, unheld rfl⟩ <;> split <;> simp
  | update f =>
    obtain ⟨rfl, rfl⟩ := Call.step_update h
    exact ⟨.inr ⟨f, rfl⟩, .inl rfl, .inl rfl, unheld rfl⟩
  | start =>
    rcases Call.step_start h with ⟨-, -, -, -, rfl, rfl⟩ | ⟨rfl, rfl⟩
    · -- the start takes the controller's parameters
      refine ⟨.inl rfl, .inl rfl, .inl rfl, fun ps hps => .inl ⟨rfl, ?_⟩⟩
      simpa [Call.params?] using hps.symm
    · exact ⟨.inl rfl, .inl rfl, .inl rfl, unheld rfl⟩
  | armCapture ps =>
    obtain ⟨rfl, ⟨u, -, rfl⟩ | ⟨err, -, rfl⟩⟩ := Call.step_armCapture h
    · refine ⟨.inl rfl, .inl (by simp), .inl rfl, fun ps' hps => .inr ?_⟩
      split at hps <;> simpa [Call.params?] using hps
    · exact ⟨.inl rfl, .inl (by simp), .inl rfl, unheld rfl⟩
  | settling ps =>
    obtain ⟨-, rfl, rfl⟩ := Call.step_settling h
    refine ⟨.inl rfl, .inl rfl, .inl rfl, fun ps' hps => .inr ?_⟩
    split at hps <;> simp_all [Call.params?]
  | armTimer ps =>
    rcases Call.step_armTimer h with ⟨-, rfl, rfl⟩ | ⟨-, -, rfl, rfl⟩ | ⟨-, err, -, rfl, rfl⟩
    · exact ⟨.inl rfl, .inl rfl, .inl rfl, unheld rfl⟩
    · exact ⟨.inl rfl, .inl rfl, .inl rfl, unheld rfl⟩
    · exact ⟨.inl rfl, .inl (by simp), .inl rfl, unheld rfl⟩
  | handOver t =>
    rcases Call.step_handOver h with ⟨-, rfl, rfl⟩ | ⟨-, rfl, hr⟩
    · exact ⟨.inl rfl, .inl rfl, .inl rfl, unheld rfl⟩
    · refine ⟨.inl rfl, .inl rfl, .inl rfl, unheld ?_⟩
      rcases hr with rfl | rfl | rfl <;> rfl
  | awaitAck n =>
    obtain ⟨rfl, ⟨-, rfl⟩ | ⟨-, -, rfl⟩⟩ := Call.step_awaitAck h <;>
      exact ⟨.inl rfl, .inl rfl, .inl rfl, unheld rfl⟩
  | cancelling t st =>
    rcases Call.step_cancelling h with ⟨-, rfl, rfl⟩ | ⟨-, -, rfl, rfl⟩ | ⟨-, rfl, rfl⟩ |
      ⟨-, rfl, rfl⟩
    · exact ⟨.inl (by simp), .inl (by simp), .inl (by simp), unheld rfl⟩
    · exact ⟨.inl rfl, .inl rfl, .inl rfl, unheld rfl⟩
    · exact ⟨.inl rfl, .inl (by simp [stopCapture]), .inl rfl, unheld rfl⟩
    · exact ⟨.inl rfl, .inl rfl, .inl rfl, unheld rfl⟩
  | failArming err =>
    obtain ⟨rfl, rfl⟩ := Call.step_failArming h
    exact ⟨.inl rfl, .inl rfl, .inl rfl, unheld rfl⟩
  | stop a =>
    rcases Call.step_stop h with ⟨-, rfl, rfl⟩ | ⟨-, rfl, rfl⟩
    · exact ⟨.inl rfl, .inl rfl, .inl rfl, unheld rfl⟩
    · refine ⟨?_, ?_, ?_, unheld (Caller.params?_of_isArming (stopUnlessIdle_stopsAs a).1)⟩ <;>
        rw [stopUnlessIdle_plant] <;> split <;> simp
  | stopAwaitArming a =>
    obtain ⟨-, rfl, rfl⟩ := Call.step_stopAwaitArming h
    refine ⟨?_, ?_, ?_, unheld (Caller.params?_of_isArming (stopUnlessIdle_stopsAs a).1)⟩ <;>
      rw [stopUnlessIdle_plant] <;> split <;> simp
  | stopAbort a n =>
    obtain ⟨rfl, ⟨-, rfl⟩ | ⟨-, rfl⟩⟩ := Call.step_stopAbort h
    · exact ⟨.inl rfl, .inl (by simp), .inl rfl,
        unheld (Caller.params?_of_isArming (afterStop_stopsAs a _).1)⟩
    · exact ⟨.inl rfl, .inl (by simp), .inl rfl, unheld rfl⟩
  | stopPause a n =>
    obtain ⟨-, rfl, rfl⟩ := Call.step_stopPause h
    rw [stopLoop_plant]
    exact ⟨.inl rfl, .inl rfl, .inl rfl,
      unheld (Caller.params?_of_isArming (stopLoop_stopsAs a n).1)⟩
  | resetForce =>
    obtain ⟨rfl, rfl⟩ := Call.step_resetForce h
    exact ⟨.inl rfl, .inl rfl, .inl rfl, unheld rfl⟩
  | dropQuit =>
    obtain ⟨rfl, rfl⟩ := Call.step_dropQuit h
    exact ⟨.inl rfl, .inl rfl, .inl rfl, unheld rfl⟩
  | dropJoin =>
    obtain ⟨-, rfl, rfl⟩ := Call.step_dropJoin h
    exact ⟨.inl rfl, .inl rfl, .inl rfl, unheld rfl⟩
  | dropRelease =>
    obtain ⟨rfl, rfl⟩ := Call.step_dropRelease h
    exact ⟨.inl rfl, .inl (by split <;> simp), .inr (.inl rfl), unheld rfl⟩
  | setRoi attr =>
    rcases Call.step_setRoi h with ⟨-, rfl, rfl⟩ | ⟨-, hr, rfl⟩
    · exact ⟨.inl rfl, .inl rfl, .inl rfl, unheld rfl⟩
    · have hrp : r.params? = none := by rcases hr with rfl | ⟨err, rfl⟩ <;> rfl
      refine ⟨?_, ?_, ?_, unheld hrp⟩ <;> split <;> simp
  | programRoi attr =>
    obtain ⟨rfl, rfl⟩ := Call.step_programRoi h
    exact ⟨.inl rfl, .inl (by simp), .inl rfl, unheld rfl⟩

end Acquisition

namespace Worker

variable {p q : Plant} {pat : Bool}

/-- The worker changes neither the parameters nor the trigger set-up, and takes the prepared
frame when it picks a run up. -/
theorem step_setup (h : Worker.step pat p = some q) :
    q.ctl.params = p.ctl.params ∧ q.sim.trigger = p.sim.trigger ∧
      (q.ctl.frame = p.ctl.frame ∨ q.ctl.frame = none) := by
  cases hw : p.worker with
  | idle =>
    rcases step_idle hw h with ⟨-, rfl⟩ | ⟨-, -, rfl⟩
    · exact ⟨rfl, rfl, .inr rfl⟩
    · exact ⟨rfl, rfl, .inl rfl⟩
  | acquiring run f n spot =>
    have hst := step_acquiring hw h
    have hc := (acquireStep_frame hst).1
    exact ⟨by rw [hc], (acquireStep_waitsFrom hst).trigger_eq, .inl (by rw [hc])⟩
  | ending run o rel st =>
    rcases endStep_eq (step_ending hw h) with ⟨-, rfl⟩ | ⟨-, -, rfl⟩ | ⟨-, rfl⟩ | ⟨-, rfl⟩
    · exact ⟨by simp, by cases run.timer <;> simp [signalTimer], .inl (by simp)⟩
    · exact ⟨rfl, rfl, .inl rfl⟩
    · exact ⟨rfl, by cases rel <;> simp [stopCapture], .inl rfl⟩
    · exact ⟨by simp, by simp, .inl (by simp)⟩
  | exited => simp [step_exited hw] at h

end Worker

/-- A trigger thread changes nothing of the controller, nor the trigger set-up. -/
theorem Timer.step_setup {p q : Plant} {i : Nat} (h : Timer.step i p = some q) :
    q.ctl = p.ctl ∧ q.sim.trigger = p.sim.trigger := by
  refine ⟨(Timer.step_frame h).1, ?_⟩
  obtain ⟨t, -, ⟨-, rfl⟩ | ⟨-, -, rfl⟩ | ⟨-, -, rfl⟩⟩ := Timer.step_eq h <;> simp

/-- An execution that avoids some steps is an execution. -/
theorem ReachableAvoiding.reachable {env : Bool} {bad : Plant → Actor → Prop} {init p : Plant}
    (h : ReachableAvoiding env bad init p) : Reachable env init p := by
  induction h with
  | init => exact .init
  | step _ hs _ ih => exact ih.step hs

end CameraAcquisition
