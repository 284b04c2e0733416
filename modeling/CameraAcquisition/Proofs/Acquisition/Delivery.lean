import CameraAcquisition.Proofs.Acquisition.Stopping
import CameraAcquisition.Proofs.Acquisition.Triggering
import CameraAcquisition.Proofs.Host.Ring
import CameraAcquisition.Proofs.Sdk.Consistency

/-!
# The frames of a run

The worker announces the frames of a run to the host one by one, and nothing else counts or
announces a frame. A host call counts none on the camera and writes the host only to record the
start of a run (`Call.step_frames_host`), a trigger thread only makes a software trigger
pending, and while a run runs no other thread of the controller changes the frame count, the
host or the camera's count of frames (`Bookkept.others_keep_count`). Within the run a step of
the worker either receives the frame its wait returned (`Worker.step_captured`) or leaves all
three alone, coming into a wait only from the top of its loop, for the frame the count names and
below the run's target (`Worker.step_quiet`, and for every step `Transition.quiet_in_run`).

The system is open to the outside: other programs use the camera and the host uses its own
buffers and listener, in any way but two. The outside leaves the host's ring alone, its buffers'
layout and contents and the frames it was told of, and it takes no frame from the camera
(`KeepsFrames`); `ReachableKeeping` and `CountedKeeping` follow executions by such steps.

The host's ring stays well formed, and a run handed over and not yet picked up finds the frame
count at zero and no frame announced (`Plant.HostReady`). From the pick-up, `Delivering`
follows the run over every execution and counts the frames it announces: after `k` of them
the frame count is `k`, the last frame announced is `k - 1`, the camera has counted `k` frames
more, and the worker waits only for frame `k`. A host that answers no to a frame makes the run
wind down (`Plant.WindsDown`), with no frame wait after it.

`run_delivers_frames_in_order` gathers it: a run announces frames `0, 1, …` in order, each
once and each copied first over the start of its buffer, and stops at its target.

## What this module delivers

- `Sdk.Simulator.frames_apply`, `Call.step_frames_host`, `Call.step_running_host`,
  `stopCapture_frames`, `Timer.step_frames`.
- `KeepsFrames`, `ReachableKeeping` and `CountedKeeping`, with `Bookkept.others_keep_count`
  and `RunOver.not_run`.
- `Host.announce_ring`, `afterFrame_host`, `received_host`, `received_declined`,
  `Worker.step_quiet`, `Worker.step_ring`.
- `Plant.HostReady` with its step lemmas and `Plant.hostReady_of_reachable`.
- `Transition.quiet_in_run`, `Delivering` with `Delivering.announces`, `Delivering.receive`,
  `Delivering.keep` and `Delivering.step`; `Plant.WindsDown` with its step lemmas.
- Over a run from its pick-up: `Delivering.pickUp`, `Delivering.of_counted` and
  `Delivering.announced`.
- `run_delivers_frames_in_order`, and `Plant.onOpenedHost` for its instance.
-/

set_option autoImplicit false

namespace CameraAcquisition

/-! ## What counts a frame -/

namespace Sdk.Simulator

/-- Only a frame wait counts a frame. -/
theorem frames_apply (s : Simulator) (e : Entry) (h : ∀ pat f, e ≠ .waitForFrame pat f) :
    (e.apply s).stats.frames = s.stats.frames := by
  cases e
  case waitForFrame pat f => exact absurd rfl (h pat f)
  all_goals
    simp only [Entry.apply, apiInit, apiUninit, devOpen, devClose, devInfo, propAttr, propValue,
      setPropValue, capaValue, setCapaValue, bufAlloc, bufRelease, capTrigger, setCapTrigger,
      capStart, capStop, abortWait, doSoftwareTrigger, getRoi, setRoi, triggerOut, setTriggerOut,
      whenOpen_eq]
    repeat' split
  all_goals rfl

end Sdk.Simulator

namespace Acquisition

variable {e : Bool} {s : Except CameraError Unit} {p q : Plant} {r : Caller}

/-- A host call counts no frame of the camera, and leaves the host as it was but for the
start a hand-over records on it. -/
theorem Call.step_frames_host {c : Call} (h : Call.step e s c p = some (r, q)) :
    q.sim.stats.frames = p.sim.stats.frames ∧
      (q.host = p.host ∨ ∃ t, c = .handOver t ∧
        q.host = { p.host with ring := p.host.ring.markStart }) := by
  have release : p.sim.bufRelease.2.stats.frames = p.sim.stats.frames :=
    p.sim.frames_apply .bufRelease (by simp)
  cases c with
  | prepare =>
    refine ⟨?_, .inl ?_⟩
    · rw [Call.step_prepare_plant h]
      exact prepare_view (fun s => s.stats.frames)
        (fun s m => s.frames_apply (.capStart m) (by simp))
        (fun s => s.frames_apply .capStop (by simp)) (fun s => s.frames_apply .capTrigger (by simp))
        (fun s attr => s.frames_apply (.setCapTrigger attr) (by simp))
        (fun s => s.frames_apply .bufAlloc (by simp)) p
    · rcases Call.step_prepare h with ⟨-, -, rfl⟩ | ⟨-, -, sim, cold, f, rfl, -⟩ <;> rfl
  | releaseBuffer =>
    rcases Call.step_releaseBuffer h with ⟨-, -, rfl⟩ | ⟨-, -, rfl⟩
    · exact ⟨rfl, .inl rfl⟩
    · split
      · exact ⟨release, .inl rfl⟩
      · exact ⟨rfl, .inl rfl⟩
  | setRoi attr =>
    rcases Call.step_setRoi h with ⟨-, -, rfl⟩ | ⟨-, -, rfl⟩
    · exact ⟨rfl, .inl rfl⟩
    · split
      · exact ⟨release, .inl rfl⟩
      · exact ⟨rfl, .inl rfl⟩
  | update f => obtain ⟨-, rfl⟩ := Call.step_update h; exact ⟨rfl, .inl rfl⟩
  | start =>
    rcases Call.step_start h with ⟨-, -, -, -, -, rfl⟩ | ⟨-, rfl⟩ <;> exact ⟨rfl, .inl rfl⟩
  | armCapture params =>
    obtain ⟨rfl, -⟩ := Call.step_armCapture h
    exact ⟨p.sim.frames_apply (.capStart _) (by simp), .inl rfl⟩
  | settling params => obtain ⟨-, rfl, -⟩ := Call.step_settling h; exact ⟨rfl, .inl rfl⟩
  | armTimer params =>
    rcases Call.step_armTimer h with ⟨-, rfl, -⟩ | ⟨-, -, rfl, -⟩ | ⟨-, -, -, rfl, -⟩
    · exact ⟨rfl, .inl rfl⟩
    · exact ⟨rfl, .inl rfl⟩
    · exact ⟨p.sim.frames_apply .capStop (by simp), .inl rfl⟩
  | handOver t =>
    rcases Call.step_handOver h with ⟨-, -, rfl⟩ | ⟨-, rfl, -⟩
    · exact ⟨rfl, .inl rfl⟩
    · exact ⟨rfl, .inr ⟨t, rfl, rfl⟩⟩
  | awaitAck n => obtain ⟨rfl, -⟩ := Call.step_awaitAck h; exact ⟨rfl, .inl rfl⟩
  | cancelling t st =>
    rcases Call.step_cancelling h with ⟨-, rfl, -⟩ | ⟨-, -, rfl, -⟩ | ⟨-, rfl, -⟩ | ⟨-, -, rfl⟩
    · exact ⟨by simp, .inl (by simp)⟩
    · exact ⟨rfl, .inl rfl⟩
    · exact ⟨p.sim.frames_apply .capStop (by simp), .inl rfl⟩
    · exact ⟨rfl, .inl rfl⟩
  | failArming err => obtain ⟨-, rfl⟩ := Call.step_failArming h; exact ⟨rfl, .inl rfl⟩
  | stop a =>
    rcases Call.step_stop h with ⟨-, -, rfl⟩ | ⟨-, -, rfl⟩
    · exact ⟨rfl, .inl rfl⟩
    · rw [stopUnlessIdle_plant]
      split <;> exact ⟨rfl, .inl rfl⟩
  | stopAwaitArming a =>
    obtain ⟨-, -, rfl⟩ := Call.step_stopAwaitArming h
    rw [stopUnlessIdle_plant]
    split <;> exact ⟨rfl, .inl rfl⟩
  | stopAbort a n =>
    obtain ⟨rfl, -⟩ := Call.step_stopAbort h
    exact ⟨p.sim.frames_apply .abortWait (by simp), .inl rfl⟩
  | stopPause a n =>
    obtain ⟨-, -, rfl⟩ := Call.step_stopPause h
    rw [stopLoop_plant]
    exact ⟨rfl, .inl rfl⟩
  | resetForce => obtain ⟨-, rfl⟩ := Call.step_resetForce h; exact ⟨rfl, .inl rfl⟩
  | dropQuit => obtain ⟨-, rfl⟩ := Call.step_dropQuit h; exact ⟨rfl, .inl rfl⟩
  | dropJoin => obtain ⟨-, -, rfl⟩ := Call.step_dropJoin h; exact ⟨rfl, .inl rfl⟩
  | dropRelease =>
    obtain ⟨-, rfl⟩ := Call.step_dropRelease h
    split
    · exact ⟨release, .inl rfl⟩
    · exact ⟨rfl, .inl rfl⟩
  | programRoi attr =>
    obtain ⟨-, rfl⟩ := Call.step_programRoi h
    exact ⟨p.sim.frames_apply (.setRoi attr) (by simp), .inl rfl⟩

/-- While a run runs, a host call leaves the frame count, the host and the camera's count of
frames alone. -/
theorem Call.step_running_host {i : Nat} {c : Call} (hb : Bookkept p) (hc : p.callers i = .busy c)
    (hrun : p.ctl.running = true) (h : Call.step e s c p = some (r, q)) :
    q.ctl.frameCount = p.ctl.frameCount ∧ q.host = p.host ∧
      q.sim.stats.frames = p.sim.stats.frames := by
  obtain ⟨hnh, hcount⟩ := Call.step_running hb hc hrun h
  obtain ⟨hfr, hhost⟩ := Call.step_frames_host h
  refine ⟨hcount, ?_, hfr⟩
  rcases hhost with hh | ⟨t, rfl, -⟩
  · exact hh
  · exact absurd rfl (hnh t)

end Acquisition

/-- Stopping the capture, and releasing the frame, counts no frame. -/
@[simp] theorem stopCapture_frames (rel : Bool) (p : Plant) :
    (stopCapture rel p).sim.stats.frames = p.sim.stats.frames := by
  have hstop : p.sim.capStop.2.stats.frames = p.sim.stats.frames :=
    p.sim.frames_apply .capStop (by simp)
  cases rel
  · exact hstop
  · exact (p.sim.capStop.2.frames_apply .bufRelease (by simp)).trans hstop

/-- A trigger thread counts no frame: a software trigger only makes one pending. -/
theorem Timer.step_frames {p q : Plant} {i : Nat} (h : Timer.step i p = some q) :
    q.sim.stats.frames = p.sim.stats.frames := by
  obtain ⟨t, -, ⟨-, rfl⟩ | ⟨-, -, rfl⟩ | ⟨-, -, rfl⟩⟩ := Timer.step_eq h
  · rfl
  · exact p.sim.frames_apply .doSoftwareTrigger (by simp)
  · rfl

/-! ## Steps open to the outside -/

/-- A step that, when the outside takes it, leaves the host's ring and the camera's count of
frames alone: the outside may use the camera and the host in every other way. -/
def KeepsFrames (p : Plant) (a : Actor) (q : Plant) : Prop :=
  a = .outside → q.host.ring = p.host.ring ∧ q.sim.stats.frames = p.sim.stats.frames

/-- The plants the system reaches from `init`, open to the outside, by steps that keep the
frames. -/
inductive ReachableKeeping (init : Plant) : Plant → Prop where
  | init : ReachableKeeping init init
  | step {p q : Plant} {a : Actor} (hp : ReachableKeeping init p) (h : Transition true p a q)
      (hk : KeepsFrames p a q) : ReachableKeeping init q

/-- `CountedKeeping kind p n q`: an execution open to the outside leads from `p` to `q` by steps
that keep the frames, and `n` of its steps are of the kind `kind` picks out. -/
inductive CountedKeeping (kind : Plant → Actor → Plant → Bool) : Plant → Nat → Plant → Prop where
  | refl (p : Plant) : CountedKeeping kind p 0 p
  | step {p q r : Plant} {a : Actor} {n : Nat} (hp : CountedKeeping kind p n q)
      (h : Transition true q a r) (hk : KeepsFrames q a r) :
      CountedKeeping kind p (n + if kind q a r then 1 else 0) r

/-- A step of the controller's own threads keeps the frames. -/
theorem KeepsFrames.of_ne {p q : Plant} {a : Actor} (ha : a ≠ .outside) : KeepsFrames p a q :=
  fun h => absurd h ha

theorem ReachableKeeping.trans {init p q : Plant} (hp : ReachableKeeping init p)
    (hq : ReachableKeeping p q) : ReachableKeeping init q := by
  induction hq with
  | init => exact hp
  | step _ hs hk ih => exact ih.step hs hk

theorem ReachableKeeping.bookkept {params : AcqParams} {timings : Timings} {deviceIndex : Nat}
    {sim : Sdk.Simulator} {host : Host} {p : Plant}
    (h : ReachableKeeping (Plant.initial params timings deviceIndex sim host) p) : Bookkept p := by
  induction h with
  | init => exact bookkept_initial params timings deviceIndex sim host
  | step _ hs _ ih => exact ih.step hs

/-- Every step that a controller closed to the outside takes keeps the frames. -/
theorem Transition.keeping {p q : Plant} {a : Actor} (hs : Transition false p a q) :
    Transition true p a q ∧ KeepsFrames p a q := by
  cases hs with
  | request i rq hm => exact ⟨.request i rq hm, .of_ne (by simp)⟩
  | call i e s hc hst => exact ⟨.call i e s hc hst, .of_ne (by simp)⟩
  | worker hst => exact ⟨.worker hst, .of_ne (by simp)⟩
  | timer i hst => exact ⟨.timer i hst, .of_ne (by simp)⟩
  | outside sim host h => cases h

theorem ReachableKeeping.of_reachable {init p : Plant} (h : Reachable false init p) :
    ReachableKeeping init p := by
  induction h with
  | init => exact .init
  | step _ hs ih => exact ih.step hs.keeping.1 hs.keeping.2

/-- While a run runs, a step of a host thread or a trigger thread leaves the worker, the frame
count, the host and the camera's count of frames alone; a step of the outside that keeps the
frames leaves the worker, the frame count and the ring alone. -/
theorem Bookkept.others_keep_count {env : Bool} {p q : Plant} {a : Actor} (hb : Bookkept p)
    (hs : Transition env p a q) (hk : KeepsFrames p a q) (hw : a ≠ .worker)
    (hrun : p.ctl.running = true) :
    q.worker = p.worker ∧ q.ctl.frameCount = p.ctl.frameCount ∧ q.host.ring = p.host.ring ∧
      (a ≠ .outside → q.host = p.host) ∧ q.sim.stats.frames = p.sim.stats.frames := by
  cases hs with
  | request i rq hm => exact ⟨rfl, rfl, rfl, fun _ => rfl, rfl⟩
  | call i e s hc hst =>
    obtain ⟨hc', hh, hf⟩ := Acquisition.Call.step_running_host hb hc hrun hst
    exact ⟨(Acquisition.Call.step_frame hst).1, hc', congrArg Host.ring hh, fun _ => hh, hf⟩
  | worker hst => exact absurd rfl hw
  | timer i hst =>
    obtain ⟨hc, hwk, -, hh⟩ := Timer.step_frame hst
    exact ⟨hwk, by rw [hc], by rw [hh], fun _ => hh, Timer.step_frames hst⟩
  | outside sim host h =>
    obtain ⟨hr, hf⟩ := hk rfl
    exact ⟨rfl, rfl, hr, fun h => absurd rfl h, hf⟩

/-- A run that is over is no run of the worker. -/
theorem RunOver.not_run {p : Plant} {run : Run} (hb : Bookkept p) (h : RunOver run.session p) :
    p.worker.run? ≠ some run := by
  intro hrun
  rcases h with hle | hex
  · have := hb.run_session_succ hrun
    omega
  · simp [hex, Worker.run?] at hrun

/-! ## The receipt of a frame -/

namespace Host

/-- Announcing a frame records it on the ring, and the ring's answer is whether to go on. -/
theorem announce_ring (h : Host) (n : Nat) :
    (h.announce n).1.ring = (h.ring.announce n).1 ∧
      (h.announce n).2.keepGoing = (h.ring.announce n).2 := by
  unfold announce
  dsimp only
  split <;> exact ⟨rfl, rfl⟩

end Host

section Receipt

variable {run : Run} {f : Sdk.Frame} {k : Nat} {kg : Bool} {p : Plant}

@[simp] theorem afterFrame_host : (afterFrame run f k kg p).host = p.host := by
  rw [afterFrame_eq]
  split_ifs <;> rfl

/-- Frame `k` goes over the start of its buffer, cut to the buffer's length, and is announced. -/
theorem received_host :
    (received run f k p).host = (Host.announce k { p.host with
      ring := p.host.ring.write k (f.image.extract 0 (p.host.ring.slot k).size) }).1 := by
  rw [received_eq, ← Sdk.Frame.imagePrefix_eq]
  dsimp only
  split_ifs <;> simp

/-- A host that answers no to frame `k` ends the run: the worker tears it down, at once or once
the host lets it go on. -/
theorem received_declined (h : (p.host.ring.announce k).2 = false) :
    (∃ g n, (received run f k p).worker = .acquiring run g n (.holding k false)) ∨
      (received run f k p).worker = .ending run .hostStopped true .signal := by
  have hkg : (Host.announce k { p.host with
      ring := p.host.ring.write k (f.imagePrefix (p.host.ring.slot k).size) }).2.keepGoing =
        false := by
    rw [(Host.announce_ring _ k).2]
    exact (Ring.write_announce _ _ _ _).trans h
  rw [received_eq]
  dsimp only
  split_ifs
  · exact .inl ⟨f, 0, by rw [hkg]; rfl⟩
  · rw [hkg, afterFrame_eq]
    exact .inr rfl

end Receipt

namespace Worker

variable {p q : Plant} {run : Run}

/-- Within a run, a step of the worker that brings no frame leaves the frame count, the host and
the camera's count of frames alone, and the worker stays in the run or records its end. A wait
it is in after the step is the one it was in, or one it came into from the top of its loop, for
the frame the count names, with the run's target not reached. -/
theorem step_quiet (hw : p.worker.run? = some run)
    (hn : announcesFrame run.session p .worker q = false) (h : Worker.step true p = some q) :
    q.ctl.frameCount = p.ctl.frameCount ∧ q.host = p.host ∧
      q.sim.stats.frames = p.sim.stats.frames ∧
      (q.worker.run? = some run ∨ q.ctl.completedSession = run.session) ∧
      ∀ f n spot m, q.worker = .acquiring run f n spot → spot.awaited = some m →
        (∃ f' n' spot', p.worker = .acquiring run f' n' spot' ∧ spot'.awaited = some m) ∨
        (m = p.ctl.frameCount ∧ ¬(0 < run.params.nbFrames ∧ run.params.nbFrames ≤ m)) := by
  cases hpw : p.worker with
  | idle => simp [Worker.run?, hpw] at hw
  | exited => simp [Worker.run?, hpw] at hw
  | acquiring run' f n spot =>
    obtain rfl : run' = run := by simpa [Worker.run?, hpw] using hw
    have hst := step_acquiring hpw h
    have hrun : q.worker.run? = some run' := by
      rcases (acquireStep_frame hst).2.2.2 with ⟨f', n', s', e⟩ | ⟨o, e⟩ <;> simp [e, Worker.run?]
    cases spot with
    | top =>
      rcases acquireStep_top hst with ⟨-, rfl⟩ | ⟨-, -, -, rfl⟩ | ⟨-, ht, rfl⟩
      · exact ⟨rfl, rfl, rfl, .inl hrun, by simp⟩
      · exact ⟨rfl, rfl, rfl, .inl hrun, by simp⟩
      · refine ⟨rfl, rfl, rfl, .inl hrun, fun f' n' spot m hq hm => .inr ?_⟩
        simp only [Plant.setWorker_worker, Worker.acquiring.injEq] at hq
        simp only [← hq.2.2.2, Spot.awaited, Option.some.injEq] at hm
        subst hm
        exact ⟨rfl, ht⟩
    | waiting m | paused m _ =>
      obtain ⟨pr, hm, hp⟩ := acquireStep_waits rfl hst
      -- the wait returned no frame, so the camera counted none
      have hnd : pr.1.delivers = false := by
        simpa [announcesFrame, hpw, hm] using hn
      have hfr : pr.2.stats.frames = p.sim.stats.frames := by
        rw [Spot.frames_waitMove hm, hnd]
        rfl
      rcases waitProgress_cases hp with ⟨g, hg, -⟩ | ⟨err, -, -, rfl⟩ |
        ⟨err, -, -, -, -, rfl⟩ | ⟨err, -, -, -, rfl⟩ | ⟨pause, -, rfl⟩
      · simp [hg] at hnd
      · exact ⟨rfl, rfl, hfr, .inl hrun, fun _ _ _ _ hq hm' => by cases hq; cases hm'⟩
      · exact ⟨rfl, rfl, hfr, .inl hrun, by simp⟩
      · exact ⟨rfl, rfl, hfr, .inl hrun, fun _ _ _ _ hq hm' => by cases hq; cases hm'⟩
      · -- a wait that pauses is the wait the worker was in
        refine ⟨rfl, rfl, hfr, .inl hrun, fun f' n' spot' m' hq hm' => .inl ⟨f, n, _, rfl, ?_⟩⟩
        simp only [Plant.setWorker_worker, Worker.acquiring.injEq] at hq
        simpa [← hq.2.2.2, Spot.awaited] using hm'
    | latency =>
      rw [acquireStep_latency hst] at hrun ⊢
      exact ⟨rfl, rfl, rfl, .inl hrun, fun _ _ _ _ hq hm' => by cases hq; cases hm'⟩
    | holding m kg =>
      obtain ⟨-, rfl⟩ := acquireStep_holding hst
      refine ⟨afterFrame_frameCount, by simp, by simp, .inl hrun, fun f' n' spot m' hq hm => ?_⟩
      -- after a frame the worker passes the top of its loop before it waits again
      have hnw : (afterFrame run' f m kg p).worker.waitsIn run'.session = false :=
        afterFrame_waitsIn
      simp [hq, Worker.waitsIn, hm] at hnw
  | ending run' o rel st =>
    obtain rfl : run' = run := by simpa [Worker.run?, hpw] using hw
    rcases endStep_eq (step_ending hpw h) with ⟨-, rfl⟩ | ⟨-, -, rfl⟩ | ⟨-, rfl⟩ | ⟨-, rfl⟩
    · exact ⟨by simp, by simp, by simp, .inl (by simp [Worker.run?]), by simp⟩
    · exact ⟨rfl, rfl, rfl, .inl (by simp [Worker.run?]), by simp⟩
    · exact ⟨rfl, rfl, by simp, .inl (by simp [Worker.run?]), by simp⟩
    · refine ⟨by simp, by simp, by simp, .inr (by simp), fun f' n' spot m' hq => ?_⟩
      by_cases hquit : p.ctl.quit <;> simp [hquit] at hq

/-- The worker changes the host's ring only by writing a frame over its buffer and announcing
it. -/
theorem step_ring (h : Worker.step true p = some q) :
    q.host.ring = p.host.ring ∨
      ∃ m image, q.host.ring = ((p.host.ring.write m image).announce m).1 := by
  cases hrun : p.worker.run? with
  | none =>
    cases hpw : p.worker with
    | idle => rcases step_idle hpw h with ⟨-, rfl⟩ | ⟨-, -, rfl⟩ <;> exact .inl rfl
    | exited => simp [step_exited hpw] at h
    | acquiring => simp [hpw, Worker.run?] at hrun
    | ending => simp [hpw, Worker.run?] at hrun
  | some run =>
    cases ha : announcesFrame run.session p .worker q with
    | false => exact .inl (congrArg Host.ring (step_quiet hrun ha h).2.1)
    | true =>
      obtain ⟨-, run', f, n, spot, m, pr, g, hw, -, hm, hg⟩ := announcesFrame_true ha
      rw [step_captured hw hm hg h, received_host]
      exact .inr ⟨m, _, (Host.announce_ring _ m).1⟩

end Worker

/-! ## The host's ring between runs -/

/-- What the host's ring keeps over every execution: its buffers stay well formed, and a run
requested and not yet picked up finds the frame count at zero and no frame announced since its
start. -/
structure Plant.HostReady (p : Plant) : Prop where
  wellFormed : p.host.ring.WellFormed
  fresh : p.ctl.runRequested = true → p.ctl.running = false →
    p.ctl.frameCount = 0 ∧ p.host.ring.lastFrame = none

namespace Plant.HostReady

variable {p q : Plant} {a : Actor}

open Acquisition in
/-- A host call keeps the ring ready: only a hand-over writes it, recording the start of a run
with the frame count at zero. -/
theorem call {c : Call} {e : Bool} {s : Except CameraError Unit} {r : Caller}
    (h : p.HostReady) (hst : Call.step e s c p = some (r, q)) : q.HostReady := by
  by_cases hho : ∃ t, c = .handOver t
  · obtain ⟨t, rfl⟩ := hho
    rcases Call.step_handOver hst with ⟨-, -, rfl⟩ | ⟨-, rfl, -⟩
    · exact h
    · exact ⟨h.wellFormed.step .setStartTimestamp, fun _ _ => ⟨rfl, rfl⟩⟩
  · have hh : q.host = p.host := (Call.step_frames_host hst).2.resolve_right
      (fun ⟨t, ht, _⟩ => hho ⟨t, ht⟩)
    refine ⟨hh ▸ h.wellFormed, fun hreq hrun => ?_⟩
    rw [hh]
    rcases Call.step_calm hst with hcalm | ⟨ha, -, hreq', -⟩ | ⟨-, hq⟩ | ⟨t, ht, -⟩ | ⟨t, -, hq⟩
    · rw [hcalm.frameCount]
      exact h.fresh (hcalm.runRequested ▸ hreq) (hcalm.running ▸ hrun)
    · simp [(Bookkept.active_false ha).2.1, hreq'] at hreq
    · rw [hq] at hreq hrun ⊢
      exact h.fresh hreq hrun
    · exact absurd ⟨t, ht⟩ hho
    · rw [hq] at hreq hrun ⊢
      exact h.fresh hreq hrun

/-- The worker keeps the ring ready: it writes the ring only within a run. -/
theorem worker (h : p.HostReady) (hb : Bookkept p) (hst : Worker.step true p = some q) :
    q.HostReady := by
  refine ⟨?_, fun hreq hrun => ?_⟩
  · rcases Worker.step_ring hst with hr | ⟨m, image, hr⟩ <;> rw [hr]
    · exact h.wellFormed
    · exact (h.wellFormed.write m image).step (.newFrameReady m)
  -- a run is requested and not running only before the worker picks it up
  exfalso
  cases hpw : p.worker with
  | idle =>
    rcases Worker.step_idle hpw hst with ⟨-, rfl⟩ | ⟨hr, -, rfl⟩
    · simp at hrun
    · simp [hr] at hreq
  | acquiring run f n spot =>
    have hr : p.ctl.running = true := by simpa [hpw, Worker.run?] using hb.working.running_eq
    rw [(Worker.acquireStep_frame (Worker.step_acquiring hpw hst)).1] at hrun
    simp [hr] at hrun
  | ending run o rel st =>
    have hr : p.ctl.running = true := by simpa [hpw, Worker.run?] using hb.working.running_eq
    rcases Worker.endStep_eq (Worker.step_ending hpw hst) with ⟨-, rfl⟩ | ⟨-, -, rfl⟩ | ⟨-, rfl⟩ |
      ⟨-, rfl⟩
    · simp [hr] at hrun
    · simp [hr] at hrun
    · simp [hr] at hrun
    · simp at hreq
  | exited => simp [Worker.step_exited hpw] at hst

theorem step {env : Bool} (h : p.HostReady) (hb : Bookkept p) (hs : Transition env p a q)
    (hk : KeepsFrames p a q) : q.HostReady := by
  cases hs with
  | request i rq hm => exact ⟨h.wellFormed, h.fresh⟩
  | call i e s hc hst =>
    have hq := h.call hst
    exact ⟨hq.wellFormed, hq.fresh⟩
  | worker hst => exact h.worker hb hst
  | timer i hst =>
    obtain ⟨hc, -, -, hh⟩ := Timer.step_frame hst
    refine ⟨hh ▸ h.wellFormed, ?_⟩
    rw [hc, hh]
    exact h.fresh
  | outside sim host _ =>
    -- the outside leaves the ring alone
    have hr : host.ring = p.host.ring := (hk rfl).1
    exact ⟨hr ▸ h.wellFormed, fun hreq hrun => by rw [hr]; exact h.fresh hreq hrun⟩

end Plant.HostReady

/-- From a controller just made on a host with a well-formed ring, the ring stays ready. -/
theorem Plant.hostReady_of_reachable {params : AcqParams} {timings : Timings} {deviceIndex : Nat}
    {sim : Sdk.Simulator} {host : Host} {p : Plant} (hring : host.ring.WellFormed)
    (h : ReachableKeeping (Plant.initial params timings deviceIndex sim host) p) :
    p.HostReady := by
  induction h with
  | init => exact ⟨hring, fun hreq => by cases hreq⟩
  | step hp hs hk ih => exact ih.step hp.bookkept hs hk

/-! ## The frames of one run -/

/-- Within a run, a step that keeps the frames and announces none of the run's leaves the frame
count, the ring and the camera's count of frames alone, and the host too unless the outside
takes it; the worker stays in the run or records its end. A wait the worker is in after the
step is one it was in before, or one for the frame the count names, below the run's target. -/
theorem Transition.quiet_in_run {env : Bool} {run : Run} {q q' : Plant} {a : Actor}
    (hb : Bookkept q) (hin : q.worker.run? = some run) (hs : Transition env q a q')
    (hk : KeepsFrames q a q') (hna : announcesFrame run.session q a q' = false) :
    q'.ctl.frameCount = q.ctl.frameCount ∧ q'.host.ring = q.host.ring ∧
      (a ≠ .outside → q'.host = q.host) ∧ q'.sim.stats.frames = q.sim.stats.frames ∧
      (q'.worker.run? = some run ∨ q'.ctl.completedSession = run.session) ∧
      ∀ f n spot m, q'.worker = .acquiring run f n spot → spot.awaited = some m →
        (∃ f' n' spot', q.worker = .acquiring run f' n' spot' ∧ spot'.awaited = some m) ∨
        (m = q.ctl.frameCount ∧ ¬(0 < run.params.nbFrames ∧ run.params.nbFrames ≤ m)) := by
  by_cases hwk : a = .worker
  · subst hwk
    cases hs with
    | worker hst =>
      obtain ⟨hc, hh, hf, hin', hwait⟩ := Worker.step_quiet hin hna hst
      exact ⟨hc, by rw [hh], fun _ => hh, hf, hin', hwait⟩
  · have hrun : q.ctl.running = true := by simpa [hin] using hb.working.running_eq
    obtain ⟨hw, hc, hr, hh, hf⟩ := hb.others_keep_count hs hk hwk hrun
    exact ⟨hc, hr, hh, hf, .inl (hw ▸ hin),
      fun f n spot m hq hm => .inl ⟨f, n, spot, hw ▸ hq, hm⟩⟩

/-- What run `run`, picked up when the camera had counted `base` frames, has done once the
worker has announced `k` of its frames. While the worker is in the run, the frame count is `k`,
the ring's last frame is `k - 1` (none before the first), the camera has counted `k` frames
more; the worker waits only for frame `k`, below the run's target, which `k` never passes.
Once the worker has left the run, the run is over. -/
structure Delivering (run : Run) (base k : Nat) (q : Plant) : Prop where
  live_or_over : q.worker.run? = some run ∨ RunOver run.session q
  count : q.worker.run? = some run →
    q.ctl.frameCount = k ∧ q.host.ring.lastFrame = (if k = 0 then none else some (k - 1)) ∧
      q.sim.stats.frames = base + k
  target : 0 < run.params.nbFrames → k ≤ run.params.nbFrames
  waits : ∀ f n spot m, q.worker = .acquiring run f n spot → spot.awaited = some m →
    m = k ∧ (0 < run.params.nbFrames → k < run.params.nbFrames)

namespace Delivering

variable {env : Bool} {run : Run} {base k : Nat} {q q' : Plant} {a : Actor}

/-- The next frame the run announces is frame `k`: the worker waited for it, and the step is its
receipt. -/
theorem announces (hd : Delivering run base k q) (hb : Bookkept q) (hs : Transition env q a q')
    (ha : announcesFrame run.session q a q' = true) :
    ∃ f n spot pr g, q.worker = .acquiring run f n spot ∧
      spot.waitMove true f q.sim = some (k, pr) ∧ pr.1 = .returned (.captured g) ∧
      q' = received run g k { q with sim := pr.2 } := by
  obtain ⟨rfl, run', f, n, spot, m, pr, g, hw, -, hm, hg⟩ := announcesFrame_true ha
  -- a run that is over announces nothing, so the wait is one of this run
  have hin : q.worker.run? = some run := by
    rcases hd.live_or_over with hin | hover
    · exact hin
    · rw [(RunOver.step hb hover hs).2] at ha
      cases ha
  obtain rfl : run' = run := by simpa [hw, Worker.run?] using hin
  obtain ⟨rfl, -⟩ := hd.waits f n spot m hw (Spot.awaited_of_waitMove hm)
  cases hs with
  | worker hst => exact ⟨f, n, spot, pr, g, hw, hm, hg, Worker.step_captured hw hm hg hst⟩

/-- The receipt of frame `k` is counted, recorded as the last frame and announced. -/
theorem receive (hd : Delivering run base k q) (hb : Bookkept q) (hs : Transition env q a q')
    (ha : announcesFrame run.session q a q' = true) : Delivering run base (k + 1) q' := by
  have hst : Worker.step true q = some q' := by
    obtain ⟨rfl, -⟩ := announcesFrame_true ha
    cases hs with
    | worker hst => exact hst
  obtain ⟨f, n, spot, pr, g, hw, hm, hg, rfl⟩ := hd.announces hb hs ha
  obtain ⟨-, hlt⟩ := hd.waits f n spot k hw (Spot.awaited_of_waitMove hm)
  have hin' : (received run g k { q with sim := pr.2 }).worker.run? = some run := by
    rcases (Worker.acquireStep_frame (Worker.step_acquiring hw hst)).2.2.2 with
      ⟨f', n', s', e⟩ | ⟨o, e⟩ <;> simp [e, Worker.run?]
  -- the wait that returned the frame counted it
  have hframes : pr.2.stats.frames = q.sim.stats.frames + 1 := by
    rw [Spot.frames_waitMove hm, hg]
    rfl
  refine ⟨.inl hin', fun _ => ⟨received_frameCount, ?_, ?_⟩, hlt, fun f' n' spot' m' hq hm' => ?_⟩
  · rw [received_host, (Host.announce_ring _ k).1, Ring.announce_fst]
    simp
  · rw [received_sim, ← Nat.add_assoc,
      ← (hd.count (by simp [hw, Worker.run?])).2.2]
    exact hframes
  · -- after a frame the worker passes the top of its loop before it waits again
    have hnw : (received run g k { q with sim := pr.2 }).worker.waitsIn run.session = false :=
      received_waitsIn
    simp [hq, Worker.waitsIn, hm'] at hnw

/-- A step that keeps the frames and announces none of the run's keeps what the run has done. -/
theorem keep (hd : Delivering run base k q) (hb : Bookkept q) (hb' : Bookkept q')
    (hs : Transition env q a q') (hk : KeepsFrames q a q')
    (hna : announcesFrame run.session q a q' = false) : Delivering run base k q' := by
  rcases hd.live_or_over.symm with hover | hin
  · -- a run that is over stays over
    have hover' := (RunOver.step hb hover hs).1
    have hout := hover'.not_run hb'
    refine ⟨.inr hover', fun h => absurd h hout, hd.target, fun f n spot m hw _ => ?_⟩
    exact absurd (by simp [hw, Worker.run?]) hout
  obtain ⟨hc, hr, -, hf, hin', hwait⟩ := Transition.quiet_in_run hb hin hs hk hna
  refine ⟨?_, fun _ => ?_, hd.target, fun f n spot m hq hm => ?_⟩
  · rcases hin' with hin' | hcomp
    · exact .inl hin'
    · exact .inr (.inl (Nat.le_of_eq hcomp.symm))
  · rw [hc, hr, hf]
    exact hd.count hin
  · rcases hwait f n spot m hq hm with ⟨f', n', spot', hsame, hm'⟩ | ⟨hm, hnt⟩
    · exact hd.waits f' n' spot' m hsame hm'
    · rw [(hd.count hin).1] at hm
      exact ⟨hm, fun hN => by omega⟩

/-- Every step that keeps the frames keeps what the run has done, with one more frame for a step
that announces one. -/
theorem step (hd : Delivering run base k q) (hb : Bookkept q) (hb' : Bookkept q')
    (hs : Transition env q a q') (hk : KeepsFrames q a q') :
    Delivering run base (k + if announcesFrame run.session q a q' then 1 else 0) q' := by
  cases ha : announcesFrame run.session q a q'
  · simpa using hd.keep hb hb' hs hk ha
  · simpa using hd.receive hb hs ha

end Delivering

/-- A run the host declined winds down: the worker holds at the host's no or tears the run
down, or the run is over. -/
def Plant.WindsDown (run : Run) (q : Plant) : Prop :=
  RunOver run.session q ∨ (∃ f n m, q.worker = .acquiring run f n (.holding m false)) ∨
    ∃ o rel st, q.worker = .ending run o rel st

namespace Plant.WindsDown

variable {env : Bool} {run : Run} {q q' : Plant} {a : Actor}

/-- A run that winds down keeps winding down: after the host's no the worker only tears it
down. -/
theorem step (h : q.WindsDown run) (hb : Bookkept q) (hs : Transition env q a q')
    (hk : KeepsFrames q a q') : q'.WindsDown run := by
  rcases h with hover | hwind
  · exact .inl (RunOver.step hb hover hs).1
  have hrun : q.ctl.running = true := by
    rcases hwind with ⟨f, n, m, hw⟩ | ⟨o, rel, st, hw⟩ <;>
      simpa [hw, Worker.run?] using hb.working.running_eq
  by_cases hwk : a = .worker
  · subst hwk
    cases hs with
    | worker hst =>
      rcases hwind with ⟨f, n, m, hw⟩ | ⟨o, rel, st, hw⟩
      · obtain ⟨-, rfl⟩ := Worker.acquireStep_holding (Worker.step_acquiring hw hst)
        rw [afterFrame_eq, if_pos rfl]
        exact .inr (.inr ⟨.hostStopped, true, .signal, rfl⟩)
      · rcases Worker.endStep_eq (Worker.step_ending hw hst) with ⟨-, rfl⟩ | ⟨-, -, rfl⟩ |
          ⟨-, rfl⟩ | ⟨-, rfl⟩
        · exact .inr (.inr ⟨o, rel, .join, rfl⟩)
        · exact .inr (.inr ⟨o, rel, .stopCapture, rfl⟩)
        · exact .inr (.inr ⟨o, rel, .record, rfl⟩)
        · exact .inl (.inl (by simp))
  · obtain ⟨hw, -⟩ := hb.others_keep_count hs hk hwk hrun
    unfold WindsDown
    rw [hw]
    exact .inr hwind

/-- A run that winds down has the worker wait for none of its frames. -/
theorem waitsIn (h : q.WindsDown run) (hb : Bookkept q) : q.worker.waitsIn run.session = false := by
  rcases h with hover | ⟨f, n, m, hw⟩ | ⟨o, rel, st, hw⟩
  · cases hwt : q.worker.waitsIn run.session
    · rfl
    · obtain ⟨run', hr', hs'⟩ := Worker.waitsIn_run hwt
      exact absurd hr' (by rw [← hs'] at hover; exact hover.not_run hb)
  · simp [hw, Worker.waitsIn, Spot.awaited]
  · simp [hw, Worker.waitsIn]

end Plant.WindsDown

/-- A run that winds down from a reachable plant keeps winding down over every execution. -/
theorem Plant.WindsDown.reachable {params : AcqParams} {timings : Timings} {deviceIndex : Nat}
    {sim : Sdk.Simulator} {host : Host} {run : Run} {q q' : Plant}
    (hq : ReachableKeeping (Plant.initial params timings deviceIndex sim host) q)
    (h : q.WindsDown run) (hr : ReachableKeeping q q') : q'.WindsDown run := by
  induction hr with
  | init => exact h
  | step hp hs hk ih => exact ih.step (hq.trans hp).bookkept hs hk

/-! ## A run from its pick-up -/

section Run

variable {params : AcqParams} {timings : Timings} {deviceIndex : Nat} {sim : Sdk.Simulator}
  {host : Host}

/-- The run the worker picks up, on a controller that has counted no frame of it and a ring with
no frame announced, has delivered nothing yet. -/
theorem Delivering.pickUp {p : Plant} (hb : Bookkept p) (hw : p.worker = .idle)
    (hr : p.ctl.runRequested = true) (hc0 : p.ctl.frameCount = 0)
    (hl0 : p.host.ring.lastFrame = none) :
    Delivering ⟨p.ctl.session, p.ctl.timer, p.ctl.params⟩ p.sim.stats.frames 0 (pickUp p) := by
  obtain ⟨f0, hf0⟩ := hb.pickUp_acquiring hw hr
  refine ⟨.inl (by simp [hf0, Worker.run?]), fun _ => ⟨by simp [hc0], by simpa using hl0, rfl⟩,
    fun _ => Nat.zero_le _, fun f n spot m hq hm => ?_⟩
  -- the worker starts at the top of its loop, where it waits for no frame
  simp only [hf0, Worker.acquiring.injEq] at hq
  simp [← hq.2.2.2, Spot.awaited] at hm

/-- What a run has done holds along every execution that keeps the frames, counting the frames
it announces; the plants reached stay reachable. -/
theorem Delivering.of_counted {run : Run} {base k : Nat} {p q : Plant}
    (hp : ReachableKeeping (Plant.initial params timings deviceIndex sim host) p)
    (h0 : Delivering run base 0 p) (hc : CountedKeeping (announcesFrame run.session) p k q) :
    Delivering run base k q ∧
      ReachableKeeping (Plant.initial params timings deviceIndex sim host) q := by
  induction hc with
  | refl => exact ⟨h0, hp⟩
  | step _ hs hk ih =>
    exact ⟨ih.1.step ih.2.bookkept (ih.2.step hs hk).bookkept hs hk, ih.2.step hs hk⟩

/-- The frame a step announces is the receipt of frame `k`, written into the buffer of its
number as far as both go; after the host's no to it the run only winds down, with no further
frame wait. -/
theorem Delivering.announced {run : Run} {base k : Nat} {q q' : Plant} {a : Actor}
    (hring : host.ring.WellFormed)
    (hq : ReachableKeeping (Plant.initial params timings deviceIndex sim host) q)
    (hd : Delivering run base k q) (hs : Transition true q a q')
    (ha : announcesFrame run.session q a q' = true) :
    ∃ f n spot pr g, q.worker = .acquiring run f n spot ∧
      spot.waitMove true f q.sim = some (k, pr) ∧ pr.1 = .returned (.captured g) ∧
      q' = received run g k { q with sim := pr.2 } ∧
      q'.host.ring.lastFrame = some k ∧ q'.ctl.frameCount = k + 1 ∧
      (q'.host.ring.slot k).data.toList.take (min g.image.size (q.host.ring.slot k).size) =
        g.image.data.toList.take (min g.image.size (q.host.ring.slot k).size) ∧
      ((q.host.ring.announce k).2 = false →
        ((∃ g' n', q'.worker = .acquiring run g' n' (.holding k false)) ∨
          q'.worker = .ending run .hostStopped true .signal) ∧
        ∀ q'', ReachableKeeping q' q'' → q''.worker.waitsIn run.session = false) := by
  obtain ⟨f, n, spot, pr, g, hw', hm, hg, rfl⟩ := hd.announces hq.bookkept hs ha
  have hwf := (Plant.hostReady_of_reachable hring hq).wellFormed
  have hring' : (received run g k { q with sim := pr.2 }).host.ring =
      { q.host.ring.write k (g.image.extract 0 (q.host.ring.slot k).size) with
        lastFrame := some k } := by
    rw [received_host, (Host.announce_ring _ k).1, Ring.announce_fst]
  refine ⟨f, n, spot, pr, g, hw', hm, hg, rfl, by rw [hring'], received_frameCount, ?_,
    fun hno => ?_⟩
  · rw [hring']
    exact (Ring.write_extract_slot hwf k g.image).2
  -- after the host's no the run only winds down
  have hdecl := @received_declined run g k { q with sim := pr.2 } hno
  have hwd : (received run g k { q with sim := pr.2 }).WindsDown run := by
    rcases hdecl with ⟨g', n', e⟩ | e
    · exact .inr (.inl ⟨g', n', k, e⟩)
    · exact .inr (.inr ⟨_, _, _, e⟩)
  -- the receipt is a step of the worker, which keeps the frames
  have hq' := hq.step hs (.of_ne (by obtain ⟨rfl, -⟩ := announcesFrame_true ha; simp))
  exact ⟨hdecl, fun q'' hr'' => (hwd.reachable hq' hr'').waitsIn (hq'.trans hr'').bookkept⟩

end Run

/-- Every run the worker picks up from a controller made on a host with a well-formed ring,
whatever its number of frames, the host's number of buffers, the outcome of each frame wait, the
host's answers, the timing of stops and whatever the outside does that leaves the host's ring
and the camera's count of frames alone. The frame count starts at zero with no frame
announced. After `k` announced frames of the run, `k` never passes a target `N > 0`. While the
worker is in the run, its teardown included, the frame count is `k`, the last frame is `k - 1`
(none for `k = 0`), the camera has counted exactly `k` frames more, no wait is made once
`k = N`, and a step that announces no frame leaves the ring alone, and the whole host unless the
outside takes it. The next frame announced is frame `k`: the step is the receipt of the frame
the worker's wait for frame `k` returned, whose image starts the buffer of frame `k` as far as
both go, and a host that answers no to it ends the run at once, with no further frame wait.
Once the worker has left the run it announces none of its frames. -/
theorem run_delivers_frames_in_order {params : AcqParams} {timings : Timings} {deviceIndex : Nat}
    {sim : Sdk.Simulator} {host : Host} {p : Plant} (hring : host.ring.WellFormed)
    (h : ReachableKeeping (Plant.initial params timings deviceIndex sim host) p)
    (hw : p.worker = .idle) (hr : p.ctl.runRequested = true) :
    let run : Run := ⟨p.ctl.session, p.ctl.timer, p.ctl.params⟩
    let N := p.ctl.params.nbFrames
    (pickUp p).ctl.frameCount = 0 ∧ (pickUp p).host.ring.lastFrame = none ∧
    ∀ k q, CountedKeeping (announcesFrame p.ctl.session) (pickUp p) k q →
      (0 < N → k ≤ N) ∧
      (q.worker.run? = some run →
        q.ctl.frameCount = k ∧ q.host.ring.lastFrame = (if k = 0 then none else some (k - 1)) ∧
        q.sim.stats.frames = p.sim.stats.frames + k ∧
        (0 < N → q.worker.waitsIn p.ctl.session = true → k < N) ∧
        ∀ a q', Transition true q a q' → KeepsFrames q a q' →
          announcesFrame p.ctl.session q a q' = false →
          q'.host.ring = q.host.ring ∧ (a ≠ .outside → q'.host = q.host)) ∧
      (∀ a q', Transition true q a q' → announcesFrame p.ctl.session q a q' = true →
        ∃ f n spot pr g, q.worker = .acquiring run f n spot ∧
          spot.waitMove true f q.sim = some (k, pr) ∧ pr.1 = .returned (.captured g) ∧
          q' = received run g k { q with sim := pr.2 } ∧
          q'.host.ring.lastFrame = some k ∧ q'.ctl.frameCount = k + 1 ∧
          (q'.host.ring.slot k).data.toList.take (min g.image.size (q.host.ring.slot k).size) =
            g.image.data.toList.take (min g.image.size (q.host.ring.slot k).size) ∧
          ((q.host.ring.announce k).2 = false →
            ((∃ g' n', q'.worker = .acquiring run g' n' (.holding k false)) ∨
              q'.worker = .ending run .hostStopped true .signal) ∧
            ∀ q'', ReachableKeeping q' q'' → q''.worker.waitsIn p.ctl.session = false)) ∧
      (q.worker.run? ≠ some run →
        ∀ a q', Transition true q a q' → announcesFrame p.ctl.session q a q' = false) := by
  intro run N
  have hb := h.bookkept
  have hrun0 : p.ctl.running = false := by simpa [hw, Worker.run?] using hb.working.running_eq
  obtain ⟨hc0, hl0⟩ := (Plant.hostReady_of_reachable hring h).fresh hr hrun0
  -- the worker picks the run up at the top of its loop, with the prepared frame
  have hpick : ReachableKeeping (Plant.initial params timings deviceIndex sim host) (pickUp p) :=
    h.step (.worker (by simp [Worker.step, hw, hr])) (.of_ne (by simp))
  refine ⟨by simp [hc0], by simpa using hl0, fun k q hc => ?_⟩
  obtain ⟨hd, hq⟩ := Delivering.of_counted hpick (Delivering.pickUp hb hw hr hc0 hl0) hc
  have hbq := hq.bookkept
  refine ⟨hd.target, fun hin => ?_, fun a q' hs ha => hd.announced hring hq hs ha,
    fun hout a q' hs => ?_⟩
  · obtain ⟨h1, h2, h3⟩ := hd.count hin
    refine ⟨h1, h2, h3, fun hN hwt => ?_, fun a q' hs hk hna =>
      ⟨(Transition.quiet_in_run hbq hin hs hk hna).2.1,
        (Transition.quiet_in_run hbq hin hs hk hna).2.2.1⟩⟩
    obtain ⟨run', f, n, spot, m, hw', -, hm⟩ := Worker.waitsIn_eq_true hwt
    obtain rfl : run' = run := by simpa [hw', Worker.run?] using hin
    exact (hd.waits f n spot m hw' hm).2 hN
  · rcases hd.live_or_over with hin | hover
    · exact absurd hin hout
    · exact (RunOver.step hbq hover hs).2

/-- A controller just made with the default parameters on an opened camera of the default build,
for a host with the default ring. -/
def Plant.onOpenedHost : Plant :=
  Plant.initial AcqParams.default default 0
    { Sdk.Simulator.make Sdk.SimConfig.default with initialized := true, opened := true }
    (Host.make Ring.default)

/-- The frames of the run of a prepare and a start on an opened default camera. -/
theorem run_delivers_frames_in_order_opened :
    (Host.make Ring.default).ring.WellFormed ∧
    ∃ p, ReachableKeeping Plant.onOpenedHost p ∧ p.worker = .idle ∧ p.ctl.runRequested = true ∧
      let run : Run := ⟨p.ctl.session, p.ctl.timer, p.ctl.params⟩
      let N := p.ctl.params.nbFrames
      (pickUp p).ctl.frameCount = 0 ∧ (pickUp p).host.ring.lastFrame = none ∧
      ∀ k q, CountedKeeping (announcesFrame p.ctl.session) (pickUp p) k q →
        (0 < N → k ≤ N) ∧
        (q.worker.run? = some run →
          q.ctl.frameCount = k ∧ q.host.ring.lastFrame = (if k = 0 then none else some (k - 1)) ∧
          q.sim.stats.frames = p.sim.stats.frames + k ∧
          (0 < N → q.worker.waitsIn p.ctl.session = true → k < N) ∧
          ∀ a q', Transition true q a q' → KeepsFrames q a q' →
            announcesFrame p.ctl.session q a q' = false →
            q'.host.ring = q.host.ring ∧ (a ≠ .outside → q'.host = q.host)) ∧
        (∀ a q', Transition true q a q' → announcesFrame p.ctl.session q a q' = true →
          ∃ f n spot pr g, q.worker = .acquiring run f n spot ∧
            spot.waitMove true f q.sim = some (k, pr) ∧ pr.1 = .returned (.captured g) ∧
            q' = received run g k { q with sim := pr.2 } ∧
            q'.host.ring.lastFrame = some k ∧ q'.ctl.frameCount = k + 1 ∧
            (q'.host.ring.slot k).data.toList.take (min g.image.size (q.host.ring.slot k).size) =
              g.image.data.toList.take (min g.image.size (q.host.ring.slot k).size) ∧
            ((q.host.ring.announce k).2 = false →
              ((∃ g' n', q'.worker = .acquiring run g' n' (.holding k false)) ∨
                q'.worker = .ending run .hostStopped true .signal) ∧
              ∀ q'', ReachableKeeping q' q'' → q''.worker.waitsIn p.ctl.session = false)) ∧
        (q.worker.run? ≠ some run →
          ∀ a q', Transition true q a q' → announcesFrame p.ctl.session q a q' = false) := by
  -- host thread 0 prepares and starts; the start captures, arms its trigger thread and hands
  -- the run over
  have h : Reachable false _ _ := Reachable.of_runAlone
    (rfl : Plant.onOpenedHost.runAlone (fun _ _ _ => false)
      [.request .prepare, .call, .request .start, .call, .call, .call, .call] = some (0, _))
  have hring : (Host.make Ring.default).ring.WellFormed := Ring.wellFormed_make _
  have hk := ReachableKeeping.of_reachable h
  exact ⟨hring, _, hk, rfl, by decide +kernel,
    run_delivers_frames_in_order hring hk rfl (by decide +kernel)⟩

end CameraAcquisition
