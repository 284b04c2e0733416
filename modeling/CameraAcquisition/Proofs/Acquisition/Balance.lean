import CameraAcquisition.Proofs.Acquisition.Resources

/-!
# The camera's counters

A simulated camera counts every capture started and stopped and every buffer allocated and
released. This module accounts for those counters along every execution of the controller on
a camera that nobody else touches.

Only two things start a capture: the capture start of a start, when the camera grants it, and
the cold start of the first prepare, which marks the controller cold started. Along an
execution the camera counts the granted capture starts of starts and one more once the
controller is cold started (`Counted.capStartsGrow`): the counting is carried step by step by
`CapStartsGrow`, where the cold start flag stands for the one capture start it made.

With `Resourced` this gives the balance of the counters (`resources_balance`): an idle
controller leaves the camera with agreeing counters, no capture, the buffer allocated exactly
while a frame is prepared and no trigger thread alive; and the last step of the drop leaves
every capture started stopped and every buffer allocated released.

## What this module delivers

- `Call.armsCapture`, `armsCapture` and `CapStartsGrow`, with `Transition.capStartsGrow` and
  `Counted.capStartsGrow`.
- `resources_balance`, with its instance at the last step of a drop
  `resources_balance_at_drop`.
-/

set_option autoImplicit false

namespace CameraAcquisition

/-! ## Capture starts a step counts -/

/-- Whether a step of call point `c` on camera `s` is a capture start the camera grants: the
one a start makes for its run. -/
def Call.armsCapture (c : Call) (s : Sdk.Simulator) : Bool :=
  match c with
  | .armCapture params => (s.capStart params.captureMode).1.isOk
  | _ => false

/-- Whether a step is the capture start of a start that the camera grants. -/
def armsCapture (p : Plant) (a : Actor) (_q : Plant) : Bool :=
  match a with
  | .caller i =>
    match p.callers i with
    | .busy c => c.armsCapture p.sim
    | _ => false
  | _ => false

/-- From `p` to `q` the camera counted `n` capture starts besides the cold start, which was
made in between exactly when `q` is cold started and `p` is not; a cold start is never
undone. -/
structure CapStartsGrow (n : Nat) (p q : Plant) : Prop where
  cold_mono : p.ctl.coldStarted = true → q.ctl.coldStarted = true
  capStarts : q.sim.stats.capStarts + (if p.ctl.coldStarted then 1 else 0) =
    p.sim.stats.capStarts + n + (if q.ctl.coldStarted then 1 else 0)

namespace CapStartsGrow

variable {n m : Nat} {p q r : Plant}

theorem refl (p : Plant) : CapStartsGrow 0 p p := ⟨id, rfl⟩

theorem trans (h1 : CapStartsGrow n p q) (h2 : CapStartsGrow m q r) :
    CapStartsGrow (n + m) p r := by
  refine ⟨fun h => h2.cold_mono (h1.cold_mono h), ?_⟩
  have e1 := h1.capStarts
  have e2 := h2.capStarts
  omega

/-- A step that counts no capture start and leaves the cold start alone. -/
theorem of_eq (hs : q.sim.stats.capStarts = p.sim.stats.capStarts)
    (hc : q.ctl.coldStarted = p.ctl.coldStarted) : CapStartsGrow 0 p q :=
  ⟨fun h => hc ▸ h, by rw [hs, hc, Nat.add_zero]⟩

theorem setCaller (h : CapStartsGrow n p q) (i : Nat) (c : Caller) :
    CapStartsGrow n p (q.setCaller i c) :=
  ⟨h.cold_mono, h.capStarts⟩

end CapStartsGrow

/-! ## A prepare -/

namespace Acquisition

open Sdk.Simulator

variable {p q : Plant}

theorem call_capStartsGrow {α : Type} (f : Sdk.Simulator → Sdk.Answer α)
    (hf : ∀ s, (f s).2.holdings = s.holdings) : Act.Keeps (CapStartsGrow 0) (call f) := by
  intro p
  rw [run'_call]
  exact .of_eq (congrArg Sdk.Holdings.capStarts (hf p.sim)) rfl

/-- The cold start counts its capture start and marks the controller cold started, or fails
at a capture start the camera refused and changes nothing. -/
theorem coldStart_capStartsGrow (p : Plant) (hc : p.ctl.coldStarted = false) :
    CapStartsGrow 0 p (coldStart.run' p).2 := by
  have hcount := capStarts_capStart p.sim .triggerSoftware
  rw [coldStart_plant]
  split
  · next u v hu hv =>
    rw [hu] at hcount
    refine ⟨fun _ => rfl, ?_⟩
    simp [hc, hcount, Except.isOk, Except.toBool]
  · next u err hu herr => exact absurd herr (capStop_capStart_ok p.sim _ hu)
  · next err _ herr =>
    rw [capStart_error p.sim _ herr]
    exact .refl p

theorem prepare_capStartsGrow : Act.Keeps (CapStartsGrow 0) prepare := by
  refine prepare_keeps (fun _ _ _ h1 h2 => h1.trans h2) CapStartsGrow.refl
    coldStart_capStartsGrow
    (programTrigger_keeps (fun _ _ _ h1 h2 => h1.trans h2) CapStartsGrow.refl
      (call_capStartsGrow _ holdings_capTrigger)
      fun attr => call_capStartsGrow _ fun s => holdings_setCapTrigger s attr)
    fun p _ => ?_
  -- the allocation counts no capture start
  rw [allocFrame_plant]
  split <;> exact .of_eq (by simp) rfl

/-! ## Every step -/

/-- A step of a host call counts a capture start exactly when it is a start's capture start
the camera grants, besides the cold start of a prepare. -/
theorem Call.step_capStartsGrow {e : Bool} {s : Except CameraError Unit} {c : Call} {r : Caller}
    (hs : Call.step e s c p = some (r, q)) :
    CapStartsGrow (if c.armsCapture p.sim then 1 else 0) p q := by
  cases c with
  | prepare =>
    rcases Call.step_prepare hs with ⟨-, -, rfl⟩ | -
    · exact .refl _
    · rw [Call.step_prepare_plant hs]
      exact prepare_capStartsGrow p
  | armCapture params =>
    obtain ⟨rfl, -⟩ := Call.step_armCapture hs
    exact ⟨id, by rw [capStarts_capStart]; rfl⟩
  | releaseBuffer =>
    rcases Call.step_releaseBuffer hs with ⟨-, -, rfl⟩ | ⟨-, -, rfl⟩
    · exact .refl _
    · exact .of_eq (by split <;> simp) (by split <;> rfl)
  | setRoi attr =>
    rcases Call.step_setRoi hs with ⟨-, -, rfl⟩ | ⟨-, -, rfl⟩
    · exact .refl _
    · exact .of_eq (by split <;> simp) (by split <;> rfl)
  | update f => obtain ⟨-, rfl⟩ := Call.step_update hs; exact .of_eq rfl rfl
  | start =>
    rcases Call.step_start hs with ⟨-, -, -, -, -, rfl⟩ | ⟨-, rfl⟩ <;> exact .of_eq rfl rfl
  | settling params => obtain ⟨-, rfl, -⟩ := Call.step_settling hs; exact .refl _
  | armTimer params =>
    rcases Call.step_armTimer hs with ⟨-, rfl, -⟩ | ⟨-, -, rfl, -⟩ | ⟨-, -, -, rfl, -⟩ <;>
      exact .of_eq (by simp) rfl
  | handOver t =>
    rcases Call.step_handOver hs with ⟨-, -, rfl⟩ | ⟨-, rfl, -⟩ <;> exact .of_eq rfl rfl
  | awaitAck n => obtain ⟨rfl, -⟩ := Call.step_awaitAck hs; exact .refl _
  | cancelling t st =>
    rcases Call.step_cancelling hs with ⟨-, rfl, -⟩ | ⟨-, -, rfl, -⟩ | ⟨-, rfl, -⟩ | ⟨-, -, rfl⟩
    · exact .of_eq (by simp) (by simp)
    · exact .refl _
    · exact .of_eq (by simp [stopCapture]) rfl
    · exact .of_eq rfl rfl
  | failArming err => obtain ⟨-, rfl⟩ := Call.step_failArming hs; exact .of_eq rfl rfl
  | stop a =>
    rcases Call.step_stop hs with ⟨-, -, rfl⟩ | ⟨-, -, rfl⟩
    · exact .of_eq rfl rfl
    · rw [stopUnlessIdle_plant]
      exact .of_eq (by split <;> rfl) (by split <;> rfl)
  | stopAwaitArming a =>
    obtain ⟨-, -, rfl⟩ := Call.step_stopAwaitArming hs
    rw [stopUnlessIdle_plant]
    exact .of_eq (by split <;> rfl) (by split <;> rfl)
  | stopAbort a n =>
    obtain ⟨rfl, -⟩ := Call.step_stopAbort hs
    exact .of_eq (congrArg Sdk.Holdings.capStarts (holdings_abortWait _)) rfl
  | stopPause a n =>
    obtain ⟨-, -, rfl⟩ := Call.step_stopPause hs
    rw [stopLoop_plant]
    exact .refl _
  | resetForce => obtain ⟨-, rfl⟩ := Call.step_resetForce hs; exact .of_eq rfl rfl
  | dropQuit => obtain ⟨-, rfl⟩ := Call.step_dropQuit hs; exact .of_eq rfl rfl
  | dropJoin => obtain ⟨-, -, rfl⟩ := Call.step_dropJoin hs; exact .refl _
  | dropRelease =>
    obtain ⟨-, rfl⟩ := Call.step_dropRelease hs
    exact .of_eq (by split <;> simp) rfl
  | programRoi attr =>
    obtain ⟨-, rfl⟩ := Call.step_programRoi hs
    exact .of_eq (congrArg Sdk.Holdings.capStarts (holdings_setRoi _ _)) rfl

end Acquisition

/-- The worker starts no capture: its frame waits, its teardown's capture stop and buffer
release count none. -/
theorem Worker.step_capStarts {p q : Plant} {pat : Bool} (h : Worker.step pat p = some q) :
    q.sim.stats.capStarts = p.sim.stats.capStarts := by
  cases hw : p.worker with
  | idle => rcases Worker.step_idle hw h with ⟨-, rfl⟩ | ⟨-, -, rfl⟩ <;> rfl
  | acquiring run f n spot =>
    exact congrArg Sdk.Holdings.capStarts
      (Worker.acquireStep_holdings (Worker.step_acquiring hw h))
  | ending run o rel st =>
    rcases Worker.endStep_eq (Worker.step_ending hw h) with
      ⟨-, rfl⟩ | ⟨-, -, rfl⟩ | ⟨-, rfl⟩ | ⟨-, rfl⟩
    · simp
    · rfl
    · cases rel <;> simp [stopCapture]
    · simp
  | exited => simp [Worker.step_exited hw] at h

/-- Every step without interference from outside counts a capture start exactly when it is a
start's capture start the camera grants, besides the cold start. -/
theorem Transition.capStartsGrow {p q : Plant} {a : Actor} (hs : Transition false p a q) :
    CapStartsGrow (if armsCapture p a q then 1 else 0) p q := by
  cases hs with
  | request i rq hm =>
    -- a host thread out of every call makes no capture start
    have hidle : armsCapture p (.caller i) (p.setCaller i (.busy rq.call)) = false := by
      have hb := hm.1
      unfold armsCapture
      cases hc : p.callers i <;> simp_all
    rw [hidle]
    exact .of_eq rfl rfl
  | call i e s hc hst =>
    simp only [armsCapture, hc]
    exact (Acquisition.Call.step_capStartsGrow hst).setCaller i _
  | worker hst => exact .of_eq (Worker.step_capStarts hst) (Worker.step_keeps hst).2.2.2
  | timer k hst =>
    exact .of_eq (congrArg Sdk.Holdings.capStarts (Timer.step_resources hst).1)
      (by rw [(Timer.step_frame hst).1])
  | outside sim host hout => cases hout

/-- Along an execution without interference from outside, the camera counts the granted
capture starts of starts and the cold start. -/
theorem Counted.capStartsGrow {init q : Plant} {n : Nat}
    (h : Counted false armsCapture init n q) : CapStartsGrow n init q := by
  induction h with
  | refl => exact .refl _
  | step _ hs ih => exact ih.trans hs.capStartsGrow

/-! ## The balance -/

/-- The last step of the drop gives a prepared frame back on an idle controller, so it leaves
every capture started stopped and every buffer allocated released. -/
theorem Resourced.dropped {p q : Plant} (h : Resourced p) (hb : Bookkept p) {i : Nat}
    (hc : p.callers i = .busy .dropRelease) (hs : Transition false p (.caller i) q) :
    q.sim.stats.bufAllocs = q.sim.stats.bufReleases ∧
      q.sim.stats.capStarts = q.sim.stats.capStops := by
  have ha := hb.dropRelease_idle hc
  -- the step is the release of the drop, which leaves no frame prepared
  have hq : q.ctl.isActive = false ∧ q.ctl.frame = none := by
    cases hs with
    | request j rq hm =>
      have hbusy := hm.1
      simp [hc] at hbusy
    | call j e s hc' hst =>
      rw [hc] at hc'
      cases hc'
      obtain ⟨-, rfl⟩ := Acquisition.Call.step_dropRelease hst
      exact ⟨ha, rfl⟩
  obtain ⟨-, hcs, hbuf, -, -⟩ := (h.step hb hs).idle (hb.step hs) hq.1
  simp only [hq.2, Option.isSome_none, Bool.false_eq_true, if_false, Nat.add_zero] at hbuf
  exact ⟨hbuf, hcs⟩

/-- Along every execution from a controller just made on a camera that holds nothing and whose
counters agree, without interference from outside: whenever no start is arming and no run is
requested or running, the camera is not capturing, its capture counters agree, its buffer is
allocated exactly while a frame is prepared, and counted once more allocated than released
then, and no trigger thread is alive; the camera has counted the capture starts of starts it
granted and one more once the controller is cold started; and the last step of the drop
leaves every capture started stopped and every buffer allocated released. -/
theorem resources_balance {params : AcqParams} {timings : Timings} {deviceIndex : Nat}
    {sim : Sdk.Simulator} {host : Host} {n : Nat} {p : Plant}
    (hcap : sim.capture = none) (hal : sim.allocated = false)
    (hcs : sim.stats.capStarts = sim.stats.capStops)
    (hbuf : sim.stats.bufAllocs = sim.stats.bufReleases)
    (h : Counted false armsCapture (Plant.initial params timings deviceIndex sim host) n p) :
    (p.ctl.isActive = false →
      p.sim.capture = none ∧ p.sim.stats.capStarts = p.sim.stats.capStops ∧
      p.sim.stats.bufAllocs = p.sim.stats.bufReleases + (if p.ctl.frame.isSome then 1 else 0) ∧
      p.sim.allocated = p.ctl.frame.isSome ∧ ∀ t ∈ p.timers, t.isAlive = false) ∧
    p.sim.stats.capStarts = sim.stats.capStarts + n + (if p.ctl.coldStarted then 1 else 0) ∧
    (∀ i q, p.callers i = .busy .dropRelease → Transition false p (.caller i) q →
      q.sim.stats.bufAllocs = q.sim.stats.bufReleases ∧
      q.sim.stats.capStarts = q.sim.stats.capStops) := by
  have hreach := h.reachable
  have hb := bookkept_of_reachable hreach
  have hr := Resourced.of_reachable hcap hal hcs hbuf hreach
  -- the controller just made is not cold started
  have hcount := h.capStartsGrow.capStarts
  simp only [Plant.initial, Controller.make, Bool.false_eq_true, if_false, Nat.add_zero] at hcount
  exact ⟨hr.idle hb, hcount, fun i q hc hs => hr.dropped hb hc hs⟩

/-- The balance at the last step of a drop: one host thread prepares and starts a run on an
opened default camera, stops it once the worker has picked it up, and after the teardown
prepares again and drops the controller. The start's capture start is the one step counted; the
camera has started two captures, the cold start's and the run's, and the drop is about to
release the frame prepared last. -/
theorem resources_balance_at_drop :
    let init := Plant.onOpenedCamera AcqParams.default
    init.sim.capture = none ∧ init.sim.allocated = false ∧
    init.sim.stats.capStarts = init.sim.stats.capStops ∧
    init.sim.stats.bufAllocs = init.sim.stats.bufReleases ∧
    ∃ p, Counted false armsCapture init 1 p ∧ p.ctl.isActive = false ∧
    p.ctl.frame.isSome = true ∧ p.callers 0 = .busy .dropRelease ∧ p.sim.stats.capStarts = 2 ∧
    (p.ctl.isActive = false →
      p.sim.capture = none ∧ p.sim.stats.capStarts = p.sim.stats.capStops ∧
      p.sim.stats.bufAllocs = p.sim.stats.bufReleases + (if p.ctl.frame.isSome then 1 else 0) ∧
      p.sim.allocated = p.ctl.frame.isSome ∧ ∀ t ∈ p.timers, t.isAlive = false) ∧
    p.sim.stats.capStarts = init.sim.stats.capStarts + 1 + (if p.ctl.coldStarted then 1 else 0) ∧
    (∀ i q, p.callers i = .busy .dropRelease → Transition false p (.caller i) q →
      q.sim.stats.bufAllocs = q.sim.stats.bufReleases ∧
      q.sim.stats.capStarts = q.sim.stats.capStops) := by
  dsimp only
  -- the stop aborts the frame wait; the worker and the trigger thread end the run
  obtain ⟨h, -⟩ := Counted.runAlone (.refl _) (OthersIdle.initial _ _ _ _ _)
    (rfl : (Plant.onOpenedCamera AcqParams.default).runAlone armsCapture
      (Move.beginRun ++ [.request .stop, .call, .call, .worker, .worker, .timer 0, .worker,
        .worker, .worker, .call, .request .prepare, .call, .request .drop, .call, .call,
        .worker, .call]) = some (1, _))
  exact ⟨rfl, rfl, rfl, rfl, _, h, by decide +kernel, by decide +kernel, rfl, by decide +kernel,
    resources_balance rfl rfl rfl rfl h⟩

end CameraAcquisition
