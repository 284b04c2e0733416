import CameraAcquisition.Proofs.Acquisition.Setup
import CameraAcquisition.Proofs.Acquisition.Stopping

/-!
# One set of parameters per run

A start takes the controller's parameters as it begins (`beginStart`), starts the capture in
their capture mode, starts a trigger thread for their number of frames when they ask for
internal triggers, and hands the run over; the worker copies the controller's parameters and
thread when it picks the run up. The run goes by the parameters its start took only if nobody
changes the controller's parameters in between.

`ParamsHeld` says what a start and a run hold: while a start arms, the parameters it took are
the controller's and the capture runs in their mode; a run handed over and the run the worker
runs are armed as the parameters they go by choose (`Plant.ArmedBy`). Every step keeps it but an
update in the middle of a start (`Plant.UpdatesMidStart`), so it holds along every execution
that has none (`run_keeps_start_params`). An execution with one such update shows the condition
is needed (`run_params_can_change`): the worker runs for three frames with a thread armed to
fire one trigger.

## What this module delivers

- `Simulator.capture_capStart_ok`.
- `Plant.limitOf`, the number of triggers of a thread, with `Transition.limitOf_eq`.
- `Plant.ArmedBy` with `ArmedBy.congr` and `ArmedBy.thread_fires`, `Plant.UpdatesMidStart` with
  its test `Plant.isUpdateMidStart`.
- `ParamsHeld` with one lemma per kind of step and `ParamsHeld.of_reachable`.
- `run_keeps_start_params` with its instance in a run `run_keeps_start_params_running`, and
  `run_params_can_change` from `Plant.onOpenedCamera`.
-/

set_option autoImplicit false

namespace CameraAcquisition

/-- A capture start the camera takes captures in the mode asked for. -/
theorem Sdk.Simulator.capture_capStart_ok (s : Sdk.Simulator) {m : Sdk.CaptureMode} {u : Unit}
    (h : (s.capStart m).1 = .ok u) : (s.capStart m).2.capture = some m := by
  unfold Sdk.Simulator.capStart at h ⊢
  rw [Sdk.Simulator.whenOpen_eq] at h ⊢
  split_ifs at h ⊢
  simp_all

/-! ## The number of triggers of a thread -/

namespace Plant

/-- The number of triggers thread `j` is to fire, when there is a thread `j`. -/
def limitOf (p : Plant) (j : Nat) : Option Nat := p.timers[j]?.map Timer.limit

variable {p q : Plant}

theorem limitOf_of_timers (h : q.timers = p.timers) (j : Nat) : q.limitOf j = p.limitOf j := by
  simp [limitOf, h]

/-- A change of one trigger thread that keeps its number keeps every thread's number. -/
theorem limitOf_modifyTimer {k : Nat} {f : Timer → Timer} (hf : ∀ x, (f x).limit = x.limit)
    (j : Nat) : (p.modifyTimer k f).limitOf j = p.limitOf j := by
  simp only [limitOf, modifyTimer, List.getElem?_modify]
  cases hj : p.timers[j]? with
  | none => rfl
  | some x => split <;> simp [hf]

theorem limitOf_signalTimer (t : Option Nat) (j : Nat) :
    (signalTimer t p).limitOf j = p.limitOf j := by
  cases t with
  | none => rfl
  | some k =>
    simp only [signalTimer]
    apply limitOf_modifyTimer
    intro x
    rfl

/-- A thread just started is to fire its number, and changes no other thread's number. -/
theorem limitOf_append_make (n j : Nat) :
    { p with timers := p.timers ++ [Timer.make n] }.limitOf j =
      if j = p.timers.length then some n else p.limitOf j := by
  simp only [limitOf, List.getElem?_append]
  split
  · next hj => rw [if_neg (by omega)]
  · next hj =>
    have hp : p.timers[j]? = none := List.getElem?_eq_none (by omega)
    rw [hp, List.getElem?_singleton]
    split <;> split <;> first | rfl | omega

theorem lt_of_limitOf {j : Nat} (hj : (p.limitOf j).isSome) : j < p.timers.length := by
  simpa [limitOf] using hj

end Plant

/-- No step changes the number of triggers of a thread there is. -/
theorem Transition.limitOf_eq {p q : Plant} {a : Actor} (hs : Transition false p a q) {j : Nat}
    (hj : (p.limitOf j).isSome) : q.limitOf j = p.limitOf j := by
  cases hs with
  | request i rq hm => rfl
  | @call q c r i e s hc hst =>
    rcases Acquisition.Call.step_timers hst with ⟨t, ht⟩ | ⟨ps, -, -, ht⟩
    · have e : (q.setCaller i r).timers = (signalTimer t p).timers := by
        rw [Plant.setCaller_timers, ht]
      rw [Plant.limitOf_of_timers e, Plant.limitOf_signalTimer]
    · -- the thread started comes after every thread there is
      have e : (q.setCaller i r).timers =
          ({ p with timers := p.timers ++ [Timer.make ps.nbFrames] } : Plant).timers := by
        rw [Plant.setCaller_timers, ht]
      rw [Plant.limitOf_of_timers e, Plant.limitOf_append_make,
        if_neg (Nat.ne_of_lt (Plant.lt_of_limitOf hj))]
  | worker hst =>
    obtain ⟨t, ht⟩ := Worker.step_timers hst
    rw [Plant.limitOf_of_timers ht, Plant.limitOf_signalTimer]
  | timer k hst =>
    -- a trigger thread changes its own state and count, never its number
    obtain ⟨t, -, ⟨-, rfl⟩ | ⟨-, -, rfl⟩ | ⟨-, -, rfl⟩⟩ := Timer.step_eq hst <;>
      exact (Plant.limitOf_modifyTimer (by intro x; rfl) j).trans rfl
  | outside sim host hout => cases hout

/-! ## A run armed as its parameters choose -/

/-- The camera and the trigger threads are armed as the parameters `ps` choose, for a run with
trigger thread `t`: the camera captures in their capture mode, the run has a thread exactly when
it is internally triggered, and the thread is to fire their number of frames. -/
structure Plant.ArmedBy (p : Plant) (ps : AcqParams) (t : Option Nat) : Prop where
  capture : p.sim.capture = some ps.captureMode
  thread : t.isSome = true ↔ ps.trigMode = .intTrig
  count : ∀ j, t = some j → p.limitOf j = some ps.nbFrames

/-- How a run is armed is read off the capture and the numbers of the threads. -/
theorem Plant.ArmedBy.congr {p q : Plant} {ps : AcqParams} {t : Option Nat} (h : p.ArmedBy ps t)
    (hcap : q.sim.capture = p.sim.capture)
    (hlim : ∀ j, (p.limitOf j).isSome → q.limitOf j = p.limitOf j) : q.ArmedBy ps t := by
  refine ⟨hcap.trans h.capture, h.thread, fun j hj => ?_⟩
  rw [hlim j (by simp [h.count j hj])]
  exact h.count j hj

/-- An internally triggered run armed as its parameters choose has a thread that is to fire its
number of frames. -/
theorem Plant.ArmedBy.thread_fires {p : Plant} {ps : AcqParams} {t : Option Nat}
    (h : p.ArmedBy ps t) (hm : ps.trigMode = .intTrig) :
    ∃ j tm, t = some j ∧ p.timers[j]? = some tm ∧ tm.limit = ps.nbFrames := by
  obtain ⟨j, rfl⟩ := Option.isSome_iff_exists.1 (h.thread.2 hm)
  obtain ⟨tm, htm, hl⟩ := Option.map_eq_some_iff.1 (h.count j rfl)
  exact ⟨j, tm, rfl, htm, hl⟩

/-- Host thread `i` updates the parameters while a start holds the arming flag, or while a run
it handed over waits for the worker. -/
def Plant.UpdatesMidStart (p : Plant) (a : Actor) : Prop :=
  ∃ i f, a = .caller i ∧ p.callers i = .busy (.update f) ∧
    (p.ctl.arming = true ∨ (p.ctl.runRequested = true ∧ p.ctl.running = false))

/-- The steps `Plant.UpdatesMidStart` picks out, as a test that a schedule can count. -/
def Plant.isUpdateMidStart (p : Plant) (a : Actor) (_ : Plant) : Bool :=
  match a with
  | .caller i =>
    match p.callers i with
    | .busy (.update _) => p.ctl.arming || p.ctl.runRequested && !p.ctl.running
    | _ => false
  | _ => false

theorem Plant.UpdatesMidStart.isUpdateMidStart {p q : Plant} {a : Actor}
    (h : Plant.UpdatesMidStart p a) : p.isUpdateMidStart a q = true := by
  obtain ⟨i, f, rfl, hc, hw⟩ := h
  simp only [Plant.isUpdateMidStart, hc]
  rcases hw with hw | ⟨hr, hn⟩ <;> simp [*]

/-- The worker is in a run's frame loop only while a run runs. -/
theorem Bookkept.running_of_acquiring {p : Plant} (hb : Bookkept p) {run : Run} {f : Sdk.Frame}
    {k : Nat} {spot : Spot} (hw : p.worker = .acquiring run f k spot) : p.ctl.running = true := by
  have e : p.ctl.running = p.worker.run?.isSome := hb.working.running_eq
  rw [e, hw]
  rfl

/-- A start holds to the parameters it took: while it arms they are the controller's, and its
capture runs in their capture mode from its capture start on; the trigger thread it hands over,
the run it hands over and the run the worker runs are armed as the parameters the run goes by
choose. -/
structure ParamsHeld (p : Plant) : Prop where
  taken : ∀ i ps, (p.callers i).params? = some ps → p.ctl.params = ps
  armed : ∀ i ps, (p.callers i = .busy (.settling ps) ∨ p.callers i = .busy (.armTimer ps)) →
    p.sim.capture = some ps.captureMode
  handed : ∀ i t, p.callers i = .busy (.handOver t) → p.ctl.stopRequested = false →
    p.ArmedBy p.ctl.params t
  pending : p.ctl.runRequested = true → p.ctl.running = false →
    p.ArmedBy p.ctl.params p.ctl.timer
  running : ∀ run f k spot, p.worker = .acquiring run f k spot → p.ArmedBy run.params run.timer

namespace ParamsHeld

variable {p q : Plant}

/-- With no start arming, only a run handed over or running holds parameters. -/
theorem of_unarmed (hq : ∀ i, (q.callers i).isArming = false)
    (hpend : q.ctl.runRequested = true → q.ctl.running = false →
      q.ArmedBy q.ctl.params q.ctl.timer)
    (hrun : ∀ run f k spot, q.worker = .acquiring run f k spot → q.ArmedBy run.params run.timer) :
    ParamsHeld q := by
  refine ⟨fun i ps hps => ?_, fun i ps hi => ?_, fun i t hi _ => ?_, hpend, hrun⟩
  · have := hq i
    simp [Caller.isArming_of_params? hps] at this
  · have := hq i
    rcases hi with hi | hi <;> simp [hi, Call.isArming] at this
  · have := hq i
    simp [hi, Call.isArming] at this

/-- Nobody holds parameters on an idle controller. -/
theorem of_idle (hb : Bookkept q) (ha : q.ctl.isActive = false) : ParamsHeld q := by
  obtain ⟨harm, hr, hrun⟩ := Bookkept.active_false ha
  refine of_unarmed (fun i => ?_) (fun hr' => by simp [hr] at hr') fun run f k spot hw => ?_
  · cases h : (q.callers i).isArming
    · rfl
    · simp [(hb.arming_caller h).1] at harm
  · simp [hb.running_of_acquiring hw] at hrun

/-- While a start arms, only the start holds parameters. -/
theorem of_arming (hb : Bookkept q) {i : Nat} (ha : (q.callers i).isArming = true)
    (htaken : ∀ ps, (q.callers i).params? = some ps → q.ctl.params = ps)
    (harmed : ∀ ps, (q.callers i = .busy (.settling ps) ∨ q.callers i = .busy (.armTimer ps)) →
      q.sim.capture = some ps.captureMode)
    (hhanded : ∀ t, q.callers i = .busy (.handOver t) → q.ctl.stopRequested = false →
      q.ArmedBy q.ctl.params t) : ParamsHeld q := by
  obtain ⟨-, hr, hrun⟩ := hb.arming_caller ha
  -- every host thread that arms is `i`
  have only : ∀ j, (q.callers j).isArming = true → j = i := fun j hj =>
    hb.armed.arming_unique j i hj ha
  refine ⟨fun j ps hps => ?_, fun j ps hj => ?_, fun j t hj hs => ?_,
    fun hr' => by simp [hr] at hr', fun run f k spot hw => ?_⟩
  · obtain rfl := only j (Caller.isArming_of_params? hps)
    exact htaken ps hps
  · obtain rfl := only j (by rcases hj with hj | hj <;> simp [hj, Call.isArming])
    exact harmed ps hj
  · obtain rfl := only j (by simp [hj, Call.isArming])
    exact hhanded t hj hs
  · simp [hb.running_of_acquiring hw] at hrun

/-- A start at a point that holds no parameters and hands nothing over holds none. -/
theorem of_bare (hb : Bookkept q) {i : Nat} {c : Call} (hc : q.callers i = .busy c)
    (ha : c.isArming = true) (hn : c.params? = none) (hh : ∀ t, c ≠ .handOver t) :
    ParamsHeld q := by
  refine of_arming hb (i := i) (by simp [hc, ha]) (fun ps hps => by simp [hc, hn] at hps)
    (fun ps hps => ?_) (fun t ht => absurd (Caller.busy.inj (hc.symm.trans ht)) (hh t))
  rcases hps with e | e <;> cases hc.symm.trans e <;> simp [Call.params?] at hn

/-- A start about to hand over a run, armed as the controller's parameters choose unless a
stop is requested, holds them. -/
theorem of_handing (hb : Bookkept q) {i : Nat} {t : Option Nat}
    (hc : q.callers i = .busy (.handOver t))
    (h : q.ctl.stopRequested = false → q.ArmedBy q.ctl.params t) : ParamsHeld q := by
  refine of_arming hb (i := i) (by simp [hc, Call.isArming])
    (fun ps hps => by simp [hc, Call.params?] at hps) (fun ps hps => ?_) (fun t' ht hs => ?_)
  · rcases hps with e | e <;> cases hc.symm.trans e
  · cases hc.symm.trans ht
    exact h hs

/-- A start at a point that holds the controller's parameters, with the capture in their mode,
holds them. -/
theorem of_holding (hb : Bookkept q) {i : Nat} {c : Call} {ps : AcqParams}
    (hc : q.callers i = .busy c) (hps : c.params? = some ps) (hh : ∀ t, c ≠ .handOver t)
    (hp : q.ctl.params = ps) (hcap : q.sim.capture = some ps.captureMode) : ParamsHeld q := by
  have hq : (q.callers i).params? = some ps := by simp [hc, hps]
  refine of_arming hb (Caller.isArming_of_params? hq) (fun ps' hps' => ?_) (fun ps' hps' => ?_)
    (fun t ht => absurd (Caller.busy.inj (hc.symm.trans ht)) (hh t))
  · simp only [hc, Caller.params?_busy, hps, Option.some.injEq] at hps'
    rw [hp, hps']
  · -- the point names the parameters it holds
    have e : c.params? = some ps' := by
      rcases hps' with e | e <;> rw [Caller.busy.inj (hc.symm.trans e)] <;> rfl
    rw [hps, Option.some.injEq] at e
    rw [← e]
    exact hcap

/-- A run requested and not yet picked up holds the controller's parameters alone. -/
theorem of_pending (hb : Bookkept q) (hr : q.ctl.runRequested = true)
    (hrun : q.ctl.running = false) (h : q.ArmedBy q.ctl.params q.ctl.timer) : ParamsHeld q := by
  refine of_unarmed (fun i => ?_) (fun _ _ => h) fun run f k spot hw => ?_
  · cases hi : (q.callers i).isArming
    · rfl
    · simp [(hb.arming_caller hi).2.1] at hr
  · simp [hb.running_of_acquiring hw] at hrun

/-- While a run runs, the worker's run alone holds parameters. -/
theorem of_running (hb : Bookkept q) (hrun : q.ctl.running = true)
    (h : ∀ run f k spot, q.worker = .acquiring run f k spot → q.ArmedBy run.params run.timer) :
    ParamsHeld q := by
  refine of_unarmed (fun i => ?_) (fun _ hrun' => by simp [hrun] at hrun') h
  cases hi : (q.callers i).isArming
  · rfl
  · simp [(hb.arming_caller hi).2.2] at hrun

/-- A step that moves no host thread that holds parameters or hands a run over, keeps a stop
request made while one hands over, keeps the run flags and the thread handed over, moves the
worker into no run, keeps the parameters while a start or a run waiting for the worker goes by
them, keeps the capture while active, and keeps the threads' numbers. -/
theorem of_calm (h : ParamsHeld p) (hb : Bookkept p)
    (hcl : ∀ j, q.callers j ≠ p.callers j →
      (q.callers j).params? = none ∧ ∀ t, q.callers j ≠ .busy (.handOver t))
    (hstop : ∀ j t, p.callers j = .busy (.handOver t) → p.ctl.stopRequested = true →
      q.ctl.stopRequested = true)
    (hst : q.ctl.triggerStakes = p.ctl.triggerStakes)
    (hw : ∀ run f k spot, q.worker = .acquiring run f k spot →
      p.worker = .acquiring run f k spot)
    (hparams : p.ctl.arming = true ∨ (p.ctl.runRequested = true ∧ p.ctl.running = false) →
      q.ctl.params = p.ctl.params)
    (hcap : p.ctl.isActive = true → q.sim.capture = p.sim.capture)
    (hlim : ∀ j, (p.limitOf j).isSome → q.limitOf j = p.limitOf j) : ParamsHeld q := by
  simp only [Controller.triggerStakes, TriggerStakes.mk.injEq] at hst
  obtain ⟨hr, hrun, ht, -⟩ := hst
  -- a host thread in a start did not move
  have same : ∀ j, (q.callers j).params? ≠ none ∨ (∃ t, q.callers j = .busy (.handOver t)) →
      q.callers j = p.callers j := by
    intro j hj
    by_contra hne
    obtain ⟨hn, hh⟩ := hcl j hne
    rcases hj with hj | ⟨t, ht'⟩
    · exact hj hn
    · exact hh t ht'
  -- what a start reads is kept while it arms
  have arming : ∀ j, (p.callers j).isArming = true →
      q.ctl.params = p.ctl.params ∧ q.sim.capture = p.sim.capture := by
    intro j hj
    have harm := (hb.arming_caller hj).1
    exact ⟨hparams (.inl harm), hcap (by simp [Controller.isActive, harm])⟩
  refine ⟨fun i ps hps => ?_, fun i ps hi => ?_, fun i t hi hs => ?_, fun hr' hrun' => ?_,
    fun run f k spot hw' => ?_⟩
  · rw [same i (.inl (by simp [hps]))] at hps
    rw [(arming i (Caller.isArming_of_params? hps)).1]
    exact h.taken i ps hps
  · have hps : (q.callers i).params? = some ps := by
      rcases hi with hi | hi <;> simp [hi, Call.params?]
    rw [same i (.inl (by simp [hps]))] at hi hps
    rw [(arming i (Caller.isArming_of_params? hps)).2]
    exact h.armed i ps hi
  · rw [same i (.inr ⟨t, hi⟩)] at hi
    have ha : (p.callers i).isArming = true := by simp [hi, Call.isArming]
    -- the stop request was not made before the step either
    have hs' : p.ctl.stopRequested = false := by
      cases e : p.ctl.stopRequested
      · rfl
      · simp [hstop i t hi e] at hs
    obtain ⟨hps, hc⟩ := arming i ha
    rw [hps]
    exact (h.handed i t hi hs').congr hc hlim
  · rw [hr] at hr'
    rw [hrun] at hrun'
    have hps := hparams (.inr ⟨hr', hrun'⟩)
    rw [hps, ht]
    exact (h.pending hr' hrun').congr (hcap (by simp [Controller.isActive, hr'])) hlim
  · have hwp := hw run f k spot hw'
    have hrunp := hb.running_of_acquiring hwp
    exact (h.running run f k spot hwp).congr (hcap (by simp [Controller.isActive, hrunp])) hlim

/-! ### Every step but an update in the middle of a start keeps the parameters held -/

/-- A request begins a call that holds no parameters and hands nothing over. -/
theorem request (h : ParamsHeld p) (hb : Bookkept p) {i : Nat} {rq : Request} :
    ParamsHeld (p.setCaller i (.busy rq.call)) := by
  refine h.of_calm hb (fun j hj => ?_) (fun _ _ _ hs => hs) rfl (fun _ _ _ _ hw => hw)
    (fun _ => rfl) (fun _ => rfl) (fun _ _ => rfl)
  have hji : j = i := by
    by_contra hne
    simp [hne] at hj
  subst hji
  simp only [Plant.setCaller_callers, Function.update_self]
  cases rq <;> simp [Request.call, Call.params?]

/-- A call outside every start moves nobody who holds parameters, unless it begins a start,
which takes the controller's; an update keeps them unless it comes in the middle of a start. -/
theorem call_unarmed (h : ParamsHeld p) (hb : Bookkept p) {i : Nat} {e : Bool}
    {s : Except CameraError Unit} {c : Call} {r : Caller} (hc : p.callers i = .busy c)
    (hs : Acquisition.Call.step e s c p = some (r, q)) (hca : c.isArming = false)
    (hgood : ∀ f, c = .update f →
      ¬(p.ctl.arming = true ∨ (p.ctl.runRequested = true ∧ p.ctl.running = false))) :
    ParamsHeld (q.setCaller i r) := by
  have hbq : Bookkept (q.setCaller i r) := hb.call hc hs
  obtain ⟨hw, hcl⟩ := Acquisition.Call.step_frame hs
  obtain ⟨hps, -, -, hheld⟩ := Acquisition.Call.step_setup hs
  have hi : ∀ (q' : Plant) (x : Caller), (q'.setCaller i x).callers i = x := fun q' x => by simp
  by_cases hstart : c = .start
  · subst hstart
    rcases Acquisition.Call.step_start hs with ⟨-, -, -, -, rfl, rfl⟩ | ⟨rfl, rfl⟩
    · -- the start takes the controller's parameters
      refine of_arming hbq (i := i) (by rw [hi]; rfl) (fun ps hps' => ?_)
        (fun ps hps' => by rw [hi] at hps'; rcases hps' with e | e <;> cases e)
        (fun t ht => by rw [hi] at ht; cases ht)
      rw [hi] at hps'
      simpa [Call.params?] using hps'
    · exact h.of_calm hb (fun j hj => by by_cases hji : j = i <;> simp_all)
        (fun _ _ _ hs => hs) rfl (fun _ _ _ _ hw => hw) (fun _ => rfl) (fun _ => rfl)
        (fun _ _ => rfl)
  · -- a call outside every start takes no part in the parameters held
    obtain ⟨hr, hst, htm, hfeed⟩ := Acquisition.Call.step_unarmed hca hs
    have hrp : r.params? = none := by
      cases e : r.params? with
      | none => rfl
      | some ps =>
        rcases hheld ps e with ⟨hs', -⟩ | hc'
        · exact absurd hs' hstart
        · have := Caller.isArming_of_params? (c := .busy c) hc'
          simp [hca] at this
    refine h.of_calm hb (fun j hj => ?_) (fun j t hj hst' => ?_) (by simpa using hst)
      (fun run f k spot hw' => by simpa [hw] using hw') (fun hwin => ?_) (fun ha => ?_)
      (fun j _ => Plant.limitOf_of_timers (by simp [htm]) j)
    · have hji : j = i := by
        by_contra hne
        rw [Plant.setCaller_callers, Function.update_of_ne hne, hcl] at hj
        exact hj rfl
      subst hji
      refine ⟨by simpa using hrp, fun t ht => ?_⟩
      rw [hi] at ht
      simp [ht, Call.feed] at hr
    · -- the host thread handing a run over arms, and every other step is calm then
      have harm : (p.callers j).isArming = true := by simp [hj, Call.isArming]
      have hne : Actor.caller i ≠ .caller j := fun e => by
        obtain rfl := Actor.caller.inj e
        simp [hc, hca] at harm
      exact (hb.arming_calm harm (.call i e s hc hs) hne).stopRequested hst'
    · rcases hps with hps | ⟨f, rfl⟩
      · exact hps
      · exact absurd hwin (hgood f rfl)
    · rcases hfeed with ⟨-, ha'⟩ | hfeed
      · simp [ha'] at ha
      · exact congrArg Sdk.Feed.capture hfeed

/-- The start that arms holds the parameters alone until it hands its run over or gives up: it
captures in their mode, starts a thread for their number of frames, and hands over a run armed
as they choose. -/
theorem call_arming (h : ParamsHeld p) (hb : Bookkept p) {i : Nat} {e : Bool}
    {s : Except CameraError Unit} {c : Call} {r : Caller} (hc : p.callers i = .busy c)
    (hs : Acquisition.Call.step e s c p = some (r, q)) (hca : c.isArming = true) :
    ParamsHeld (q.setCaller i r) := by
  have hbq : Bookkept (q.setCaller i r) := hb.call hc hs
  have hi : ∀ (q' : Plant) (x : Caller), (q'.setCaller i x).callers i = x := fun q' x => by simp
  have ha : (p.callers i).isArming = true := by simp [hc, hca]
  obtain ⟨-, hr0, hrun0⟩ := hb.arming_caller ha
  -- what the start holds at its current point
  have hown : ∀ ps, c.params? = some ps → p.ctl.params = ps := fun ps hps =>
    h.taken i ps (by simp [hc, hps])
  have nh : ∀ {c' : Call}, c'.params? ≠ none → ∀ t, c' ≠ .handOver t := by
    intro c' hc' t e
    simp [e, Call.params?] at hc'
  cases c with
  | armCapture ps =>
    obtain ⟨rfl, ⟨u, hok, rfl⟩ | ⟨err, -, rfl⟩⟩ := Acquisition.Call.step_armCapture hs
    · -- the capture starts in the capture mode of the parameters taken
      have hcap := p.sim.capture_capStart_ok hok
      split_ifs at hbq ⊢ <;>
        exact of_holding hbq (hi _ _) rfl (nh (by simp [Call.params?])) (hown ps rfl) hcap
    · exact of_bare hbq (hi _ _) rfl rfl fun _ e => by cases e
  | settling ps =>
    obtain ⟨-, rfl, rfl⟩ := Acquisition.Call.step_settling hs
    split_ifs at hbq ⊢ with hstop
    · -- the start gives its thread up on a stop request
      exact of_handing hbq (hi _ _) fun hst => by simp [hstop] at hst
    · exact of_holding hbq (hi _ _) rfl (nh (by simp [Call.params?])) (hown ps rfl)
        (h.armed i ps (.inl hc))
  | armTimer ps =>
    have hp : p.ctl.params = ps := hown ps rfl
    have hcap : p.sim.capture = some ps.captureMode := h.armed i ps (.inr hc)
    rcases Acquisition.Call.step_armTimer hs with ⟨hm, rfl, rfl⟩ | ⟨hm, -, rfl, rfl⟩ |
      ⟨-, err, -, rfl, rfl⟩
    · -- a run triggered otherwise is handed over with no thread
      refine of_handing hbq (hi _ _) fun _ => ?_
      rw [Plant.setCaller_ctl, hp]
      exact ⟨hcap, by simp [hm], fun j hj => by cases hj⟩
    · -- the thread started is to fire the number of frames taken
      refine of_handing hbq (hi _ _) fun _ => ?_
      rw [Plant.setCaller_ctl, hp]
      refine ⟨hcap, by simp [hm], fun j hj => ?_⟩
      obtain rfl := Option.some.inj hj
      rw [Plant.limitOf_of_timers (Plant.setCaller_timers _ _ _), Plant.limitOf_append_make,
        if_pos rfl]
    · exact of_bare hbq (hi _ _) rfl rfl fun _ e => by cases e
  | handOver t =>
    rcases Acquisition.Call.step_handOver hs with ⟨-, rfl, rfl⟩ | ⟨hst, rfl, -⟩
    · exact of_bare hbq (hi _ _) rfl rfl fun _ e => by cases e
    · -- the run is handed over with the thread, armed as the controller's parameters
      exact of_pending hbq rfl hrun0 ((h.handed i t hc hst).congr rfl fun _ _ => rfl)
  | cancelling t st =>
    rcases Acquisition.Call.step_cancelling hs with ⟨rfl, rfl, rfl⟩ | ⟨rfl, -, rfl, rfl⟩ |
      ⟨rfl, rfl, rfl⟩ | ⟨rfl, rfl, rfl⟩
    · exact of_bare hbq (hi _ _) rfl rfl fun _ e => by cases e
    · exact of_bare hbq (hi _ _) rfl rfl fun _ e => by cases e
    · exact of_bare hbq (hi _ _) rfl rfl fun _ e => by cases e
    · -- the cancelled start gives up, the controller idle
      exact of_idle hbq (by simp [Controller.isActive, hr0, hrun0])
  | failArming err =>
    obtain ⟨rfl, rfl⟩ := Acquisition.Call.step_failArming hs
    exact of_idle hbq (by simp [Controller.isActive, hr0, hrun0])
  | _ => simp [Call.isArming] at hca

/-- Every step of a host call that is no update in the middle of a start keeps the parameters
held. -/
theorem call (h : ParamsHeld p) (hb : Bookkept p) {i : Nat} {e : Bool}
    {s : Except CameraError Unit} {c : Call} {r : Caller} (hc : p.callers i = .busy c)
    (hs : Acquisition.Call.step e s c p = some (r, q))
    (hgood : ∀ f, c = .update f →
      ¬(p.ctl.arming = true ∨ (p.ctl.runRequested = true ∧ p.ctl.running = false))) :
    ParamsHeld (q.setCaller i r) := by
  cases hca : c.isArming
  · exact h.call_unarmed hb hc hs hca hgood
  · exact h.call_arming hb hc hs hca

/-- Every step of the worker keeps the parameters held: it picks a run up with the controller's
parameters and thread, keeps its run's capture while the run lasts, and leaves the controller
idle once it records the end. -/
theorem worker (h : ParamsHeld p) (hb : Bookkept p) {pat : Bool}
    (hs : Worker.step pat p = some q) : ParamsHeld q := by
  have hbq : Bookkept q := hb.worker hs
  have running_eq : p.ctl.running = p.worker.run?.isSome := hb.working.running_eq
  cases hw : p.worker with
  | idle =>
    have hrun : p.ctl.running = false := by simp [running_eq, hw, Worker.run?]
    rcases Worker.step_idle hw hs with ⟨hr, rfl⟩ | ⟨-, -, rfl⟩
    · -- the run picked up goes by the controller's parameters and thread
      refine of_running hbq rfl fun run f k spot hw' => ?_
      rw [pickUp_worker] at hw'
      split at hw'
      · cases hw'
        exact (h.pending hr hrun).congr rfl fun _ _ => rfl
      · cases hw'
    · exact h.of_calm hb (fun j hj => absurd rfl hj) (fun _ _ _ hs => hs) rfl
        (fun _ _ _ _ hw' => by cases hw') (fun _ => rfl) (fun _ => rfl) (fun _ _ => rfl)
  | acquiring run f n spot =>
    have hrun : p.ctl.running = true := hb.running_of_acquiring hw
    have hst := Worker.step_acquiring hw hs
    obtain ⟨hc, -, htm, hq⟩ := Worker.acquireStep_frame hst
    refine of_running hbq (by rw [hc]; exact hrun) fun run' f' k' spot' hw' => ?_
    -- the worker stays in its run, whose capture the frame wait keeps
    have e : run' = run := by
      rcases hq with ⟨f'', n'', spot'', hq⟩ | ⟨o, hq⟩ <;> rw [hq] at hw' <;> cases hw'
      rfl
    subst e
    exact (h.running run' f n spot hw).congr (Worker.acquireStep_waitsFrom hst).capture_eq
      fun j _ => Plant.limitOf_of_timers htm j
  | ending run o rel st =>
    have hrun : p.ctl.running = true := by simp [running_eq, hw, Worker.run?]
    rcases Worker.endStep_eq (Worker.step_ending hw hs) with ⟨rfl, rfl⟩ | ⟨rfl, -, rfl⟩ |
      ⟨rfl, rfl⟩ | ⟨rfl, rfl⟩
    · exact of_running hbq (by simpa using hrun) fun _ _ _ _ hw' => by simp at hw'
    · exact of_running hbq hrun fun _ _ _ _ hw' => by simp at hw'
    · exact of_running hbq hrun fun _ _ _ _ hw' => by simp at hw'
    · -- the end is recorded: no run, and no start arms while one runs
      have harm : p.ctl.arming = false := by
        cases ha : p.ctl.arming
        · rfl
        · have := (hb.sound.arming_idle (by simpa using ha)).2
          simp [hrun] at this
      exact of_idle hbq (by simp [Controller.isActive, harm])
  | exited => simp [Worker.step_exited hw] at hs

/-- A trigger thread keeps the parameters held: it changes neither the controller nor the
capture nor any thread's number. -/
theorem timer (h : ParamsHeld p) (hb : Bookkept p) {k : Nat} (hs : Timer.step k p = some q) :
    ParamsHeld q := by
  obtain ⟨hctl, hw, hcl, -⟩ := Timer.step_frame hs
  have hcap : q.sim.capture = p.sim.capture := by
    obtain ⟨t, -, ⟨-, rfl⟩ | ⟨-, -, rfl⟩ | ⟨-, -, rfl⟩⟩ := Timer.step_eq hs <;> simp
  exact h.of_calm hb (fun j hj => absurd (by rw [hcl]) hj) (fun _ _ _ hs' => by rwa [hctl])
    (by rw [hctl]) (fun _ _ _ _ hw' => by rwa [hw] at hw') (fun _ => by rw [hctl])
    (fun _ => hcap) (fun j hj => (Transition.timer k hs).limitOf_eq hj)

/-- Every step but an update in the middle of a start keeps the parameters held. -/
theorem step (h : ParamsHeld p) (hb : Bookkept p) {a : Actor} (hs : Transition false p a q)
    (hgood : ¬ p.UpdatesMidStart a) : ParamsHeld q := by
  cases hs with
  | request i rq hm => exact h.request hb
  | call i e s hc hst =>
    exact h.call hb hc hst fun f hf hwin => hgood ⟨i, f, rfl, hf ▸ hc, hwin⟩
  | worker hst => exact h.worker hb hst
  | timer k hst => exact h.timer hb hst
  | outside sim host hout => cases hout

/-- A controller just made holds no parameters in any start. -/
theorem initial (params : AcqParams) (timings : Timings) (deviceIndex : Nat)
    (sim : Sdk.Simulator) (host : Host) :
    ParamsHeld (Plant.initial params timings deviceIndex sim host) :=
  of_idle (bookkept_initial params timings deviceIndex sim host) rfl

/-- The parameters are held along every execution from a controller just made in which no update
comes in the middle of a start. -/
theorem of_reachable {params : AcqParams} {timings : Timings} {deviceIndex : Nat}
    {sim : Sdk.Simulator} {host : Host}
    (h : ReachableAvoiding false Plant.UpdatesMidStart
      (Plant.initial params timings deviceIndex sim host) p) : ParamsHeld p := by
  induction h with
  | init => exact initial params timings deviceIndex sim host
  | step hp hs hgood ih => exact ih.step (bookkept_of_reachable hp.reachable) hs hgood

end ParamsHeld

/-! ## One set of parameters per run -/

/-- Along every execution from a controller just made in which no update of the parameters
comes while a start holds the arming flag or while the run it handed over waits for the worker,
each run goes by the one set of parameters its start took. While the start arms, the
parameters it took are the controller's, which the worker copies when it picks the run up. A
run handed over and not yet picked up, and the run in the worker's frame loop, are armed as the
parameters they go by choose: the camera captures in their capture mode, the run has a trigger
thread exactly when it is internally triggered, and the thread is to fire their number of
frames. So an internally triggered run in the frame loop has a thread for its frame target. -/
theorem run_keeps_start_params {params : AcqParams} {timings : Timings} {deviceIndex : Nat}
    {sim : Sdk.Simulator} {host : Host} {p : Plant}
    (h : ReachableAvoiding false Plant.UpdatesMidStart
      (Plant.initial params timings deviceIndex sim host) p) :
    (∀ i ps, (p.callers i = .busy (.armCapture ps) ∨ p.callers i = .busy (.settling ps) ∨
        p.callers i = .busy (.armTimer ps)) → p.ctl.params = ps) ∧
    (p.ctl.runRequested = true → p.ctl.running = false →
      p.ArmedBy p.ctl.params p.ctl.timer) ∧
    (∀ run f k spot, p.worker = .acquiring run f k spot →
      p.ArmedBy run.params run.timer ∧
      (run.params.trigMode = .intTrig →
        ∃ j t, run.timer = some j ∧ p.timers[j]? = some t ∧ t.limit = run.params.nbFrames)) := by
  have hk := ParamsHeld.of_reachable h
  refine ⟨fun i ps hi => hk.taken i ps ?_, hk.pending, fun run f k spot hw => ?_⟩
  · rcases hi with hi | hi | hi <;> simp [hi, Call.params?]
  · have ha := hk.running run f k spot hw
    exact ⟨ha, ha.thread_fires⟩

/-- The parameters of a run that one host thread prepares, sets to two frames and starts on an
opened default camera, once the worker has picked it up: the update comes before the start, so
the run goes by two frames, with a trigger thread to fire two. -/
theorem run_keeps_start_params_running :
    let init := Plant.onOpenedCamera AcqParams.default
    ∃ p, ReachableAvoiding false Plant.UpdatesMidStart init p ∧
    p.worker.run?.map (fun run => (run.params.trigMode, run.params.nbFrames, run.timer)) =
      some (.intTrig, 2, some 0) ∧
    (∀ i ps, (p.callers i = .busy (.armCapture ps) ∨ p.callers i = .busy (.settling ps) ∨
        p.callers i = .busy (.armTimer ps)) → p.ctl.params = ps) ∧
    (p.ctl.runRequested = true → p.ctl.running = false →
      p.ArmedBy p.ctl.params p.ctl.timer) ∧
    (∀ run f k spot, p.worker = .acquiring run f k spot →
      p.ArmedBy run.params run.timer ∧
      (run.params.trigMode = .intTrig →
        ∃ j t, run.timer = some j ∧ p.timers[j]? = some t ∧ t.limit = run.params.nbFrames)) := by
  dsimp only
  -- no step of the schedule is an update in the middle of a start
  have h : ReachableAvoiding false Plant.UpdatesMidStart
      (Plant.onOpenedCamera AcqParams.default) _ :=
    ReachableAvoiding.of_runAlone (fun _ _ _ _ _ => Plant.UpdatesMidStart.isUpdateMidStart)
      (rfl : (Plant.onOpenedCamera AcqParams.default).runAlone Plant.isUpdateMidStart
        [.request .prepare, .call, .request (.update fun ps => { ps with nbFrames := 2 }), .call,
          .request .start, .call, .call, .call, .call, .worker, .call] = some (0, _))
  exact ⟨_, h, by decide +kernel, run_keeps_start_params h⟩

/-- Without the condition a run can go by parameters its start did not take. Host thread 0
starts an internally triggered run of one frame; while it arms, host thread 1 asks for three
frames. The start arms a trigger thread for the one frame it took, and the worker picks up a run
of three frames with that thread. -/
theorem run_params_can_change :
    ∃ p, Reachable false (Plant.onOpenedCamera AcqParams.default) p ∧
      p.worker.run?.map (fun run => (run.params.trigMode, run.params.nbFrames, run.timer)) =
        some (.intTrig, 3, some 0) ∧
      p.timers[0]?.map Timer.limit = some 1 := by
  -- host thread 0 prepares, then begins a start of one frame
  obtain ⟨h, hi⟩ := Reachable.runAlone (.init : Reachable false _ _) (OthersIdle.initial _ _ _ _ _)
    (rfl : (Plant.onOpenedCamera AcqParams.default).runAlone (fun _ _ _ => false)
      [.request .prepare, .call, .request .start, .call] = some (0, _))
  -- host thread 1 asks for three frames while the start arms
  have h1 := h.step (.request 1 (.update fun ps => { ps with nbFrames := 3 })
    (hi.mayRequest_beside (by decide) rfl rfl _ nofun))
  have h1 := h1.step (.call 1 false (.ok ()) rfl rfl)
  -- the start captures, arms a thread for one trigger and hands the run over
  have h1 := h1.step (.call 0 false (.ok ()) rfl rfl)
  have h1 := h1.step (.call 0 false (.ok ()) rfl rfl)
  have h1 := h1.step (.call 0 false (.ok ()) rfl rfl)
  have h1 := h1.step (.worker rfl)
  exact ⟨_, h1, by decide +kernel, by decide +kernel⟩

end CameraAcquisition
