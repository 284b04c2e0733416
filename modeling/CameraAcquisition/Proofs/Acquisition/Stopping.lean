import CameraAcquisition.Proofs.Acquisition.Calm

/-!
# Stopping a run

A stop that finds a start arming asks it to cancel and waits for it; a stop that finds a run
asks the worker to stop, reads the run's number and aborts the frame wait again and again
until the worker has torn that run down. This module proves what that gives, over every
interleaving of host calls, the worker and the trigger threads.

A stop that returns `Ok` has seen every run numbered up to the number it read torn down
(`StopBound`). Its host thread goes from the stop's first section to its loop and back, and
the run numbers only grow, so the number it waits for is at least any number the controller
had before (`stop_sees_teardown`).

Once a stop is asked for, the worker announces at most one more frame of the run: it comes
to wait for a frame only from the top of its loop, and there it ends the run, since the stop
request stands while the run is requested (`StopHeld`, `announced_at_most_once`). Once the
stop's loop is over the run is torn down or the worker has ended (`RunOver`,
`stopLoop_runOver`), and no frame of the run is announced again (`announced_none_after`).

A start that was arming when the stop was asked for never hands its run over. While it arms
no other thread changes what it reads (`Bookkept.arming_calm`), and the stop request stands,
so it gives up at its hand-over (`CancelKept`). It returns with the run numbers, the frame
count and the prepared frame as they were and the status ready (`CancelKept.leaves`), and
then, the controller being idle, the capture it armed is stopped and its trigger thread has
ended (`cancelled_start_returns`).

## What this module delivers

- `NewCall` and `Transition.stays_or_calls`.
- `StopAt`, `StopBound` with `StopBound.step`, and `stop_sees_teardown`.
- `announcesFrame`, `StopHeld` with `StopHeld.step`, and `announced_at_most_once`.
- `Bookkept.run_session_succ`, `RunOver` with `RunOver.step`, `stopLoop_runOver` and
  `announced_none_after`.
- `Bookkept.arming_calm`, `CancelKept` with `CancelKept.step`, `CancelKept.run` and
  `CancelKept.leaves`, and `cancelled_start_returns`.
- `stop_semantics`, the four guarantees together.
-/

set_option autoImplicit false

namespace CameraAcquisition

/-- Whether a step is a new call of host thread `i`: a request made out of every call. -/
def NewCall (i : Nat) (p : Plant) (a : Actor) (_q : Plant) : Bool :=
  match a with
  | .caller j => j == i && !(p.callers i).isBusy
  | _ => false

/-- A step that is no new call of host thread `i` leaves it where it stands, or is a step of
its call. -/
theorem Transition.stays_or_calls {env : Bool} {p q : Plant} {a : Actor} {i : Nat}
    (hs : Transition env p a q) (hk : NewCall i p a q = false) :
    q.callers i = p.callers i ∨
      ∃ c e s r q', a = .caller i ∧ p.callers i = .busy c ∧
        Acquisition.Call.step e s c p = some (r, q') ∧ q = q'.setCaller i r := by
  by_cases ha : a = .caller i
  · subst ha
    cases hs with
    | request _ rq hm =>
      -- a host thread out of every call that steps makes a new call
      simp [NewCall, hm.1] at hk
    | call _ e s hc hst => exact .inr ⟨_, e, s, _, _, rfl, hc, hst, rfl⟩
  · exact .inl (hs.callers_ne ha)

/-! ## A stop returns once its run is torn down -/

/-- Where the host thread of a plain stop may stand, with `s` a run number it must see torn
down: still to read the run number, which has reached `s`; in its loop for a run number at
least `s`; or back, with run `s` torn down if the stop returned `Ok`. -/
def StopAt (s : Nat) (c : Controller) : Caller → Prop
  | .busy (.stop .plain) | .busy (.stopAwaitArming .plain) => s ≤ c.session
  | .busy (.stopAbort .plain n) | .busy (.stopPause .plain n) => s ≤ n
  | .returned (.ok ()) => s ≤ c.completedSession
  | .returned (.error _) => True
  | _ => False

namespace StopAt

variable {s : Nat} {c c' : Controller} {r : Caller}

/-- Growing run numbers keep where a stop stands. -/
theorem mono (h : StopAt s c r) (hs : c.session ≤ c'.session)
    (hc : c.completedSession ≤ c'.completedSession) : StopAt s c' r := by
  revert h
  unfold StopAt
  split <;> intro h <;> omega

/-- The loop of a stop for a run numbered at least `s` returns `Ok` only with run `s` torn
down. -/
theorem stopLoop {p : Plant} {n : Nat} (hsn : s ≤ n) :
    StopAt s p.ctl (Acquisition.Caller.after ((Acquisition.stopLoop .plain n).run' p).1) := by
  rw [Acquisition.stopLoop_run']
  split_ifs with hc
  · simpa [Acquisition.afterStop, StopAt] using Nat.le_trans hsn hc
  · simp [Acquisition.afterStop, StopAt]
  · simpa [StopAt] using hsn

/-- The first section of a stop: on an idle controller every run is torn down; otherwise the
stop reads the run number and goes into its loop. -/
theorem stopUnlessIdle {p : Plant} (hb : Bookkept p) (hsp : s ≤ p.ctl.session) :
    StopAt s ((Acquisition.stopUnlessIdle .plain).run' p).2.ctl
      (Acquisition.Caller.after ((Acquisition.stopUnlessIdle .plain).run' p).1) := by
  rw [Acquisition.stopUnlessIdle_run']
  split
  · -- an idle controller has torn down every run it numbered
    next ha =>
    obtain ⟨-, hr, hrun⟩ := Bookkept.active_false (by simpa using ha)
    have he : p.ctl.session = p.ctl.completedSession := hb.sound.session_eq_iff.2 ⟨hr, hrun⟩
    simpa [Acquisition.afterStop, StopAt, ← he] using hsp
  · rw [Acquisition.stopLoop_plant]
    exact stopLoop hsp

end StopAt

/-- Where host thread `i` of a plain stop stands in plant `p`. -/
def StopBound (i s : Nat) (p : Plant) : Prop := StopAt s p.ctl (p.callers i)

/-- Every step that is no new call of the stop's host thread keeps where it stands. -/
theorem StopBound.step {env : Bool} {i s : Nat} {p q : Plant} {a : Actor} (hb : Bookkept p)
    (h : StopBound i s p) (hs : Transition env p a q) (hk : NewCall i p a q = false) :
    StopBound i s q := by
  obtain ⟨hse, hco⟩ := hs.sessions_mono hb
  rcases hs.stays_or_calls hk with hsame | ⟨c, e, st, r, q', -, hc, hst, rfl⟩
  · -- another thread moved, and the run numbers only grew
    unfold StopBound at h ⊢
    rw [hsame]
    exact h.mono hse hco
  · -- a step of the stop itself, by the point it stands at
    unfold StopBound at h ⊢
    rw [hc] at h
    simp only [Plant.setCaller_callers, Plant.setCaller_ctl, Function.update_self]
    open Acquisition in
    cases c with
    | stop a =>
      cases a <;> simp only [StopAt] at h
      rcases Call.step_stop hst with ⟨-, rfl, rfl⟩ | ⟨-, rfl, rfl⟩
      · exact h
      · exact StopAt.stopUnlessIdle hb h
    | stopAwaitArming a =>
      cases a <;> simp only [StopAt] at h
      obtain ⟨-, rfl, rfl⟩ := Call.step_stopAwaitArming hst
      exact StopAt.stopUnlessIdle hb h
    | stopAbort a n =>
      cases a <;> simp only [StopAt] at h
      obtain ⟨rfl, ⟨hn, rfl⟩ | ⟨-, rfl⟩⟩ := Call.step_stopAbort hst
      · simpa [afterStop, StopAt] using Nat.le_trans h hn
      · exact h
    | stopPause a n =>
      cases a <;> simp only [StopAt] at h
      obtain ⟨-, rfl, rfl⟩ := Call.step_stopPause hst
      rw [stopLoop_plant]
      exact StopAt.stopLoop h
    | _ => simp [StopAt] at h

/-- A plain stop whose host thread, at `p`, is still to read the run number returns `Ok` only
once every run numbered up to the number at `p` is torn down. -/
theorem stop_sees_teardown {params : AcqParams} {timings : Timings} {deviceIndex : Nat}
    {sim : Sdk.Simulator} {host : Host} {p q : Plant} {i : Nat}
    (h : Reachable false (Plant.initial params timings deviceIndex sim host) p)
    (hc : p.callers i = .busy (.stop .plain) ∨ p.callers i = .busy (.stopAwaitArming .plain))
    (hn : Counted false (NewCall i) p 0 q) (hr : q.callers i = .returned (.ok ())) :
    p.ctl.session ≤ q.ctl.completedSession := by
  have hstart : StopBound i p.ctl.session p := by
    rcases hc with hc | hc <;> simp [StopBound, StopAt, hc]
  have hend := Counted.invariant
    (I := fun q => Reachable false (Plant.initial params timings deviceIndex sim host) q ∧
      StopBound i p.ctl.session q)
    (fun _ _ _ hq hs hk => ⟨hq.1.step hs, hq.2.step (bookkept_of_reachable hq.1) hs hk⟩)
    ⟨h, hstart⟩ hn
  simpa [StopBound, StopAt, hr] using hend.2

/-! ## Frames announced after a stop request -/

/-- Whether a step is the worker announcing a frame of run number `s` to the host: its wait
for a frame of that run returns one. -/
def announcesFrame (s : Nat) (p : Plant) (a : Actor) (_q : Plant) : Bool :=
  match a, p.worker with
  | .worker, .acquiring run f _ spot =>
    run.session == s && (spot.waitMove true f p.sim).any fun m => m.2.1.delivers
  | _, _ => false

/-- A step that announces a frame of run `s` is a move of the wait of the worker in that run
that returns a frame. -/
theorem announcesFrame_true {s : Nat} {p q : Plant} {a : Actor}
    (h : announcesFrame s p a q = true) :
    a = .worker ∧ ∃ run f n spot k pr g, p.worker = .acquiring run f n spot ∧ run.session = s ∧
      spot.waitMove true f p.sim = some (k, pr) ∧ pr.1 = .returned (.captured g) := by
  unfold announcesFrame at h
  split at h
  · next run f n spot hw =>
    simp only [Bool.and_eq_true, beq_iff_eq, Option.any_eq_true] at h
    obtain ⟨hs, ⟨k, pg, s'⟩, hm, hd⟩ := h
    rcases pg with ((g | _ | _ | _) | _) <;> simp only [Sdk.Progress.delivers,
      Bool.false_eq_true] at hd
    exact ⟨rfl, run, f, n, spot, k, _, g, hw, hs, hm, rfl⟩
  · cases h

/-- Only the worker announces a frame, and only from a wait for a frame of the run. -/
theorem announcesFrame_waitsIn {s : Nat} {p q : Plant} {a : Actor}
    (h : announcesFrame s p a q = true) : a = .worker ∧ p.worker.waitsIn s = true := by
  obtain ⟨rfl, run, f, n, spot, k, pr, g, hw, hs, hm, -⟩ := announcesFrame_true h
  refine ⟨rfl, ?_⟩
  simp [hw, Worker.waitsIn, hs, Spot.awaited_of_waitMove hm]

/-- A move of the wait that returns frame `g` is the receipt of the frame the worker waited
for. -/
theorem Worker.step_captured {p q : Plant} {run : Run} {f g : Sdk.Frame} {n k : Nat} {spot : Spot}
    {pr : Sdk.Progress × Sdk.Simulator} (hw : p.worker = .acquiring run f n spot)
    (hm : spot.waitMove true f p.sim = some (k, pr)) (hg : pr.1 = .returned (.captured g))
    (h : Worker.step true p = some q) : q = received run g k { p with sim := pr.2 } := by
  have hst := Worker.step_acquiring hw h
  rw [Worker.acquireStep_wait hm] at hst
  rcases Worker.waitProgress_cases hst with ⟨g', hg', rfl⟩ | ⟨err, he, -⟩ |
    ⟨err, he, -⟩ | ⟨err, he, -⟩ | ⟨pause, he, -⟩
  · rw [hg] at hg'
    cases hg'
    rfl
  all_goals
    rw [hg] at he
    cases he

/-- The worker in a run works on the run the controller last numbered, which is requested. -/
theorem Bookkept.run_requested {p : Plant} (hb : Bookkept p) {run : Run}
    (hrun : p.worker.run? = some run) :
    run.session = p.ctl.session ∧ p.ctl.runRequested = true := by
  have hr : p.ctl.running = true := by
    have e : p.ctl.running = p.worker.run?.isSome := hb.working.running_eq
    simp [e, hrun]
  exact ⟨(hb.working.run_current run hrun).1, (hb.sound.running_requested hr).1⟩

/-- The run the worker is in is the one after the last run torn down. -/
theorem Bookkept.run_session_succ {p : Plant} (hb : Bookkept p) {run : Run}
    (hrun : p.worker.run? = some run) : run.session = p.ctl.completedSession + 1 := by
  obtain ⟨hsess, hr⟩ := hb.run_requested hrun
  -- a requested run has a number of its own, one past the last torn down
  have hne : p.ctl.session ≠ p.ctl.completedSession := fun e => by
    have hr' : p.ctl.runRequested = false := (hb.sound.session_eq_iff.1 e).1
    simp [hr] at hr'
  have hsucc : p.ctl.session ≤ p.ctl.completedSession + 1 := hb.sound.session_le_succ
  have hlow : p.ctl.completedSession ≤ p.ctl.session :=
    Nat.le_trans hb.sound.completed_le_acked hb.sound.acked_le_session
  omega

/-- A stop asked for during run `s` stands while that run is requested: the run numbers have
reached `s`, and a request of run `s` comes with the stop request. -/
def StopHeld (s : Nat) (p : Plant) : Prop :=
  s ≤ p.ctl.session ∧ (p.ctl.runRequested = true → p.ctl.session = s → p.ctl.stopRequested = true)

/-- The frames of run `s` the worker may still announce before passing the top of its loop:
one while it waits for a frame of that run. -/
def waitBudget (s : Nat) (p : Plant) : Nat := if p.worker.waitsIn s then 1 else 0

namespace StopHeld

variable {s : Nat} {p q : Plant}

/-- A host call keeps a stop request of run `s` standing: a call that clears it finds no run
requested, and a hand-over numbers a later run. -/
theorem call (hb : Bookkept p) (h : StopHeld s p) {i : Nat} {c : Call} {e : Bool}
    {st : Except CameraError Unit} {r : Caller} (hc : p.callers i = .busy c)
    (hs : Acquisition.Call.step e st c p = some (r, q)) : StopHeld s (q.setCaller i r) := by
  change StopHeld s q
  obtain ⟨hsp, hheld⟩ := h
  rcases Acquisition.Call.step_calm hs with hcalm | ⟨ha, hse, hr, -⟩ | ⟨-, hq⟩ |
    ⟨t, -, -, hse, -⟩ | ⟨t, rfl, hq⟩
  · refine ⟨hcalm.session ▸ hsp, fun hr hse => hcalm.stopRequested ?_⟩
    exact hheld (hcalm.runRequested ▸ hr) (hcalm.session ▸ hse)
  · -- a call of an idle controller finds no run requested
    have hr0 := (Bookkept.active_false ha).2.1
    refine ⟨hse ▸ hsp, fun hr' _ => ?_⟩
    rw [hr, hr0] at hr'
    cases hr'
  · simp only [StopHeld, hq]
    exact ⟨hsp, hheld⟩
  · refine ⟨by omega, fun _ hse' => ?_⟩
    omega
  · -- a start gives up only while it arms, with no run requested
    have harm : p.ctl.arming = true :=
      hb.armed.arming_iff.2 ⟨i, by simp [hc, Call.isArming]⟩
    have hr0 : p.ctl.runRequested = false := (hb.sound.arming_idle harm).1
    simp only [StopHeld, hq, hr0]
    exact ⟨hsp, fun hr' _ => absurd hr' (by simp)⟩

/-- The worker keeps a stop request of run `s` standing: it clears it only on recording the
end of a run, which clears the request too. -/
theorem worker (h : StopHeld s p) {pat : Bool} (hs : Worker.step pat p = some q) :
    StopHeld s q := by
  obtain ⟨hsp, hheld⟩ := h
  rcases Worker.step_runs hs with ⟨hse, -, hr, hst⟩ | ⟨run, o, rel, -, rfl⟩
  · exact ⟨hse ▸ hsp, fun hr' hse' => hst ▸ hheld (hr ▸ hr') (hse ▸ hse')⟩
  · refine ⟨by simpa using hsp, fun hr' _ => ?_⟩
    simp at hr'

/-- No step of the worker brings it into a wait for a frame of run `s` while a stop of that
run stands: it would come from the top of that run's loop, where it ends the run. -/
theorem worker_waitsIn (hb : Bookkept p) (h : StopHeld s p) {pat : Bool}
    (hs : Worker.step pat p = some q) (hp : p.worker.waitsIn s = false) :
    q.worker.waitsIn s = false := by
  cases hq : q.worker.waitsIn s
  · rfl
  · rcases Worker.step_waitsIn hs hq with hw | ⟨run, f, n, hw, hrs, hst⟩
    · rw [hw] at hp
      cases hp
    have hrun : p.worker.run? = some run := by simp [hw, Worker.run?]
    obtain ⟨hsess, hr⟩ := hb.run_requested hrun
    have := h.2 hr (hsess ▸ hrs)
    simp [hst] at this

/-- Every step keeps a stop of run `s` standing, and announces a frame of run `s` only by
spending the wait the worker was in. -/
theorem step (hb : Bookkept p) (h : StopHeld s p) {a : Actor} (hs : Transition false p a q) :
    StopHeld s q ∧ (if announcesFrame s p a q then 1 else 0) + waitBudget s q ≤ waitBudget s p := by
  -- only the worker announces, and only from a wait it spends
  have spend : (if announcesFrame s p a q then 1 else 0) ≤ waitBudget s p := by
    cases ha : announcesFrame s p a q
    · simp
    · simp [waitBudget, (announcesFrame_waitsIn ha).2]
  -- a step of another thread announces nothing and leaves the worker's wait
  have other : a ≠ .worker → q.worker = p.worker →
      (if announcesFrame s p a q then 1 else 0) + waitBudget s q ≤ waitBudget s p := by
    intro ha hw
    have hk : announcesFrame s p a q = false := by
      cases hk : announcesFrame s p a q
      · rfl
      · exact absurd (announcesFrame_waitsIn hk).1 ha
    simp [hk, waitBudget, hw]
  cases hs with
  | request i rq hm => exact ⟨h, other (by simp) rfl⟩
  | call i e st hc hst =>
    exact ⟨h.call hb hc hst, other (by simp) (Acquisition.Call.step_frame hst).1⟩
  | worker hst =>
    refine ⟨h.worker hst, ?_⟩
    cases hp : p.worker.waitsIn s
    · -- out of a wait the worker announces nothing and does not come into one
      simpa [waitBudget, hp, h.worker_waitsIn hb hst hp] using spend
    · -- the wait it was in is spent by the frame it returns
      cases ha : announcesFrame s p .worker q
      · simp [waitBudget, hp]
        split <;> simp
      · obtain ⟨-, run, f, n, spot, k, pr, g, hw, -, hm, hg⟩ := announcesFrame_true ha
        rw [Worker.step_captured hw hm hg hst]
        simp [waitBudget, hp]
  | timer k hst =>
    refine ⟨by rw [StopHeld, (Timer.step_frame hst).1]; exact h, ?_⟩
    exact other (by simp) (Timer.step_frame hst).2.1
  | outside sim host hout => cases hout

end StopHeld

/-- Once a stop is asked for, the worker announces at most one more frame of the run the
controller last numbered, along every execution. -/
theorem announced_at_most_once {params : AcqParams} {timings : Timings} {deviceIndex : Nat}
    {sim : Sdk.Simulator} {host : Host} {p q : Plant} {m : Nat}
    (h : Reachable false (Plant.initial params timings deviceIndex sim host) p)
    (hst : p.ctl.stopRequested = true)
    (hn : Counted false (announcesFrame p.ctl.session) p m q) : m ≤ 1 := by
  have hend := Counted.budget (waitBudget p.ctl.session)
    (I := fun q => Reachable false (Plant.initial params timings deviceIndex sim host) q ∧
      StopHeld p.ctl.session q)
    (fun _ _ _ hq hs => by
      obtain ⟨hheld, hspent⟩ := hq.2.step (bookkept_of_reachable hq.1) hs
      exact ⟨⟨hq.1.step hs, hheld⟩, hspent⟩)
    ⟨h, Nat.le_refl _, fun _ _ => hst⟩ hn
  have hle : waitBudget p.ctl.session p ≤ 1 := by
    unfold waitBudget
    split <;> omega
  omega

/-- A worker that has ended takes no step, and no other thread moves it. -/
theorem Transition.exited {env : Bool} {p q : Plant} {a : Actor} (hs : Transition env p a q)
    (hw : p.worker = .exited) : q.worker = .exited := by
  cases hs with
  | request i rq hm => exact hw
  | call i e st hc hst => simpa [(Acquisition.Call.step_frame hst).1] using hw
  | worker hst => simp [Worker.step_exited hw] at hst
  | timer k hst => rw [(Timer.step_frame hst).2.1, hw]
  | outside sim host _ => exact hw

/-- Run `s` is over for the worker: it is torn down, or the worker has ended. -/
def RunOver (s : Nat) (p : Plant) : Prop := s ≤ p.ctl.completedSession ∨ p.worker = .exited

/-- A run that is over stays over, and the worker announces no frame of it. -/
theorem RunOver.step {env : Bool} {s : Nat} {p q : Plant} {a : Actor} (hb : Bookkept p)
    (h : RunOver s p) (hs : Transition env p a q) :
    RunOver s q ∧ announcesFrame s p a q = false := by
  refine ⟨?_, ?_⟩
  · rcases h with hle | hw
    · exact .inl (Nat.le_trans hle (hs.sessions_mono hb).2)
    · exact .inr (hs.exited hw)
  · cases hk : announcesFrame s p a q
    · rfl
    · -- the worker waits in run `s`, the run after the last torn down
      obtain ⟨run, hrun, hrs⟩ := Worker.waitsIn_run (announcesFrame_waitsIn hk).2
      have hsucc := hb.run_session_succ hrun
      rcases h with hle | hw
      · omega
      · simp [hw, Worker.run?] at hrun

/-- The worker announces no frame of a run that is over, along every execution. -/
theorem announced_none_after {params : AcqParams} {timings : Timings} {deviceIndex : Nat}
    {sim : Sdk.Simulator} {host : Host} {p q : Plant} {s m : Nat}
    (h : Reachable false (Plant.initial params timings deviceIndex sim host) p)
    (hover : RunOver s p) (hn : Counted false (announcesFrame s) p m q) : m = 0 := by
  have hend := Counted.budget (fun _ => 0)
    (I := fun q => Reachable false (Plant.initial params timings deviceIndex sim host) q ∧
      RunOver s q)
    (fun _ _ _ hq hs => by
      obtain ⟨hover', hk⟩ := hq.2.step (bookkept_of_reachable hq.1) hs
      exact ⟨⟨hq.1.step hs, hover'⟩, by simp [hk]⟩)
    ⟨h, hover⟩ hn
  omega

/-- The loop of a plain stop for run `n` ends only once run `n` is over. -/
theorem stopLoop_runOver {p q : Plant} {i n : Nat} (hb : Bookkept p)
    (hc : p.callers i = .busy (.stopAbort .plain n) ∨ p.callers i = .busy (.stopPause .plain n))
    (hs : Transition false p (.caller i) q) (hr : (q.callers i).isBusy = false) :
    RunOver n q := by
  cases hs with
  | request _ rq hm =>
    have hbusy := hm.1
    rcases hc with hc | hc <;> simp [hc, Caller.isBusy] at hbusy
  | call _ e st hc' hst =>
    simp only [Plant.setCaller_callers, Function.update_self] at hr
    open Acquisition in
    rcases hc with hc | hc <;> rw [hc] at hc' <;> cases hc'
    · rcases Call.step_stopAbort hst with ⟨rfl, ⟨hn, -⟩ | ⟨-, rfl⟩⟩
      · exact .inl hn
      · simp at hr
    · obtain ⟨-, rfl, rfl⟩ := Call.step_stopPause hst
      rw [stopLoop_plant]
      rw [stopLoop_run'] at hr ⊢
      split_ifs at hr with hn hx
      · exact .inl hn
      · -- the worker has ended
        exact .inr (hb.dropping.exited_iff.1 hx)
      · simp at hr

/-! ## A start cancelled by a stop -/

/-- While a start arms, the steps of every other thread keep what it reads: no other call
changes the run numbers, the frame count, the prepared frame or a stop request, and the worker,
with no run, can only end. -/
theorem Bookkept.arming_calm {p q : Plant} {a : Actor} {j : Nat} (hb : Bookkept p)
    (harm : (p.callers j).isArming = true) (hs : Transition false p a q) (ha : a ≠ .caller j) :
    Controller.Calm p.ctl q.ctl := by
  obtain ⟨hflag, hr, hrun⟩ := hb.arming_caller harm
  cases hs with
  | request i rq hm => exact .of_eq rfl
  | call k e st hc hst =>
    have hkj : k ≠ j := fun e => ha (by rw [e])
    -- a call point that is not calm belongs to an idle controller, the drop or an arming start
    have other_arming : ∀ c : Call, p.callers k = .busy c → c.isArming = true → False := by
      intro c hc' hca
      exact hkj (hb.armed.arming_unique k j (by simp [hc', hca]) harm)
    rcases Acquisition.Call.step_calm hst with hcalm | ⟨hact, -⟩ | ⟨rfl, -⟩ | ⟨t, rfl, -⟩ |
      ⟨t, rfl, -⟩
    · exact hcalm
    · simp [Controller.isActive, hflag] at hact
    · have := hb.dropping.drop_alone k j (by simp [hc, Call.isDrop]) (Ne.symm hkj)
      simp [Caller.isBusy_of_isArming harm] at this
    · exact absurd (other_arming _ hc rfl) id
    · exact absurd (other_arming _ hc rfl) id
  | worker hst =>
    -- with no run requested or running, the worker can only end
    cases hw : p.worker with
    | idle =>
      rcases Worker.step_idle hw hst with ⟨hr', -⟩ | ⟨-, -, rfl⟩
      · simp [hr] at hr'
      · exact ⟨rfl, rfl, rfl, rfl, rfl, rfl, id, id⟩
    | acquiring run f n spot =>
      have e : p.ctl.running = p.worker.run?.isSome := hb.working.running_eq
      simp [hw, Worker.run?, hrun] at e
    | ending run o rel st =>
      have e : p.ctl.running = p.worker.run?.isSome := hb.working.running_eq
      simp [hw, Worker.run?, hrun] at e
    | exited => simp [Worker.step_exited hw] at hst
  | timer k hst => exact .of_eq (Timer.step_frame hst).1
  | outside sim host hout => cases hout

/-- Where the start of host thread `j` stands once a stop was asked for during its arming,
with `p0` the plant at that moment: arming, with the stop request standing and the run
numbers, the frame count and the prepared frame as at `p0`; or back from the start. -/
def CancelKept (j : Nat) (p0 p : Plant) : Prop :=
  ((p.callers j).isArming = true ∧ p.ctl.stopRequested = true ∧
      p.ctl.session = p0.ctl.session ∧ p.ctl.frameCount = p0.ctl.frameCount ∧
      p.ctl.frame = p0.ctl.frame) ∨
    ∃ r, p.callers j = .returned r

/-- Every step that is no new call of the start's host thread keeps where the start stands:
with the stop request standing, its hand-over gives up. -/
theorem CancelKept.step {j : Nat} {p0 p q : Plant} {a : Actor} (hb : Bookkept p)
    (h : CancelKept j p0 p) (hs : Transition false p a q) (hk : NewCall j p a q = false) :
    CancelKept j p0 q := by
  rcases h with ⟨harm, hst, hse, hfc, hf⟩ | ⟨r, hr⟩
  · by_cases ha : a = .caller j
    · -- the start's own step stays in the start calmly or returns
      subst ha
      cases hs with
      | request _ rq hm =>
        have hbusy := hm.1
        simp [Caller.isBusy_of_isArming harm] at hbusy
      | call _ e st hc hstep =>
        have hca := harm
        simp only [hc, Caller.isArming] at hca
        rcases Acquisition.Call.step_arming hca hstep with ⟨hra, hcalm⟩ | ⟨t, -, hs0⟩ |
          ⟨res, rfl, -⟩
        · exact .inl ⟨by simpa using hra, hcalm.stopRequested hst, hcalm.session ▸ hse,
            hcalm.frameCount ▸ hfc, hcalm.frame ▸ hf⟩
        · simp [hs0] at hst
        · exact .inr ⟨res, by simp⟩
    · -- another thread moved, calmly
      have hsame : q.callers j = p.callers j := by
        rcases hs.stays_or_calls hk with hsame | ⟨_, _, _, _, _, he, -⟩
        · exact hsame
        · exact absurd he ha
      have hcalm := hb.arming_calm harm hs ha
      exact .inl ⟨hsame ▸ harm, hcalm.stopRequested hst, hcalm.session ▸ hse,
        hcalm.frameCount ▸ hfc, hcalm.frame ▸ hf⟩
  · rcases hs.stays_or_calls hk with hsame | ⟨c, -, -, -, -, -, hc, -, -⟩
    · exact .inr ⟨r, hsame ▸ hr⟩
    · rw [hr] at hc
      cases hc

/-- A cancelled start stays where `CancelKept` puts it along every execution in which its
host thread makes no new call. -/
theorem CancelKept.run {params : AcqParams} {timings : Timings} {deviceIndex : Nat}
    {sim : Sdk.Simulator} {host : Host} {j : Nat} {p0 p q : Plant}
    (h : Reachable false (Plant.initial params timings deviceIndex sim host) p)
    (hk : CancelKept j p0 p) (hn : Counted false (NewCall j) p 0 q) :
    Reachable false (Plant.initial params timings deviceIndex sim host) q ∧ CancelKept j p0 q :=
  Counted.invariant
    (I := fun q => Reachable false (Plant.initial params timings deviceIndex sim host) q ∧
      CancelKept j p0 q)
    (fun _ _ _ hp hs hnew => ⟨hp.1.step hs, hp.2.step (bookkept_of_reachable hp.1) hs hnew⟩)
    ⟨h, hk⟩ hn

/-- The step by which a start leaves its arming points while a stop request stands returns
from the start, with the run numbers, the frame count and the prepared frame as they were,
the status ready and the controller idle. -/
theorem CancelKept.leaves {p q : Plant} {j : Nat} (hb : Bookkept p) (hsk : StatusKept p.ctl)
    (harm : (p.callers j).isArming = true) (hst : p.ctl.stopRequested = true)
    (hs : Transition false p (.caller j) q) (hq : (q.callers j).isArming = false) :
    (∃ r, q.callers j = .returned r) ∧ q.ctl.session = p.ctl.session ∧
      q.ctl.frameCount = p.ctl.frameCount ∧ q.ctl.frame = p.ctl.frame ∧
      q.ctl.status = .ready ∧ q.ctl.isActive = false := by
  obtain ⟨hflag, hr, hrun⟩ := hb.arming_caller harm
  -- an arming start found the status ready: neither a fault nor a status of a run
  have hready : p.ctl.status = .ready := by
    obtain ⟨hin, hfault⟩ := hsk.of_arming hb.sound hflag
    cases e : p.ctl.status <;> simp_all [Status.inRun]
  cases hs with
  | request _ rq hm =>
    have hbusy := hm.1
    simp [Caller.isBusy_of_isArming harm] at hbusy
  | call _ e st hc hstep =>
    have hca := harm
    simp only [hc, Caller.isArming] at hca
    rcases Acquisition.Call.step_arming hca hstep with ⟨hra, -⟩ | ⟨t, -, hs0⟩ |
      ⟨res, rfl, hctl | hctl⟩
    · simp [hra] at hq
    · simp [hs0] at hst
    · -- the start gave up at its hand-over or before it: only the arming flag falls
      refine ⟨⟨res, by simp⟩, ?_⟩
      simp [hctl, hready, Controller.isActive, hr, hrun]
    · -- the start gave up after cancelling its trigger and capture: the status is set ready
      refine ⟨⟨res, by simp⟩, ?_⟩
      simp [hctl, hready, Status.set, Controller.isActive, hr, hrun]

/-- A start that is arming while a stop request stands stays in the start, with the request
standing and the run numbers, the frame count and the prepared frame as they were, until it
returns. The step that ends its arming returns from the start, on a camera that held nothing
when the controller was made, with the controller idle and ready, the frame still prepared and
its buffer allocated, the capture stopped and every trigger thread ended. -/
theorem cancelled_start_returns {params : AcqParams} {timings : Timings} {deviceIndex : Nat}
    {sim : Sdk.Simulator} {host : Host} {p : Plant} {j : Nat}
    (hcap : sim.capture = none) (hal : sim.allocated = false)
    (hcs : sim.stats.capStarts = sim.stats.capStops)
    (hbuf : sim.stats.bufAllocs = sim.stats.bufReleases)
    (h : Reachable false (Plant.initial params timings deviceIndex sim host) p)
    (hst : p.ctl.stopRequested = true) (harm : (p.callers j).isArming = true) :
    ∀ q, Counted false (NewCall j) p 0 q → CancelKept j p q ∧
      ∀ q', (q.callers j).isArming = true → Transition false q (.caller j) q' →
        (q'.callers j).isArming = false →
        (∃ r, q'.callers j = .returned r) ∧ q'.ctl.session = p.ctl.session ∧
          q'.ctl.frameCount = p.ctl.frameCount ∧ q'.ctl.frame = p.ctl.frame ∧
          q'.ctl.frame.isSome = true ∧ q'.sim.allocated = true ∧ q'.ctl.status = .ready ∧
          q'.sim.capture = none ∧ ∀ t ∈ q'.timers, t.isAlive = false := by
  intro q hn
  obtain ⟨hq, hkeep⟩ := CancelKept.run h (.inl ⟨harm, hst, rfl, rfl, rfl⟩) hn
  refine ⟨hkeep, fun q' harm' hs hleft => ?_⟩
  -- while arming, the start keeps the stop request and what it found at `p`
  obtain ⟨-, hst', hse, hfc, hf⟩ : (q.callers j).isArming = true ∧ q.ctl.stopRequested = true ∧
      q.ctl.session = p.ctl.session ∧ q.ctl.frameCount = p.ctl.frameCount ∧
      q.ctl.frame = p.ctl.frame := by
    rcases hkeep with hk | ⟨r, hr⟩
    · exact hk
    · simp [hr, Caller.isArming] at harm'
  have hbq := bookkept_of_reachable hq
  obtain ⟨hret, hse', hfc', hf', hready, hidle⟩ :=
    CancelKept.leaves hbq (statusKept_of_reachable hq) harm' hst' hs hleft
  -- the frame prepared before the start is prepared still
  have hbp := bookkept_of_reachable h
  have hprep : p.ctl.frame.isSome = true := hbp.sound.arming_prepared (hbp.arming_caller harm).1
  have hq' := hq.step hs
  obtain ⟨hnone, -, -, halloc, htimers⟩ :=
    (Resourced.of_reachable hcap hal hcs hbuf hq').idle (bookkept_of_reachable hq') hidle
  have hframe : q'.ctl.frame = p.ctl.frame := hf'.trans hf
  refine ⟨hret, hse'.trans hse, hfc'.trans hfc, hframe, hframe ▸ hprep, ?_, hready, hnone,
    htimers⟩
  rw [halloc, hframe, hprep]

/-! ## What a stop guarantees -/

/-- What a stop guarantees, from every plant the system reaches on a camera that held nothing
when the controller was made. A plain stop that returns `Ok` has seen every run numbered
before it read the run number torn down. Once a stop is asked for, the worker announces at
most one more frame of the current run, and once the loop of a stop for run `n` is over no
frame of run `n` is announced again. A start arming while a stop request stands returns
without handing its run over, leaving what it found and releasing what it armed. -/
theorem stop_semantics {params : AcqParams} {timings : Timings} {deviceIndex : Nat}
    {sim : Sdk.Simulator} {host : Host} {p : Plant}
    (hcap : sim.capture = none) (hal : sim.allocated = false)
    (hcs : sim.stats.capStarts = sim.stats.capStops)
    (hbuf : sim.stats.bufAllocs = sim.stats.bufReleases)
    (h : Reachable false (Plant.initial params timings deviceIndex sim host) p) :
    (∀ i q, (p.callers i = .busy (.stop .plain) ∨
        p.callers i = .busy (.stopAwaitArming .plain)) →
      Counted false (NewCall i) p 0 q → q.callers i = .returned (.ok ()) →
      p.ctl.session ≤ q.ctl.completedSession) ∧
    (p.ctl.stopRequested = true →
      ∀ m q, Counted false (announcesFrame p.ctl.session) p m q → m ≤ 1) ∧
    (∀ i n q, (p.callers i = .busy (.stopAbort .plain n) ∨
        p.callers i = .busy (.stopPause .plain n)) →
      Transition false p (.caller i) q → (q.callers i).isBusy = false →
      ∀ m q', Counted false (announcesFrame n) q m q' → m = 0) ∧
    (∀ j, p.ctl.stopRequested = true → (p.callers j).isArming = true →
      ∀ q, Counted false (NewCall j) p 0 q → CancelKept j p q ∧
        ∀ q', (q.callers j).isArming = true → Transition false q (.caller j) q' →
          (q'.callers j).isArming = false →
          (∃ r, q'.callers j = .returned r) ∧ q'.ctl.session = p.ctl.session ∧
            q'.ctl.frameCount = p.ctl.frameCount ∧ q'.ctl.frame = p.ctl.frame ∧
            q'.ctl.frame.isSome = true ∧ q'.sim.allocated = true ∧
            q'.ctl.status = .ready ∧ q'.sim.capture = none ∧
            ∀ t ∈ q'.timers, t.isAlive = false) := by
  refine ⟨fun i q hc hn hr => stop_sees_teardown h hc hn hr,
    fun hst m q hn => announced_at_most_once h hst hn, ?_,
    fun j hst harm => cancelled_start_returns hcap hal hcs hbuf h hst harm⟩
  -- the loop's last step leaves run `n` over, and a run over announces nothing
  intro i n q hc hs hr m q' hn
  have hover := stopLoop_runOver (bookkept_of_reachable h) hc hs hr
  exact announced_none_after (h.step hs) hover hn

/-- The guarantees of a stop that waits for a run to end: one host thread prepares and starts a
run on an opened default camera, the worker picks it up, and the thread asks for a stop, which
aborts the run's frame wait and waits for the run to be torn down. -/
theorem stop_semantics_during_run :
    let init := Plant.onOpenedCamera AcqParams.default
    init.sim.capture = none ∧ init.sim.allocated = false ∧
    init.sim.stats.capStarts = init.sim.stats.capStops ∧
    init.sim.stats.bufAllocs = init.sim.stats.bufReleases ∧
    ∃ p, Reachable false init p ∧ p.ctl.stopRequested = true ∧
    p.callers 0 = .busy (.stopPause .plain 1) ∧
    (∃ run f k spot, p.worker = .acquiring run f k spot) ∧
    (∀ i q, (p.callers i = .busy (.stop .plain) ∨
        p.callers i = .busy (.stopAwaitArming .plain)) →
      Counted false (NewCall i) p 0 q → q.callers i = .returned (.ok ()) →
      p.ctl.session ≤ q.ctl.completedSession) ∧
    (p.ctl.stopRequested = true →
      ∀ m q, Counted false (announcesFrame p.ctl.session) p m q → m ≤ 1) ∧
    (∀ i n q, (p.callers i = .busy (.stopAbort .plain n) ∨
        p.callers i = .busy (.stopPause .plain n)) →
      Transition false p (.caller i) q → (q.callers i).isBusy = false →
      ∀ m q', Counted false (announcesFrame n) q m q' → m = 0) ∧
    (∀ j, p.ctl.stopRequested = true → (p.callers j).isArming = true →
      ∀ q, Counted false (NewCall j) p 0 q → CancelKept j p q ∧
        ∀ q', (q.callers j).isArming = true → Transition false q (.caller j) q' →
          (q'.callers j).isArming = false →
          (∃ r, q'.callers j = .returned r) ∧ q'.ctl.session = p.ctl.session ∧
            q'.ctl.frameCount = p.ctl.frameCount ∧ q'.ctl.frame = p.ctl.frame ∧
            q'.ctl.frame.isSome = true ∧ q'.sim.allocated = true ∧
            q'.ctl.status = .ready ∧ q'.sim.capture = none ∧
            ∀ t ∈ q'.timers, t.isAlive = false) := by
  dsimp only
  have h : Reachable false _ _ := Reachable.of_runAlone
    (rfl : (Plant.onOpenedCamera AcqParams.default).runAlone (fun _ _ _ => false)
      (Move.beginRun ++ [.request .stop, .call, .call]) = some (0, _))
  exact ⟨rfl, rfl, rfl, rfl, _, h, by decide +kernel, rfl, ⟨_, _, _, _, rfl⟩,
    stop_semantics rfl rfl rfl rfl h⟩

end CameraAcquisition
