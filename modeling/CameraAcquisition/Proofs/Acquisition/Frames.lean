import CameraAcquisition.Proofs.Acquisition.RunBooks

/-!
# What a step leaves alone, and executions of one host thread

A step of one thread moves that thread only: a host call, the worker, a trigger thread and the
outside never move another host thread (`Transition.callers_ne`).

Executions in which one host thread makes all the calls, with every other host thread idle,
are where a single program drives the controller. `OthersIdle` follows them: each of its
requests may be made (`OthersIdle.mayRequest`). Such an execution is written down as a
schedule of moves, the requests and call steps of host thread 0 and the steps of the other
threads, which `Plant.runAlone` makes in turn while it counts the steps of a kind; a schedule
that runs stands for an execution with that count (`Counted.runAlone`, `Reachable.runAlone`,
and from a start point `Reachable.of_runAlone`), so that a concrete execution is checked by
evaluation.

## What this module delivers

- `Transition.callers_ne`.
- `OthersIdle` with `OthersIdle.step`, `OthersIdle.mayRequest` and
  `OthersIdle.mayRequest_beside`.
- `Counted.invariant`: what the uncounted steps keep holds along an execution that counts none;
  `Counted.budget`: a budget spent one by one on the counted steps bounds their count;
  `Counted.reachable`.
- `Move`, `Plant.move`, `Plant.runAlone` with `Plant.move_transition`,
  `Plant.runAlone_induction`, `Counted.runAlone`, `Reachable.runAlone` and
  `Reachable.of_runAlone`.
- `Plant.onOpenedCamera`, the controller just made on an opened camera of the default build,
  and `Move.beginRun`, the schedule of a run begun.
-/

set_option autoImplicit false

namespace CameraAcquisition

namespace Transition

variable {env : Bool} {p q : Plant} {a : Actor}

/-- A step of one thread leaves every other host thread where it stands. -/
theorem callers_ne (hs : Transition env p a q) {j : Nat} (hj : a ≠ .caller j) :
    q.callers j = p.callers j := by
  cases hs with
  | request i r hm =>
    have hji : j ≠ i := fun e => hj (by rw [e])
    simp [hji]
  | call i e s hc hst =>
    have hji : j ≠ i := fun e => hj (by rw [e])
    simp [hji, (Acquisition.Call.step_frame hst).2]
  | worker hst => rw [Worker.step_callers hst]
  | timer i hst => rw [(Timer.step_frame hst).2.2.1]
  | outside sim host _ => rfl

end Transition

/-- Every host thread other than `i` is idle. -/
def OthersIdle (i : Nat) (p : Plant) : Prop := ∀ j, j ≠ i → p.callers j = .idle

namespace OthersIdle

variable {env : Bool} {i : Nat} {p q : Plant} {a : Actor}

theorem initial (params : AcqParams) (timings : Timings) (deviceIndex : Nat)
    (sim : Sdk.Simulator) (host : Host) :
    OthersIdle i (Plant.initial params timings deviceIndex sim host) := fun _ _ => rfl

/-- A step of host thread `i`, the worker, a trigger thread or the outside keeps the other host
threads idle. -/
theorem step (h : OthersIdle i p) (hs : Transition env p a q) (ha : ∀ j, a = .caller j → j = i) :
    OthersIdle i q := by
  intro j hj
  rw [hs.callers_ne (fun e => hj (ha j e)), h j hj]

/-- With every other host thread idle, a host thread out of its calls may make any request. -/
theorem mayRequest (h : OthersIdle i p) (hb : (p.callers i).isBusy = false)
    (hq : p.ctl.quit = false) (r : Request) : CameraAcquisition.mayRequest p i r := by
  have idle : ∀ j, (p.callers j).isBusy = false := by
    intro j
    by_cases hj : j = i
    · rw [hj, hb]
    · rw [h j hj]; rfl
  refine ⟨hb, hq, fun j c hc => ?_, fun _ j => idle j⟩
  have := idle j
  rw [hc] at this
  exact absurd this (by simp)

/-- With every host thread but `i` idle and `i` in no drop, another host thread may make any
request but a drop. -/
theorem mayRequest_beside (h : OthersIdle i p) {j : Nat} (hj : j ≠ i) (hq : p.ctl.quit = false)
    (hd : (p.callers i).isDrop = false) (r : Request) (hr : r ≠ .drop) :
    CameraAcquisition.mayRequest p j r := by
  refine ⟨by rw [h j hj]; rfl, hq, fun k c hc => ?_, fun e => ?_⟩
  · -- only host thread `i` can be in a call
    by_cases hk : k = i
    · subst hk
      rwa [hc] at hd
    · rw [h k hk] at hc
      cases hc
  · cases r with
    | drop => exact absurd rfl hr
    | _ => cases e

end OthersIdle

/-- What every uncounted step keeps holds at the end of an execution that counts no step. -/
theorem Counted.invariant {env : Bool} {kind : Plant → Actor → Plant → Bool} {I : Plant → Prop}
    (hstep : ∀ p a q, I p → Transition env p a q → kind p a q = false → I q)
    {p q : Plant} (hp : I p) (h : Counted env kind p 0 q) : I q := by
  -- the count never falls, so an execution counted zero has only uncounted steps
  suffices ∀ n, Counted env kind p n q → n = 0 → I q from this 0 h rfl
  intro n hc
  clear h
  induction hc with
  | refl => exact fun _ => hp
  | @step q' r a n _ hs ih =>
    intro hn
    have hk : kind q' a r = false := by
      cases hk : kind q' a r
      · rfl
      · simp [hk] at hn
    exact hstep q' a r (ih (by simpa [hk] using hn)) hs hk

/-- What every step keeps, with a budget from which each counted step spends one, bounds the
count of an execution by the budget at its start. -/
theorem Counted.budget {env : Bool} {kind : Plant → Actor → Plant → Bool} {I : Plant → Prop}
    (B : Plant → Nat)
    (hstep : ∀ p a q, I p → Transition env p a q →
      I q ∧ (if kind p a q then 1 else 0) + B q ≤ B p)
    {p q : Plant} {n : Nat} (hp : I p) (h : Counted env kind p n q) : I q ∧ n + B q ≤ B p := by
  induction h with
  | refl => exact ⟨hp, by omega⟩
  | step _ hs ih =>
    obtain ⟨hq, hn⟩ := ih
    obtain ⟨hr, hk⟩ := hstep _ _ _ hq hs
    exact ⟨hr, by omega⟩

/-- A counted execution is an execution. -/
theorem Counted.reachable {env : Bool} {kind : Plant → Actor → Plant → Bool} {init p : Plant}
    {n : Nat} (h : Counted env kind init n p) : Reachable env init p := by
  induction h with
  | refl => exact .init
  | step _ hs ih => exact ih.step hs

/-! ## Schedules of one host thread -/

/-- A move of an execution that host thread 0 drives alone: a request of it, a step of its call
with no timeout expiring and every thread it starts spawned, a step of the worker, or a step of
trigger thread `j`. -/
inductive Move where
  | request (r : Request)
  | call
  | worker
  | timer (j : Nat)

/-- The thread that makes a move. -/
def Move.actor : Move → Actor
  | .request _ | .call => .caller 0
  | .worker => .worker
  | .timer j => .timer j

/-- The plant a move leads to, or `none` if it cannot be made there. -/
def Plant.move (p : Plant) : Move → Option Plant
  | .request r =>
    if !(p.callers 0).isBusy && !p.ctl.quit then some (p.setCaller 0 (.busy r.call)) else none
  | .call =>
    match p.callers 0 with
    | .busy c => (Acquisition.Call.step false (.ok ()) c p).map fun rq => rq.2.setCaller 0 rq.1
    | _ => none
  | .worker => Worker.step true p
  | .timer j => Timer.step j p

/-- Makes the moves of a schedule in turn from `p`: the number of steps `kind` picks out and the
plant reached, or `none` if a move cannot be made. -/
def Plant.runAlone (kind : Plant → Actor → Plant → Bool) (p : Plant) :
    List Move → Option (Nat × Plant)
  | [] => some (0, p)
  | m :: ms => (p.move m).bind fun q =>
      (q.runAlone kind ms).map fun r => ((if kind p m.actor q then 1 else 0) + r.1, r.2)

/-- A move made with every other host thread idle is a step of its thread, and keeps the other
host threads idle. -/
theorem Plant.move_transition {env : Bool} {p q : Plant} {m : Move} (hi : OthersIdle 0 p)
    (h : p.move m = some q) : Transition env p m.actor q ∧ OthersIdle 0 q := by
  have call : ∀ j, Actor.caller 0 = .caller j → j = 0 := fun j e => (Actor.caller.inj e).symm
  cases m with
  | request r =>
    simp only [Plant.move, Bool.and_eq_true, Bool.not_eq_eq_eq_not, Bool.not_true] at h
    split_ifs at h with hm
    cases h
    have hs : Transition env p (.caller 0) _ := .request 0 r (hi.mayRequest hm.1 hm.2 r)
    exact ⟨hs, hi.step hs call⟩
  | call =>
    simp only [Plant.move] at h
    split at h
    · next c hc =>
      obtain ⟨⟨r, q'⟩, hst, rfl⟩ := Option.map_eq_some_iff.1 h
      have hs : Transition env p (.caller 0) _ := .call 0 false (.ok ()) hc hst
      exact ⟨hs, hi.step hs call⟩
    · cases h
  | worker =>
    have hs : Transition env p .worker q := .worker h
    exact ⟨hs, hi.step hs fun j e => nomatch e⟩
  | timer j =>
    have hs : Transition env p (.timer j) q := .timer j h
    exact ⟨hs, hi.step hs fun j e => nomatch e⟩

/-- What every step of host thread 0 or of another thread carries to the plant it leads to, with
the count of the steps of a kind, holds at the end of a schedule that runs. -/
theorem Plant.runAlone_induction {env : Bool} {kind : Plant → Actor → Plant → Bool}
    (P : Nat → Plant → Prop)
    (hstep : ∀ n p a q, P n p → OthersIdle 0 p → Transition env p a q →
      P (n + if kind p a q then 1 else 0) q)
    {p q : Plant} {n k : Nat} {ms : List Move} (hp : P n p) (hi : OthersIdle 0 p)
    (hr : p.runAlone kind ms = some (k, q)) : P (n + k) q ∧ OthersIdle 0 q := by
  -- the schedule is made from its first move on, so the execution grows at its end
  induction ms generalizing n k p with
  | nil =>
    simp only [Plant.runAlone, Option.some.injEq, Prod.mk.injEq] at hr
    obtain ⟨rfl, rfl⟩ := hr
    exact ⟨hp, hi⟩
  | cons m ms ih =>
    simp only [Plant.runAlone, Option.bind_eq_some_iff, Option.map_eq_some_iff] at hr
    obtain ⟨p', hm, ⟨k', q'⟩, hr', he⟩ := hr
    simp only [Prod.mk.injEq] at he
    obtain ⟨rfl, rfl⟩ := he
    obtain ⟨hs, hi'⟩ := Plant.move_transition hi hm
    have hq := ih (hstep n p _ p' hp hi hs) hi' hr'
    rwa [Nat.add_assoc] at hq

/-- A schedule that runs from a plant reached with every other host thread idle extends the
execution, by the steps it counts. -/
theorem Counted.runAlone {env : Bool} {kind : Plant → Actor → Plant → Bool} {init p q : Plant}
    {n k : Nat} {ms : List Move} (h : Counted env kind init n p) (hi : OthersIdle 0 p)
    (hr : p.runAlone kind ms = some (k, q)) : Counted env kind init (n + k) q ∧ OthersIdle 0 q :=
  Plant.runAlone_induction (Counted env kind init) (fun _ _ _ _ hp _ hs => hp.step hs) h hi hr

/-- A schedule that runs from a reachable plant with every other host thread idle extends the
execution. -/
theorem Reachable.runAlone {env : Bool} {kind : Plant → Actor → Plant → Bool} {init p q : Plant}
    {k : Nat} {ms : List Move} (h : Reachable env init p) (hi : OthersIdle 0 p)
    (hr : p.runAlone kind ms = some (k, q)) : Reachable env init q ∧ OthersIdle 0 q :=
  Plant.runAlone_induction (fun _ => Reachable env init) (fun _ _ _ _ hp _ hs => hp.step hs)
    (n := 0) h hi hr

/-- A schedule run from a start point reaches a plant of the system. -/
theorem Reachable.of_runAlone {env : Bool} {kind : Plant → Actor → Plant → Bool}
    {params : AcqParams} {timings : Timings} {deviceIndex : Nat} {sim : Sdk.Simulator}
    {host : Host} {q : Plant} {k : Nat} {ms : List Move}
    (hr : (Plant.initial params timings deviceIndex sim host).runAlone kind ms = some (k, q)) :
    Reachable env (Plant.initial params timings deviceIndex sim host) q :=
  (Reachable.runAlone .init (OthersIdle.initial _ _ _ _ _) hr).1

/-- A controller just made with the parameters `params` on an opened camera of the default
build, with no arm settle. -/
def Plant.onOpenedCamera (params : AcqParams) : Plant :=
  Plant.initial params default 0
    { Sdk.Simulator.make Sdk.SimConfig.default with initialized := true, opened := true } default

/-- The schedule of a run begun on a camera with no arm settle: a prepare, then a start that
starts the capture, arms and hands its run over, the worker's pick-up of the run, and the
start's return. -/
def Move.beginRun : List Move :=
  [.request .prepare, .call, .request .start, .call, .call, .call, .call, .worker, .call]

end CameraAcquisition
