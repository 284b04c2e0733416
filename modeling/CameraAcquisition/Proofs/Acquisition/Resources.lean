import CameraAcquisition.Proofs.Acquisition.Status
import CameraAcquisition.Proofs.Sdk.Resources

/-!
# The camera's resources

The controller takes three kinds of resource from the camera: the capture, the SDK frame and
the trigger threads. Each is held by one party at a time. The capture is held by a start from
its capture start until its cancel has stopped it, then by the run it hands over, then by the
worker until its teardown stops it. The frame is held by the controller while prepared, then
by the worker in its run until its teardown releases it. A trigger thread is answered for by
the start that started it, then by the run, then by the worker until a join finds it ended.

`Resourced` says that the camera holds what these parties hold, and that its counters agree
(`Sdk.Holdings.Balanced`). Every step without interference from outside keeps it
(`Resourced.step`): a step either moves no resource, or moves a holder on with what it holds,
or takes or gives back one resource, and each of these has its lemma. On an idle controller
nobody holds the capture, only the controller may hold the frame, and nobody answers for a
trigger thread. So the camera is not capturing, its capture counters agree, its buffer is
allocated exactly when a frame is prepared, and no trigger thread is alive (`Resourced.idle`).

## What this module delivers

- `Call.holdsCapture`, `Call.timerOf`, `Worker.holdsRun`, `Worker.timerOf` and, over plants,
  `CaptureHeld`, `frameHeld`, `TimerAlive` and `OwnsTimer`.
- `Resourced` with `Resourced.step` and `Resourced.of_reachable`, and `Resourced.idle` for an
  idle controller.
-/

set_option autoImplicit false

namespace CameraAcquisition

/-! ## Who holds what -/

/-- Whether a point of a start holds the capture it started: from the settle pause until its
cancel has stopped the capture. -/
def Call.holdsCapture : Call → Bool
  | .settling _ | .armTimer _ | .handOver _ => true
  | .cancelling _ .signal | .cancelling _ .join | .cancelling _ .stopCapture => true
  | _ => false

/-- The trigger thread a point of a start answers for: the one it started, until its cancel
has joined it. -/
def Call.timerOf : Call → Option Nat
  | .handOver t | .cancelling t .signal | .cancelling t .join => t
  | _ => none

/-- Whether a host thread holds the capture. -/
def Caller.holdsCapture : Caller → Bool
  | .busy c => c.holdsCapture
  | _ => false

/-- The trigger thread a host thread answers for. -/
def Caller.timerOf : Caller → Option Nat
  | .busy c => c.timerOf
  | _ => none

/-- Whether the worker holds its run's capture and frame: until its teardown has stopped the
one and released the other. -/
def Worker.holdsRun : Worker → Bool
  | .acquiring .. => true
  | .ending _ _ _ .record => false
  | .ending .. => true
  | _ => false

/-- The trigger thread the worker answers for: its run's, until its teardown has joined it. -/
def Worker.timerOf : Worker → Option Nat
  | .acquiring run .. | .ending run _ _ .signal | .ending run _ _ .join => run.timer
  | _ => none

@[simp] theorem Caller.holdsCapture_busy (c : Call) :
    (Caller.busy c).holdsCapture = c.holdsCapture := rfl
@[simp] theorem Caller.holdsCapture_idle : Caller.idle.holdsCapture = false := rfl
@[simp] theorem Caller.holdsCapture_returned (r : Except CameraError Unit) :
    (Caller.returned r).holdsCapture = false := rfl
@[simp] theorem Caller.timerOf_busy (c : Call) : (Caller.busy c).timerOf = c.timerOf := rfl
@[simp] theorem Caller.timerOf_idle : Caller.idle.timerOf = none := rfl
@[simp] theorem Caller.timerOf_returned (r : Except CameraError Unit) :
    (Caller.returned r).timerOf = none := rfl

/-- Only a start that holds the arming flag holds the capture. -/
theorem Caller.isArming_of_holdsCapture {c : Caller} (h : c.holdsCapture = true) :
    c.isArming = true := by
  rcases c with _ | x | _
  · simp at h
  · cases x <;> simp_all [Call.holdsCapture, Call.isArming]
  · simp at h

/-- Only a start that holds the arming flag answers for a trigger thread. -/
theorem Caller.isArming_of_timerOf {c : Caller} {j : Nat} (h : c.timerOf = some j) :
    c.isArming = true := by
  rcases c with _ | x | _
  · simp at h
  · cases x <;> simp_all [Call.timerOf, Call.isArming]
  · simp at h

/-- The worker holds resources only within a run. -/
theorem Worker.run?_of_holdsRun {w : Worker} (h : w.holdsRun = true) : w.run?.isSome = true := by
  cases w <;> simp_all [Worker.holdsRun, Worker.run?]

/-- The worker answers for a trigger thread only as its run's. -/
theorem Worker.run?_of_timerOf {w : Worker} {j : Nat} (h : w.timerOf = some j) :
    ∃ run, w.run? = some run ∧ run.timer = some j := by
  rcases w with _ | ⟨run, f, n, spot⟩ | ⟨run, o, rel, st⟩ | _
  · simp [Worker.timerOf] at h
  · exact ⟨run, rfl, h⟩
  · cases st <;> simp_all [Worker.timerOf, Worker.run?]
  · simp [Worker.timerOf] at h

namespace Plant

/-- Someone holds the capture: a start past its capture start, a run handed over and not yet
picked up, or the worker in its run. -/
def CaptureHeld (p : Plant) : Prop :=
  (∃ i, (p.callers i).holdsCapture = true) ∨
    (p.ctl.runRequested = true ∧ p.ctl.running = false) ∨ p.worker.holdsRun = true

/-- Someone holds the SDK frame: the controller, prepared, or the worker in its run. -/
def frameHeld (p : Plant) : Bool := p.ctl.frame.isSome || p.worker.holdsRun

/-- Trigger thread `j` is alive. -/
def TimerAlive (p : Plant) (j : Nat) : Prop := ∃ t, p.timers[j]? = some t ∧ t.isAlive = true

/-- Someone answers for trigger thread `j`: the start that started it, the run handed over
with it, or the worker in that run. -/
def OwnsTimer (p : Plant) (j : Nat) : Prop :=
  (∃ i, (p.callers i).timerOf = some j) ∨ p.ctl.timer = some j ∨ p.worker.timerOf = some j

/-- A join finds a trigger thread ended exactly when it is not alive. -/
theorem timerEnded_some (p : Plant) (j : Nat) :
    p.timerEnded (some j) = true ↔ ¬p.TimerAlive j := by
  unfold timerEnded TimerAlive
  cases h : p.timers[j]? <;> simp [h]

end Plant

/-- What of the controller says who holds the resources: the prepared frame, the run flags and
the trigger thread of a run handed over. -/
structure Stakes where
  frame : Option Sdk.Frame
  runRequested : Bool
  running : Bool
  timer : Option Nat

/-- The controller's stakes. -/
def Controller.stakes (c : Controller) : Stakes := ⟨c.frame, c.runRequested, c.running, c.timer⟩

/-- The camera holds what the parties of the controller hold, with balanced counters. -/
structure Resourced (p : Plant) : Prop where
  balanced : p.sim.holdings.Balanced
  capturing_iff : p.sim.capture.isSome = true ↔ p.CaptureHeld
  allocated_eq : p.sim.allocated = p.frameHeld
  timer_owned : ∀ j, p.TimerAlive j → p.OwnsTimer j

/-! ## One holder at a time -/

namespace Bookkept

variable {p : Plant} {i : Nat}

/-- With no run running, the worker holds no run's resources. -/
theorem holdsRun_false (hb : Bookkept p) (hrun : p.ctl.running = false) :
    p.worker.holdsRun = false := by
  have hout := hb.working.not_in_run hrun
  cases hw : p.worker.holdsRun
  · rfl
  · simpa [hout] using Worker.run?_of_holdsRun hw

/-- A start that holds the capture holds it alone. -/
theorem capture_caller_alone (hb : Bookkept p) (hi : (p.callers i).holdsCapture = true) :
    (∀ j, j ≠ i → (p.callers j).holdsCapture = false) ∧ p.ctl.runRequested = false ∧
      p.ctl.running = false ∧ p.worker.holdsRun = false := by
  have ha : (p.callers i).isArming = true := Caller.isArming_of_holdsCapture hi
  obtain ⟨-, hr, hrun⟩ := hb.arming_caller ha
  refine ⟨fun j hj => ?_, hr, hrun, hb.holdsRun_false hrun⟩
  -- another start holding the capture would be arming too
  cases hc : (p.callers j).holdsCapture
  · rfl
  · exact absurd (hb.armed.arming_unique j i (Caller.isArming_of_holdsCapture hc) ha) hj

/-- While the worker is in a run no start holds the capture or answers for a trigger thread,
no frame is prepared and no run waits to be picked up with a trigger thread. -/
theorem in_run_alone (hb : Bookkept p) (hin : p.worker.run?.isSome = true) :
    (∀ j, (p.callers j).holdsCapture = false ∧ (p.callers j).timerOf = none) ∧
      p.ctl.running = true ∧ p.ctl.frame = none ∧ p.ctl.timer = none := by
  obtain ⟨run, hrun⟩ := Option.isSome_iff_exists.1 hin
  have hr : p.ctl.running = true := by
    have e : p.ctl.running = p.worker.run?.isSome := hb.working.running_eq
    rw [e, hin]
  obtain ⟨-, hf, ht⟩ := hb.working.run_current run hrun
  -- a start holding the capture or a trigger thread would be arming, with no run running
  have calm : ∀ j, (p.callers j).isArming = false := fun j => by
    cases hc : (p.callers j).isArming
    · rfl
    · simp [(hb.arming_caller hc).2.2] at hr
  refine ⟨fun j => ⟨?_, ?_⟩, hr, hf, ht⟩
  · cases hh : (p.callers j).holdsCapture
    · rfl
    · exact absurd (calm j) (by simp [Caller.isArming_of_holdsCapture hh])
  · cases ht' : (p.callers j).timerOf
    · rfl
    · exact absurd (calm j) (by simp [Caller.isArming_of_timerOf ht'])

/-- On an idle controller nobody holds the capture, only the controller may hold the frame,
and nobody answers for a trigger thread. -/
theorem idle_holds (hb : Bookkept p) (ha : p.ctl.isActive = false) :
    ¬p.CaptureHeld ∧ p.frameHeld = p.ctl.frame.isSome ∧ ∀ j, ¬p.OwnsTimer j := by
  obtain ⟨harm, hr, hrun⟩ := active_false ha
  have hout := hb.working.not_in_run hrun
  -- an idle controller has no start arming and no worker in a run
  have calm : ∀ j, (p.callers j).isArming = false := fun j => by
    cases hc : (p.callers j).isArming
    · rfl
    · have h' : p.ctl.arming = true := hb.armed.arming_iff.2 ⟨j, hc⟩
      simp [h'] at harm
  have hw := hb.holdsRun_false hrun
  have ht : p.ctl.timer = none := by
    cases ht : p.ctl.timer
    · rfl
    · have hr' : p.ctl.runRequested = true := (hb.sound.timer_pending (by simp [ht])).1
      simp [hr] at hr'
  refine ⟨?_, by simp [Plant.frameHeld, hw], ?_⟩
  · rintro (⟨j, hj⟩ | ⟨hr', -⟩ | hw')
    · exact absurd (Caller.isArming_of_holdsCapture hj) (by simp [calm j])
    · simp [hr] at hr'
    · simp [hw] at hw'
  · rintro j (⟨k, hk⟩ | hk | hk)
    · exact absurd (Caller.isArming_of_timerOf hk) (by simp [calm k])
    · simp [ht] at hk
    · obtain ⟨run, hrun', -⟩ := Worker.run?_of_timerOf hk
      simp [hout] at hrun'

end Bookkept

/-! ## Trigger threads -/

namespace Plant

variable {p : Plant} {j : Nat}

/-- A change of one trigger thread that does not revive it leaves alive only threads that
were. -/
theorem timerAlive_modifyTimer {k : Nat} {f : Timer → Timer}
    (hf : ∀ t, p.timers[k]? = some t → (f t).isAlive = true → t.isAlive = true)
    (h : (p.modifyTimer k f).TimerAlive j) : p.TimerAlive j := by
  obtain ⟨t, ht, ha⟩ := h
  simp only [modifyTimer, List.getElem?_modify] at ht
  cases hp : p.timers[j]? with
  | none => simp [hp] at ht
  | some t0 =>
    simp only [hp, Option.map_eq_map, Option.map_some, Option.some.injEq] at ht
    refine ⟨t0, hp, ?_⟩
    split at ht
    · next hk =>
      subst hk
      exact hf t0 hp (ht ▸ ha)
    · exact ht ▸ ha

/-- Telling a trigger thread to stop leaves alive exactly the threads that were. -/
theorem timerAlive_signalTimer {t : Option Nat} (h : (signalTimer t p).TimerAlive j) :
    p.TimerAlive j := by
  cases t with
  | none => exact h
  | some k =>
    simp only [signalTimer] at h
    exact timerAlive_modifyTimer (fun _ _ ha => by simpa [Timer.isAlive] using ha) h

end Plant

/-- A step of a trigger thread leaves the camera's holdings alone and revives no thread. -/
theorem Timer.step_resources {p q : Plant} {k : Nat} (h : Timer.step k p = some q) :
    q.sim.holdings = p.sim.holdings ∧ ∀ j, q.TimerAlive j → p.TimerAlive j := by
  -- the thread that steps was pausing or firing, so alive
  obtain ⟨t, ht, ⟨hpc, rfl⟩ | ⟨hpc, -, rfl⟩ | ⟨hpc, -, rfl⟩⟩ := Timer.step_eq h <;>
    refine ⟨by simp, fun j hj => Plant.timerAlive_modifyTimer (fun t' ht' _ => ?_) hj⟩ <;>
    · rw [ht] at ht'
      cases ht'
      simp only [Timer.isAlive, hpc]
      decide

/-- A step of the frame loop leaves the camera's holdings alone: a frame wait takes no
resource. -/
theorem Worker.acquireStep_holdings {p q : Plant} {pat : Bool} {run : Run} {f : Sdk.Frame}
    {n : Nat} {spot : Spot} (h : Worker.acquireStep pat run f n spot p = some q) :
    q.sim.holdings = p.sim.holdings :=
  (Worker.acquireStep_waitsFrom h).holdings_eq

/-! ## A prepare -/

/-- The camera of an idle controller: balanced counters, no capture, and the buffer allocated
exactly while a frame is prepared. -/
def Plant.Settled (p : Plant) : Prop :=
  p.sim.holdings.Balanced ∧ p.sim.capture.isSome = false ∧ p.sim.allocated = p.ctl.frame.isSome

namespace Acquisition

open Sdk.Simulator

/-- A call that leaves the camera's holdings alone keeps it settled. -/
theorem call_settled {α : Type} (f : Sdk.Simulator → Sdk.Answer α)
    (hf : ∀ s, (f s).2.holdings = s.holdings) :
    Act.Keeps (fun p q => p.Settled → q.Settled) (call f) := by
  intro p ⟨hb, hc, ha⟩
  have e := hf p.sim
  have ec : (f p.sim).2.capture.isSome = p.sim.capture.isSome := congrArg Sdk.Holdings.capturing e
  have ea : (f p.sim).2.allocated = p.sim.allocated := congrArg Sdk.Holdings.allocated e
  simp only [run'_call]
  exact ⟨e ▸ hb, ec ▸ hc, ea ▸ ha⟩

theorem programTrigger_settled (params : AcqParams) :
    Act.Keeps (fun p q => p.Settled → q.Settled) (programTrigger params) :=
  programTrigger_keeps (fun _ _ _ h1 h2 h => h2 (h1 h)) (fun _ => id)
    (call_settled _ holdings_capTrigger)
    (fun attr => call_settled _ fun s => holdings_setCapTrigger s attr) params

/-- A prepare on an idle controller leaves the camera settled: the cold start starts and stops
the capture, and the frame allocated is the frame prepared. -/
theorem prepare_settled : Act.Keeps (fun p q => p.Settled → q.Settled) prepare := by
  refine prepare_keeps (fun _ _ _ h1 h2 h => h2 (h1 h)) (fun _ => id) (fun p _ hp => ?_)
    programTrigger_settled fun p hf hp => ?_
  · -- the cold start stops the capture it started, whatever the stop answers
    obtain ⟨hb, hc, ha⟩ := hp
    obtain ⟨hb', hc', ha'⟩ := capStart_capStop p.sim .triggerSoftware hb hc
    rw [coldStart_plant]
    split
    · exact ⟨hb', hc', by simpa [ha'] using ha⟩
    · exact ⟨hb', hc', by simpa [ha'] using ha⟩
    · next err hs =>
      rw [capStart_error p.sim .triggerSoftware hs]
      exact ⟨hb, hc, ha⟩
  · -- the buffer is allocated for the frame prepared, or left as it was
    obtain ⟨hb, hc, ha⟩ := hp
    have hcap : p.sim.bufAlloc.2.capture.isSome = p.sim.capture.isSome := by
      have := congrArg Sdk.Holdings.capturing (holdings_bufAlloc p.sim)
      split at this <;> simpa using this
    rw [allocFrame_plant]
    split
    · next f hok =>
      rcases bufAlloc_cases p.sim with ⟨f', -, hal⟩ | ⟨err, herr, -⟩
      · exact ⟨balanced_bufAlloc p.sim hb, hcap ▸ hc, by simpa using hal⟩
      · simp [hok] at herr
    · next err herr =>
      rcases bufAlloc_cases p.sim with ⟨f', hok, -⟩ | ⟨err', -, hh⟩
      · simp [herr] at hok
      · have hal : p.sim.bufAlloc.2.allocated = p.sim.allocated :=
          congrArg Sdk.Holdings.allocated hh
        exact ⟨hh ▸ hb, hcap ▸ hc, by simpa [hal] using ha⟩

end Acquisition

/-! ## Steps that move no resource -/

namespace Resourced

variable {p q : Plant} {i : Nat}

/-- A step after which the camera holds the same, the same parties hold the capture and the
frame, and every trigger thread alive was alive and is answered for by whoever answered for
it. -/
theorem of_same (h : Resourced p) (hs : q.sim.holdings = p.sim.holdings)
    (hcap : q.CaptureHeld ↔ p.CaptureHeld) (hf : q.frameHeld = p.frameHeld)
    (ht : ∀ j, q.TimerAlive j → p.TimerAlive j ∧ (p.OwnsTimer j → q.OwnsTimer j)) :
    Resourced q := by
  have hc : q.sim.capture.isSome = p.sim.capture.isSome := congrArg Sdk.Holdings.capturing hs
  have ha : q.sim.allocated = p.sim.allocated := congrArg Sdk.Holdings.allocated hs
  refine ⟨hs ▸ h.balanced, ?_, by rw [ha, hf, h.allocated_eq], fun j hj => ?_⟩
  · rw [hc, hcap]
    exact h.capturing_iff
  · obtain ⟨hp, hown⟩ := ht j hj
    exact hown (h.timer_owned j hp)

/-- A host thread moves on holding the same capture and answering for the same trigger thread,
or for none once it has joined it, and nothing else a resource reads changes. -/
theorem move (h : Resourced p) {c r : Caller} (hc : p.callers i = c)
    (hcap : r.holdsCapture = c.holdsCapture)
    (ht : r.timerOf = c.timerOf ∨
      (r.timerOf = none ∧ ∀ j, c.timerOf = some j → ¬p.TimerAlive j))
    (hs : q.sim.holdings = p.sim.holdings) (hst : q.ctl.stakes = p.ctl.stakes)
    (hw : q.worker = p.worker) (hcl : q.callers = p.callers)
    (htm : ∀ j, q.TimerAlive j → p.TimerAlive j) : Resourced (q.setCaller i r) := by
  have hhold : ∀ j, (Function.update p.callers i r j).holdsCapture =
      (p.callers j).holdsCapture := fun j => by
    by_cases hj : j = i
    · subst hj
      simp [hc, hcap]
    · simp [hj]
  have hr : q.ctl.runRequested = p.ctl.runRequested := congrArg Stakes.runRequested hst
  have hrun : q.ctl.running = p.ctl.running := congrArg Stakes.running hst
  have hf : q.ctl.frame = p.ctl.frame := congrArg Stakes.frame hst
  have hti : q.ctl.timer = p.ctl.timer := congrArg Stakes.timer hst
  refine h.of_same (by simpa using hs) ?_ ?_ fun j hj => ⟨htm j hj, ?_⟩
  · simp only [Plant.CaptureHeld, Plant.setCaller_callers, Plant.setCaller_ctl,
      Plant.setCaller_worker, hcl, hhold, hr, hrun, hw]
  · simp only [Plant.frameHeld, Plant.setCaller_ctl, Plant.setCaller_worker, hf, hw]
  · -- the host thread that answered for the thread still does, unless it has joined it
    rintro (⟨k, hk⟩ | hk | hk)
    · by_cases hki : k = i
      · subst hki
        rw [hc] at hk
        rcases ht with ht | ⟨-, hdead⟩
        · exact .inl ⟨k, by simp [ht, hk]⟩
        · exact absurd (htm j hj) (hdead j hk)
      · exact .inl ⟨k, by simp [hcl, hki, hk]⟩
    · exact .inr (.inl (by simp [hti, hk]))
    · exact .inr (.inr (by simp [hw, hk]))

/-- The worker moves on holding the same resources and answering for the same trigger thread,
or for none once it has joined it, and nothing else a resource reads changes. -/
theorem moveWorker (h : Resourced p) (hcap : q.worker.holdsRun = p.worker.holdsRun)
    (ht : q.worker.timerOf = p.worker.timerOf ∨
      (q.worker.timerOf = none ∧ ∀ j, p.worker.timerOf = some j → ¬p.TimerAlive j))
    (hs : q.sim.holdings = p.sim.holdings) (hst : q.ctl.stakes = p.ctl.stakes)
    (hcl : q.callers = p.callers) (htm : ∀ j, q.TimerAlive j → p.TimerAlive j) :
    Resourced q := by
  have hr : q.ctl.runRequested = p.ctl.runRequested := congrArg Stakes.runRequested hst
  have hrun : q.ctl.running = p.ctl.running := congrArg Stakes.running hst
  have hf : q.ctl.frame = p.ctl.frame := congrArg Stakes.frame hst
  have hti : q.ctl.timer = p.ctl.timer := congrArg Stakes.timer hst
  refine h.of_same hs ?_ ?_ fun j hj => ⟨htm j hj, ?_⟩
  · simp only [Plant.CaptureHeld, hcl, hr, hrun, hcap]
  · simp only [Plant.frameHeld, hf, hcap]
  · -- the worker still answers for the thread it answered for, unless it has joined it
    rintro (⟨k, hk⟩ | hk | hk)
    · exact .inl ⟨k, by simp [hcl, hk]⟩
    · exact .inr (.inl (by simp [hti, hk]))
    · rcases ht with ht | ⟨-, hdead⟩
      · exact .inr (.inr (by simp [ht, hk]))
      · exact absurd (htm j hj) (hdead j hk)

/-- A host thread out of every start moves on to another point out of every start. -/
theorem moveCalm (h : Resourced p) {c r : Caller} (hc : p.callers i = c)
    (hca : c.isArming = false) (hra : r.isArming = false)
    (hs : q.sim.holdings = p.sim.holdings) (hst : q.ctl.stakes = p.ctl.stakes)
    (hw : q.worker = p.worker) (hcl : q.callers = p.callers) (htm : q.timers = p.timers) :
    Resourced (q.setCaller i r) := by
  -- neither point holds the capture or answers for a trigger thread
  have calm : ∀ d : Caller, d.isArming = false → d.holdsCapture = false ∧ d.timerOf = none := by
    intro d hd
    constructor
    · cases hh : d.holdsCapture
      · rfl
      · simp [Caller.isArming_of_holdsCapture hh] at hd
    · cases ht : d.timerOf
      · rfl
      · simp [Caller.isArming_of_timerOf ht] at hd
  exact h.move hc (by rw [(calm r hra).1, (calm c hca).1])
    (.inl (by rw [(calm r hra).2, (calm c hca).2])) hs hst hw hcl fun j hj => by
      rwa [Plant.TimerAlive, htm] at hj

/-- A start's capture start that succeeds gives the capture to the start. -/
theorem armCapture (h : Resourced p) {params : AcqParams} {m : Sdk.CaptureMode}
    (hc : p.callers i = .busy (.armCapture params)) {u : Unit}
    (hok : (p.sim.capStart m).1 = .ok u) {r : Caller} (hr : r.holdsCapture = true) :
    Resourced ({ p with sim := (p.sim.capStart m).2 }.setCaller i r) := by
  obtain ⟨hl, hcap⟩ := Sdk.Simulator.capStart_ok p.sim m hok
  have hh := Sdk.Simulator.holdings_capStart p.sim m
  rw [if_pos (by rw [hl, hcap]; rfl)] at hh
  refine ⟨by simpa using Sdk.Simulator.balanced_capStart p.sim m h.balanced, ?_, ?_, ?_⟩
  · -- the camera captures, and the start holds the capture
    have e := congrArg Sdk.Holdings.capturing hh
    simp only [Sdk.Simulator.holdings_capturing] at e
    exact ⟨fun _ => .inl ⟨i, by simp [hr]⟩, fun _ => by simpa using e⟩
  · have e := congrArg Sdk.Holdings.allocated hh
    simp only [Sdk.Simulator.holdings_allocated] at e
    simpa [Plant.frameHeld, e] using h.allocated_eq
  · -- the start answered for no trigger thread and answers for none
    intro j hj
    rcases h.timer_owned j hj with ⟨k, hk⟩ | hk | hk
    · have hki : k ≠ i := by
        rintro rfl
        simp [hc, Call.timerOf] at hk
      exact .inl ⟨k, by simp [hki, hk]⟩
    · exact .inr (.inl hk)
    · exact .inr (.inr hk)

/-- A start that holds the capture stops it and moves on out of the start's holding points. -/
theorem releaseCapture (h : Resourced p) (hb : Bookkept p) {c r : Caller}
    (hc : p.callers i = c) (hcap : c.holdsCapture = true) (hct : c.timerOf = none)
    (hr : r.holdsCapture = false) :
    Resourced ({ p with sim := p.sim.capStop.2 }.setCaller i r) := by
  obtain ⟨hothers, hrr, hrun, hw⟩ := hb.capture_caller_alone (hc ▸ hcap)
  have held : p.sim.capture.isSome = true := h.capturing_iff.2 (.inl ⟨i, hc ▸ hcap⟩)
  have hh := Sdk.Simulator.holdings_capStop p.sim
  refine ⟨by simpa using
      Sdk.Simulator.balanced_capStop p.sim h.balanced fun _ => by simpa using held, ?_, ?_, ?_⟩
  · -- nobody holds the capture any more, and the camera has none
    have e := Sdk.Simulator.capturing_capStop p.sim h.balanced
    simp only [Plant.setCaller_sim, e, Bool.false_eq_true, false_iff]
    rintro (⟨k, hk⟩ | ⟨hr', -⟩ | hw')
    · by_cases hki : k = i
      · subst hki
        simp [hr] at hk
      · simp [hki, hothers k hki] at hk
    · simp [hrr] at hr'
    · simp [hw] at hw'
  · have e : p.sim.capStop.2.allocated = p.sim.allocated := by
      have := congrArg Sdk.Holdings.allocated hh
      split at this <;> simpa using this
    simpa [Plant.frameHeld, e] using h.allocated_eq
  · intro j hj
    rcases h.timer_owned j hj with ⟨k, hk⟩ | hk | hk
    · have hki : k ≠ i := by
        rintro rfl
        simp [hc, hct] at hk
      exact .inl ⟨k, by simp [hki, hk]⟩
    · exact .inr (.inl hk)
    · exact .inr (.inr hk)

/-- A start that holds the capture starts its trigger thread and answers for it. -/
theorem spawn (h : Resourced p) {params : AcqParams} (n : Nat)
    (hc : p.callers i = .busy (.armTimer params)) :
    Resourced ({ p with timers := p.timers ++ [Timer.make n] }.setCaller i
      (.busy (.handOver (some p.timers.length)))) := by
  -- the start holds the capture before and after
  have hold : ∀ k,
      (Function.update p.callers i (.busy (.handOver (some p.timers.length))) k).holdsCapture =
        (p.callers k).holdsCapture := fun k => by
    by_cases hk : k = i
    · subst hk
      simp [hc, Call.holdsCapture]
    · simp [hk]
  refine ⟨h.balanced, ?_, h.allocated_eq, fun j hj => ?_⟩
  · simp only [Plant.CaptureHeld, Plant.setCaller_callers, Plant.setCaller_ctl,
      Plant.setCaller_worker, Plant.setCaller_sim, hold]
    exact h.capturing_iff
  · obtain ⟨t, ht, ha⟩ := hj
    simp only [Plant.setCaller_timers, List.getElem?_append] at ht
    split at ht
    · -- a thread that was there is answered for as before; the start answered for none
      rcases h.timer_owned j ⟨t, ht, ha⟩ with ⟨k, hk⟩ | hk | hk
      · have hki : k ≠ i := by
          rintro rfl
          simp [hc, Call.timerOf] at hk
        exact .inl ⟨k, by simp [hki, hk]⟩
      · exact .inr (.inl hk)
      · exact .inr (.inr hk)
    · -- the new thread is the start's
      next hlen =>
      have hj : j = p.timers.length := by
        have := (List.getElem?_eq_some_iff.1 ht).1
        simp only [List.length_singleton] at this
        omega
      exact .inl ⟨i, by simp [Call.timerOf, hj]⟩

/-- A start hands its run over: the run holds the capture, and answers for the trigger thread
the start answered for. -/
theorem handOver (h : Resourced p) (hb : Bookkept p) {t : Option Nat}
    (hc : p.callers i = .busy (.handOver t)) (r : Caller) (hrr : q.ctl.runRequested = true)
    (hrun : q.ctl.running = p.ctl.running)
    (hf : q.ctl.frame = p.ctl.frame) (ht : q.ctl.timer = t) (hs : q.sim = p.sim)
    (hw : q.worker = p.worker) (hcl : q.callers = p.callers) (htm : q.timers = p.timers) :
    Resourced (q.setCaller i r) := by
  have hold : (p.callers i).holdsCapture = true := by simp [hc, Call.holdsCapture]
  obtain ⟨-, hrr0, hrun0, hw0⟩ := hb.capture_caller_alone hold
  -- no run was handed over yet, so no trigger thread was either
  have ht0 : p.ctl.timer = none := by
    cases ht0 : p.ctl.timer
    · rfl
    · have : p.ctl.runRequested = true := (hb.sound.timer_pending (by simp [ht0])).1
      simp [hrr0] at this
  have held : p.sim.capture.isSome = true := h.capturing_iff.2 (.inl ⟨i, hold⟩)
  refine ⟨by simpa [hs] using h.balanced, ?_, ?_, fun j hj => ?_⟩
  · simp only [Plant.setCaller_sim, hs, held, true_iff]
    exact .inr (.inl ⟨hrr, by simp [hrun, hrun0]⟩)
  · simpa [Plant.frameHeld, hs, hf, hw] using h.allocated_eq
  · rcases h.timer_owned j (by simpa [Plant.TimerAlive, htm] using hj) with ⟨k, hk⟩ | hk | hk
    · by_cases hki : k = i
      · -- the start's thread is now the run's
        subst hki
        simp only [hc, Caller.timerOf_busy, Call.timerOf] at hk
        exact .inr (.inl (by simp [ht, hk]))
      · exact .inl ⟨k, by simp [hcl, hki, hk]⟩
    · simp [ht0] at hk
    · exact .inr (.inr (by simp [hw, hk]))

/-- An idle controller gives its prepared frame back, if any, and the host thread moves on out
of every start. -/
theorem releaseFrame (h : Resourced p) (hb : Bookkept p) {r : Caller}
    (hra : r.isArming = false) (ha : p.ctl.isActive = false) :
    Resourced
      ({ p with ctl := { p.ctl with frame := none }, sim := p.sim.bufRelease.2 }.setCaller i r) := by
  obtain ⟨hcap, -, hown⟩ := hb.idle_holds ha
  have hw := hb.holdsRun_false (Bookkept.active_false ha).2.2
  have hrc : r.holdsCapture = false := by
    cases hh : r.holdsCapture
    · rfl
    · simp [Caller.isArming_of_holdsCapture hh] at hra
  have hh := Sdk.Simulator.holdings_bufRelease p.sim
  refine ⟨by simpa using Sdk.Simulator.balanced_bufRelease p.sim h.balanced, ?_, ?_, fun j hj => ?_⟩
  · -- the capture stays with nobody
    have e : p.sim.bufRelease.2.capture.isSome = p.sim.capture.isSome := by
      have := congrArg Sdk.Holdings.capturing hh
      split at this <;> simpa using this
    have hnot : p.sim.capture.isSome = false := by
      cases hcs : p.sim.capture.isSome
      · rfl
      · exact absurd (h.capturing_iff.1 hcs) hcap
    simp only [Plant.setCaller_sim, e, hnot, Bool.false_eq_true, false_iff]
    rintro (⟨k, hk⟩ | hk | hk)
    · by_cases hki : k = i
      · subst hki
        simp [hrc] at hk
      · exact hcap (.inl ⟨k, by simpa [hki] using hk⟩)
    · exact hcap (.inr (.inl (by simpa using hk)))
    · exact hcap (.inr (.inr (by simpa using hk)))
  · simp [Plant.frameHeld, hw, Sdk.Simulator.allocated_bufRelease p.sim h.balanced]
  · exact absurd (h.timer_owned j hj) (hown j)

/-- A prepare on an idle controller, after which the host thread moves on out of every
start. -/
theorem prepare (h : Resourced p) (hb : Bookkept p) (ha : p.ctl.isActive = false) {r : Caller}
    (hra : r.isArming = false) :
    Resourced ((Acquisition.prepare.run' p).2.setCaller i r) := by
  obtain ⟨hcap, hheld, hown⟩ := hb.idle_holds ha
  have hw := hb.holdsRun_false (Bookkept.active_false ha).2.2
  have hnot : p.sim.capture.isSome = false := by
    cases hcs : p.sim.capture.isSome
    · rfl
    · exact absurd (h.capturing_iff.1 hcs) hcap
  have hset : p.Settled := ⟨h.balanced, hnot, by rw [h.allocated_eq, hheld]⟩
  have hs := Acquisition.prepare_settled p hset
  obtain ⟨sim, cold, frame, hq, -⟩ := Acquisition.prepare_preparing p
  rw [hq] at hs ⊢
  obtain ⟨hbal, hc, hal⟩ := hs
  have hrc : r.holdsCapture = false := by
    cases hh : r.holdsCapture
    · rfl
    · simp [Caller.isArming_of_holdsCapture hh] at hra
  refine ⟨hbal, ?_, by simpa [Plant.frameHeld, hw] using hal, fun j hj => ?_⟩
  · -- the prepare started and stopped any capture it made, and nobody holds one
    simp only [Plant.setCaller_sim, hc, Bool.false_eq_true, false_iff]
    rintro (⟨k, hk⟩ | hk | hk)
    · by_cases hki : k = i
      · subst hki
        simp [hrc] at hk
      · exact hcap (.inl ⟨k, by simpa [hki] using hk⟩)
    · exact hcap (.inr (.inl (by simpa using hk)))
    · exact hcap (.inr (.inr (by simpa using hk)))
  · exact absurd (h.timer_owned j hj) (hown j)

/-- The worker picks the run up with its capture, its frame and its trigger thread. -/
theorem pickUp (h : Resourced p) (hb : Bookkept p) (hw : p.worker = .idle)
    (hr : p.ctl.runRequested = true) : Resourced (CameraAcquisition.pickUp p) := by
  have hrun : p.ctl.running = false := by
    have e : p.ctl.running = p.worker.run?.isSome := hb.working.running_eq
    simp [e, hw, Worker.run?]
  have hf : p.ctl.frame.isSome = true := hb.sound.frame_pending hr hrun
  obtain ⟨f, hwq⟩ := hb.pickUp_acquiring hw hr
  have held : p.sim.capture.isSome = true := h.capturing_iff.2 (.inr (.inl ⟨hr, hrun⟩))
  refine ⟨h.balanced, ?_, ?_, fun j hj => ?_⟩
  · simp only [pickUp_sim, held, true_iff]
    exact .inr (.inr (by simp [hwq, Worker.holdsRun]))
  · simp [Plant.frameHeld, hwq, Worker.holdsRun, h.allocated_eq, hf]
  · -- the run's trigger thread goes to the worker
    rcases h.timer_owned j hj with ⟨k, hk⟩ | hk | hk
    · exact .inl ⟨k, by simpa using hk⟩
    · exact .inr (.inr (by simp [hwq, Worker.timerOf, hk]))
    · simp [hw, Worker.timerOf] at hk

/-- The worker's teardown stops the capture and releases the frame of its run. -/
theorem finishRun (h : Resourced p) (hb : Bookkept p) {run : Run} {o : RunEnd} {rel : Bool}
    (hw : p.worker = .ending run o rel .stopCapture) :
    Resourced ((stopCapture rel p).setWorker (.ending run o rel .record)) := by
  have hrel : rel = true := hb.working.ending_releases run o rel .stopCapture hw
  subst hrel
  have hin : p.worker.run?.isSome = true := by simp [hw, Worker.run?]
  obtain ⟨hcl, hrun, hf, ht⟩ := hb.in_run_alone hin
  have hold : p.worker.holdsRun = true := by simp [hw, Worker.holdsRun]
  have held : p.sim.capture.isSome = true := h.capturing_iff.2 (.inr (.inr hold))
  have hbal := Sdk.Simulator.balanced_capStop p.sim h.balanced fun _ => by simpa using held
  have hcap : p.sim.capStop.2.bufRelease.2.capture.isSome = false := by
    have := congrArg Sdk.Holdings.capturing (Sdk.Simulator.holdings_bufRelease p.sim.capStop.2)
    rw [← Sdk.Simulator.capturing_capStop p.sim h.balanced]
    split at this <;> simpa using this
  refine ⟨by simpa [stopCapture] using Sdk.Simulator.balanced_bufRelease _ hbal, ?_, ?_,
    fun j hj => ?_⟩
  · -- nobody holds the capture any more
    simp only [Plant.setWorker_sim, stopCapture, if_true, hcap, Bool.false_eq_true, false_iff]
    rintro (⟨k, hk⟩ | ⟨-, hr'⟩ | hw')
    · simp [(hcl k).1] at hk
    · simp [hrun] at hr'
    · simp [Worker.holdsRun] at hw'
  · simp [Plant.frameHeld, stopCapture, hf, Worker.holdsRun,
      Sdk.Simulator.allocated_bufRelease _ hbal]
  · -- the run's trigger thread was joined before the capture stopped
    rcases h.timer_owned j (by simpa [Plant.TimerAlive] using hj) with ⟨k, hk⟩ | hk | hk
    · simp [(hcl k).2] at hk
    · simp [ht] at hk
    · simp [hw, Worker.timerOf] at hk

/-- The worker records the end of a run that gave everything back. -/
theorem record (h : Resourced p) (hb : Bookkept p) {run : Run} {o : RunEnd} {rel : Bool}
    (hw : p.worker = .ending run o rel .record) : Resourced (recordEnd run o p) := by
  have hin : p.worker.run?.isSome = true := by simp [hw, Worker.run?]
  obtain ⟨hcl, hrun, hf, ht⟩ := hb.in_run_alone hin
  -- the worker waits for the next run or has ended, and holds nothing
  have hw' : (recordEnd run o p).worker.holdsRun = false := by
    by_cases hq : p.ctl.quit <;> simp [hq, Worker.holdsRun]
  refine h.of_same (by simp) ?_ ?_ fun j hj => ⟨by simpa [Plant.TimerAlive] using hj, ?_⟩
  · -- nobody holds the capture before or after
    unfold Plant.CaptureHeld
    rw [hw', recordEnd_callers, recordEnd_ctl]
    simp [hw, Worker.holdsRun, hrun, hcl]
  · unfold Plant.frameHeld
    rw [hw', recordEnd_ctl]
    simp [hf, hw, Worker.holdsRun]
  · rintro (⟨k, hk⟩ | hk | hk)
    · simp [(hcl k).2] at hk
    · simp [ht] at hk
    · simp [hw, Worker.timerOf] at hk

/-! ## Every step -/

/-- Every step of the worker keeps the resources where the controller says. -/
theorem worker (h : Resourced p) (hb : Bookkept p) {pat : Bool}
    (hs : Worker.step pat p = some q) : Resourced q := by
  cases hw : p.worker with
  | idle =>
    rcases Worker.step_idle hw hs with ⟨hr, rfl⟩ | ⟨-, -, rfl⟩
    · exact h.pickUp hb hw hr
    · exact h.moveWorker (by simp [hw, Worker.holdsRun]) (.inl (by simp [hw, Worker.timerOf])) rfl
        rfl rfl fun _ hj => hj
  | acquiring run f n spot =>
    have hst := Worker.step_acquiring hw hs
    obtain ⟨hc, hcl, htm, hw'⟩ := Worker.acquireStep_frame hst
    -- the worker stays in its run, holding its resources and its trigger thread
    have hold : q.worker.holdsRun = true ∧ q.worker.timerOf = run.timer := by
      rcases hw' with ⟨f', n', spot', e⟩ | ⟨o, e⟩ <;> simp [e, Worker.holdsRun, Worker.timerOf]
    refine h.moveWorker (by rw [hold.1, hw]; rfl)
      (.inl (by rw [hold.2, hw]; rfl)) (Worker.acquireStep_holdings hst)
      (by rw [hc]; rfl) hcl fun j hj => by rwa [Plant.TimerAlive, htm] at hj
  | ending run o rel st =>
    rcases Worker.endStep_eq (Worker.step_ending hw hs) with
      ⟨rfl, rfl⟩ | ⟨rfl, hj, rfl⟩ | ⟨rfl, rfl⟩ | ⟨rfl, rfl⟩
    · exact h.moveWorker (by simp [hw, Worker.holdsRun]) (.inl (by simp [hw, Worker.timerOf]))
        (by simp) (by simp) (by simp) fun _ hj => Plant.timerAlive_signalTimer hj
    · -- the teardown goes on once the join finds the run's trigger thread ended
      refine h.moveWorker (by simp [hw, Worker.holdsRun])
        (.inr ⟨by simp [Worker.timerOf], fun j hjt => ?_⟩) rfl rfl rfl fun _ hj => hj
      simp only [hw, Worker.timerOf] at hjt
      rw [hjt] at hj
      exact (Plant.timerEnded_some p j).1 hj
    · exact h.finishRun hb hw
    · exact h.record hb hw
  | exited => simp [Worker.step_exited hw] at hs

/-- A step of a trigger thread keeps the resources where the controller says. -/
theorem timer (h : Resourced p) {k : Nat} (hs : Timer.step k p = some q) : Resourced q := by
  obtain ⟨hc, hw, hcl, -⟩ := Timer.step_frame hs
  obtain ⟨hh, halive⟩ := Timer.step_resources hs
  exact h.moveWorker (by rw [hw]) (.inl (by rw [hw])) hh (by rw [hc]) hcl halive

/-- Every step of a host call keeps the resources where the controller says. -/
theorem call (h : Resourced p) (hb : Bookkept p) {e : Bool} {s : Except CameraError Unit}
    {c : Call} {r : Caller} (hc : p.callers i = .busy c)
    (hs : Acquisition.Call.step e s c p = some (r, q)) : Resourced (q.setCaller i r) := by
  open Acquisition in
  cases c with
  | prepare =>
    rcases Call.step_prepare hs with ⟨-, rfl, rfl⟩ | ⟨ha, ⟨res, rfl⟩, -⟩
    · exact h.moveCalm hc rfl rfl rfl rfl rfl rfl rfl
    · rw [Call.step_prepare_plant hs]
      exact h.prepare hb ha rfl
  | releaseBuffer =>
    rcases Call.step_releaseBuffer hs with ⟨-, rfl, rfl⟩ | ⟨ha, ⟨res, rfl⟩, rfl⟩
    · exact h.moveCalm hc rfl rfl rfl rfl rfl rfl rfl
    · split
      · exact h.releaseFrame hb rfl ha
      · exact h.moveCalm hc rfl rfl rfl rfl rfl rfl rfl
  | update f =>
    obtain ⟨rfl, rfl⟩ := Call.step_update hs
    exact h.moveCalm hc rfl rfl rfl rfl rfl rfl rfl
  | start =>
    rcases Call.step_start hs with ⟨-, -, -, -, rfl, rfl⟩ | ⟨rfl, rfl⟩
    · exact h.move hc rfl (.inl rfl) rfl rfl rfl rfl fun _ hj => hj
    · exact h.moveCalm hc rfl rfl rfl rfl rfl rfl rfl
  | armCapture params =>
    obtain ⟨rfl, ⟨u, hok, rfl⟩ | ⟨err, herr, rfl⟩⟩ := Call.step_armCapture hs
    · exact h.armCapture hc hok (by split <;> rfl)
    · -- a refused capture start leaves the camera as it was
      rw [Sdk.Simulator.capStart_error p.sim _ herr]
      exact h.move hc rfl (.inl rfl) rfl rfl rfl rfl fun _ hj => hj
  | settling params =>
    obtain ⟨-, rfl, rfl⟩ := Call.step_settling hs
    exact h.move hc (by split <;> rfl) (.inl (by split <;> rfl)) rfl rfl rfl rfl fun _ hj => hj
  | armTimer params =>
    rcases Call.step_armTimer hs with ⟨-, rfl, rfl⟩ | ⟨-, -, rfl, rfl⟩ | ⟨-, err, -, rfl, rfl⟩
    · exact h.move hc rfl (.inl rfl) rfl rfl rfl rfl fun _ hj => hj
    · exact h.spawn params.nbFrames hc
    · exact h.releaseCapture hb hc rfl rfl rfl
  | handOver t =>
    rcases Call.step_handOver hs with ⟨-, rfl, rfl⟩ | ⟨-, rfl, -⟩
    · exact h.move hc rfl (.inl rfl) rfl rfl rfl rfl fun _ hj => hj
    · exact h.handOver hb hc r rfl rfl rfl rfl rfl rfl rfl rfl
  | awaitAck n =>
    obtain ⟨rfl, ⟨-, rfl⟩ | ⟨-, -, rfl⟩⟩ := Call.step_awaitAck hs <;>
      exact h.moveCalm hc rfl rfl rfl rfl rfl rfl rfl
  | cancelling t st =>
    rcases Call.step_cancelling hs with ⟨rfl, rfl, rfl⟩ | ⟨rfl, hend, rfl, rfl⟩ |
      ⟨rfl, rfl, rfl⟩ | ⟨rfl, rfl, rfl⟩
    · exact h.move hc rfl (.inl rfl) (by simp) (by simp) (by simp) (by simp)
        fun _ hj => Plant.timerAlive_signalTimer hj
    · -- the join found the start's trigger thread ended
      refine h.move hc rfl (.inr ⟨rfl, fun j hj => ?_⟩) rfl rfl rfl rfl fun _ hj => hj
      simp only [Caller.timerOf_busy, Call.timerOf] at hj
      rw [hj] at hend
      exact (Plant.timerEnded_some _ j).1 hend
    · exact h.releaseCapture hb hc rfl rfl rfl
    · exact h.move hc rfl (.inl rfl) rfl rfl rfl rfl fun _ hj => hj
  | failArming err =>
    obtain ⟨rfl, rfl⟩ := Call.step_failArming hs
    exact h.move hc rfl (.inl rfl) rfl rfl rfl rfl fun _ hj => hj
  | stop a =>
    rcases Call.step_stop hs with ⟨-, rfl, rfl⟩ | ⟨-, rfl, rfl⟩
    · exact h.moveCalm hc rfl (by cases a <;> rfl) rfl rfl rfl rfl rfl
    · rw [stopUnlessIdle_plant]
      split <;> exact h.moveCalm hc rfl (stopUnlessIdle_stopsAs a).1 rfl rfl rfl rfl rfl
  | stopAwaitArming a =>
    obtain ⟨-, rfl, rfl⟩ := Call.step_stopAwaitArming hs
    rw [stopUnlessIdle_plant]
    split <;> exact h.moveCalm hc rfl (stopUnlessIdle_stopsAs a).1 rfl rfl rfl rfl rfl
  | stopAbort a n =>
    obtain ⟨rfl, ⟨-, rfl⟩ | ⟨-, rfl⟩⟩ := Call.step_stopAbort hs
    · exact h.moveCalm hc rfl (afterStop_stopsAs a _).1 (by simp) rfl rfl rfl rfl
    · exact h.moveCalm hc rfl (by cases a <;> rfl) (by simp) rfl rfl rfl rfl
  | stopPause a n =>
    obtain ⟨-, rfl, rfl⟩ := Call.step_stopPause hs
    rw [stopLoop_plant]
    exact h.moveCalm hc rfl (stopLoop_stopsAs a n).1 rfl rfl rfl rfl rfl
  | resetForce =>
    obtain ⟨rfl, rfl⟩ := Call.step_resetForce hs
    exact h.moveCalm hc rfl rfl rfl rfl rfl rfl rfl
  | dropQuit =>
    obtain ⟨rfl, rfl⟩ := Call.step_dropQuit hs
    exact h.moveCalm hc rfl rfl rfl rfl rfl rfl rfl
  | dropJoin =>
    obtain ⟨-, rfl, rfl⟩ := Call.step_dropJoin hs
    exact h.moveCalm hc rfl rfl rfl rfl rfl rfl rfl
  | dropRelease =>
    obtain ⟨rfl, rfl⟩ := Call.step_dropRelease hs
    have ha := hb.dropRelease_idle hc
    split
    · exact h.releaseFrame hb rfl ha
    · -- no frame was prepared, so there is none to give back
      next hf =>
      have hf' : p.ctl.frame = none := by simpa using hf
      exact h.moveCalm hc rfl rfl rfl (by simp [Controller.stakes, hf']) rfl rfl rfl
  | setRoi attr =>
    rcases Call.step_setRoi hs with ⟨-, rfl, rfl⟩ | ⟨ha, hr, rfl⟩
    · exact h.moveCalm hc rfl rfl rfl rfl rfl rfl rfl
    · have hra : r.isArming = false := by rcases hr with rfl | ⟨err, rfl⟩ <;> rfl
      split
      · exact h.releaseFrame hb hra ha
      · exact h.moveCalm hc rfl hra rfl rfl rfl rfl rfl
  | programRoi attr =>
    obtain ⟨rfl, rfl⟩ := Call.step_programRoi hs
    exact h.moveCalm hc rfl rfl (by simp) rfl rfl rfl rfl

/-- A request starts a call at a point out of every start. -/
theorem request (h : Resourced p) {rq : Request} (hm : mayRequest p i rq) :
    Resourced (p.setCaller i (.busy rq.call)) := by
  have hca : (p.callers i).isArming = false := by
    -- a host thread in a call makes no request
    have hbusy := hm.1
    cases hc : p.callers i <;> simp_all [Caller.isBusy, Caller.isArming]
  exact h.moveCalm rfl hca (by cases rq <;> simp [Request.call, Call.isArming]) rfl rfl rfl rfl
    rfl

/-- Every step without interference from outside keeps the resources where the controller
says. -/
theorem step (h : Resourced p) (hb : Bookkept p) {a : Actor} (hs : Transition false p a q) :
    Resourced q := by
  cases hs with
  | request i rq hm => exact h.request hm
  | call i e s hc hst => exact h.call hb hc hst
  | worker hst => exact h.worker hb hst
  | timer k hst => exact h.timer hst
  | outside sim host hout => cases hout

/-- A controller just made on a camera that holds nothing, with agreeing counters. -/
theorem initial (params : AcqParams) (timings : Timings) (deviceIndex : Nat) {sim : Sdk.Simulator}
    (host : Host) (hcap : sim.capture = none) (hal : sim.allocated = false)
    (hcs : sim.stats.capStarts = sim.stats.capStops)
    (hbuf : sim.stats.bufAllocs = sim.stats.bufReleases) :
    Resourced (Plant.initial params timings deviceIndex sim host) := by
  refine ⟨⟨by simp [Plant.initial, hcs, hcap], by simp [Plant.initial, hbuf, hal],
    by simp [Plant.initial, hcap], by simp [Plant.initial, hal]⟩, ?_, ?_, ?_⟩
  · simp [Plant.CaptureHeld, Plant.initial, Controller.make, Caller.holdsCapture,
      Worker.holdsRun, hcap]
  · simp [Plant.frameHeld, Plant.initial, Controller.make, Worker.holdsRun, hal]
  · -- no trigger thread has been started
    rintro j ⟨t, ht, -⟩
    simp [Plant.initial] at ht

/-- The resources of every plant reached from a controller just made on a camera that holds
nothing, without interference from outside. -/
theorem of_reachable {params : AcqParams} {timings : Timings} {deviceIndex : Nat}
    {sim : Sdk.Simulator} {host : Host} (hcap : sim.capture = none)
    (hal : sim.allocated = false) (hcs : sim.stats.capStarts = sim.stats.capStops)
    (hbuf : sim.stats.bufAllocs = sim.stats.bufReleases)
    (h : Reachable false (Plant.initial params timings deviceIndex sim host) p) : Resourced p := by
  induction h with
  | init => exact initial params timings deviceIndex host hcap hal hcs hbuf
  | step hp hs ih => exact ih.step (bookkept_of_reachable hp) hs

/-- On an idle controller the camera is not capturing and its capture counters agree, its
buffer is allocated, and counted once more than released, exactly while a frame is prepared,
and no trigger thread is alive. -/
theorem idle (h : Resourced p) (hb : Bookkept p) (ha : p.ctl.isActive = false) :
    p.sim.capture = none ∧ p.sim.stats.capStarts = p.sim.stats.capStops ∧
      p.sim.stats.bufAllocs = p.sim.stats.bufReleases + (if p.ctl.frame.isSome then 1 else 0) ∧
      p.sim.allocated = p.ctl.frame.isSome ∧ ∀ t ∈ p.timers, t.isAlive = false := by
  obtain ⟨hcap, hheld, hown⟩ := hb.idle_holds ha
  have hnot : p.sim.capture.isSome = false := by
    cases hcs : p.sim.capture.isSome
    · rfl
    · exact absurd (h.capturing_iff.1 hcs) hcap
  have hal : p.sim.allocated = p.ctl.frame.isSome := h.allocated_eq.trans hheld
  have hstarts := h.balanced.capStarts
  have hallocs := h.balanced.bufAllocs
  simp only [Sdk.Simulator.holdings_capStarts, Sdk.Simulator.holdings_capStops,
    Sdk.Simulator.holdings_capturing, Sdk.Simulator.holdings_bufAllocs,
    Sdk.Simulator.holdings_bufReleases, Sdk.Simulator.holdings_allocated, hnot, hal]
    at hstarts hallocs
  refine ⟨by simpa using hnot, by simpa using hstarts, hallocs, hal, ?_⟩
  -- a thread alive would be answered for, and nobody answers for one
  intro t ht
  obtain ⟨j, hj⟩ := List.mem_iff_getElem?.1 ht
  cases halive : t.isAlive
  · rfl
  · exact absurd (h.timer_owned j ⟨t, hj, halive⟩) (hown j)

end Resourced

end CameraAcquisition
