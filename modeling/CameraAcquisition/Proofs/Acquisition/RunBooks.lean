import CameraAcquisition.Acquisition.Interleaving
import CameraAcquisition.Proofs.Acquisition.Steps
import Mathlib.Logic.Function.Basic

/-!
# The books of runs

The controller keeps three run numbers (the last requested, picked up and torn down) and the
flags of an arming start, a requested run, a running run and the end of the controller. A
start writes them in two sections with its arming between them, the worker at its pick-up and
at the end of its teardown, and the drop when it ends the controller.

`Books` is the invariant that ties them to each other and to the threads, in four parts that
change for different reasons:

* `Runs.Sound`: the numbers differ by at most one run, by one exactly while a run is requested
  or running; an arming start excludes a requested or running run and has the prepared frame;
  a trigger thread handed over and a requested run that is not yet running are waiting for the
  worker, with the prepared frame.
* `Armed`: the arming flag is held by exactly one host thread, in a start between its sections.
* `Working`: the worker is in a run exactly while a run is marked running; that run is the last
  one requested, it took the prepared frame and the trigger thread, and its teardown releases
  the frame.
* `Dropping`: the drop of the controller runs alone and no call follows the end; the worker
  ends only with the controller and with no run requested, before the drop releases the frame.

Each part has a lemma for each kind of change it goes through; `Proofs.Acquisition.Bookkeeping`
assembles them into the steps of the threads.

## What this module delivers

- `Worker.run?`, `Caller.isArming`, `Caller.isDrop`, the view `Runs` with `Controller.runs`.
- `Runs.Sound`, `Armed`, `Working`, `Dropping`, `Books` and `Bookkept`.
- The changes of the parts: `Armed.setCaller`, `Armed.arm`, `Armed.disarm`,
  `Dropping.setCaller`, `Dropping.change`, `Dropping.quit`, `Dropping.request`,
  `Runs.Sound.arm`, `.disarm`, `.setFrame`, `.handOver`, `.pickUp`, `.record`,
  `Working.of_not_in_run`, `Working.congr`, `Working.moveWorker`.
- `StopsAs`, where the sections of a stop leave its host thread.
-/

set_option autoImplicit false

namespace CameraAcquisition

/-- The run the worker is in: its frame loop or its teardown. -/
def Worker.run? : Worker → Option Run
  | .acquiring run .. | .ending run .. => some run
  | _ => none

/-- Whether a host thread is in a start that holds the arming flag. -/
def Caller.isArming : Caller → Bool
  | .busy c => c.isArming
  | _ => false

/-- Whether a host thread is in the drop of the controller. -/
def Caller.isDrop : Caller → Bool
  | .busy c => c.isDrop
  | _ => false

/-- An idle host thread holds no arming flag. -/
@[simp] theorem Caller.isArming_idle : Caller.idle.isArming = false := rfl
/-- An idle host thread is in no drop. -/
@[simp] theorem Caller.isDrop_idle : Caller.idle.isDrop = false := rfl
/-- An idle host thread is in no call. -/
@[simp] theorem Caller.isBusy_idle : Caller.idle.isBusy = false := rfl
/-- A host thread in a call arms as its program point does. -/
@[simp] theorem Caller.isArming_busy (c : Call) : (Caller.busy c).isArming = c.isArming := rfl
/-- A host thread back from its call holds no arming flag. -/
@[simp] theorem Caller.isArming_returned (r : Except CameraError Unit) :
    (Caller.returned r).isArming = false := rfl
/-- A host thread in a call is in the drop as its program point is. -/
@[simp] theorem Caller.isDrop_busy (c : Call) : (Caller.busy c).isDrop = c.isDrop := rfl
/-- A host thread back from its call is in no drop. -/
@[simp] theorem Caller.isDrop_returned (r : Except CameraError Unit) :
    (Caller.returned r).isDrop = false := rfl
/-- A host thread at a program point is in a call. -/
@[simp] theorem Caller.isBusy_busy (c : Call) : (Caller.busy c).isBusy = true := rfl
/-- A host thread back from its call is in no call. -/
@[simp] theorem Caller.isBusy_returned (r : Except CameraError Unit) :
    (Caller.returned r).isBusy = false := rfl

/-- A host thread that holds the arming flag is in a call. -/
theorem Caller.isBusy_of_isArming {c : Caller} (h : c.isArming = true) : c.isBusy = true := by
  cases c <;> simp_all [Caller.isArming]

/-- A host thread in the drop is in a call. -/
theorem Caller.isBusy_of_isDrop {c : Caller} (h : c.isDrop = true) : c.isBusy = true := by
  cases c <;> simp_all [Caller.isDrop]

/-- Moving host thread `i` changes that thread alone. -/
@[simp] theorem Plant.setCaller_callers (p : Plant) (i : Nat) (c : Caller) :
    (p.setCaller i c).callers = Function.update p.callers i c := by
  funext j
  by_cases h : j = i <;> simp [Plant.setCaller, h]
/-- Moving a host thread keeps the controller. -/
@[simp] theorem Plant.setCaller_ctl (p : Plant) (i : Nat) (c : Caller) :
    (p.setCaller i c).ctl = p.ctl := rfl
/-- Moving a host thread keeps the worker. -/
@[simp] theorem Plant.setCaller_worker (p : Plant) (i : Nat) (c : Caller) :
    (p.setCaller i c).worker = p.worker := rfl
/-- Moving a host thread keeps the camera. -/
@[simp] theorem Plant.setCaller_sim (p : Plant) (i : Nat) (c : Caller) :
    (p.setCaller i c).sim = p.sim := rfl
/-- Moving a host thread keeps the trigger threads. -/
@[simp] theorem Plant.setCaller_timers (p : Plant) (i : Nat) (c : Caller) :
    (p.setCaller i c).timers = p.timers := rfl

/-- The worker is running exactly while it is in a run. -/
theorem Plant.isRunning_eq (p : Plant) : p.isRunning = p.worker.run?.isSome := by
  unfold Plant.isRunning Worker.run?
  split <;> simp_all

/-- What the bookkeeping of runs reads of the controller. -/
structure Runs where
  arming : Bool
  runRequested : Bool
  running : Bool
  session : Nat
  ackedSession : Nat
  completedSession : Nat
  timer : Option Nat
  frame : Option Sdk.Frame
  quit : Bool
  workerExited : Bool

/-- The bookkeeping view of the controller. -/
def Controller.runs (c : Controller) : Runs :=
  ⟨c.arming, c.runRequested, c.running, c.session, c.ackedSession, c.completedSession, c.timer,
    c.frame, c.quit, c.workerExited⟩

section Runs

variable (c : Controller)

/-- The view of the books reads the arming flag. -/
@[simp] theorem Controller.runs_arming : c.runs.arming = c.arming := rfl
/-- The view of the books reads the flag of a requested run. -/
@[simp] theorem Controller.runs_runRequested : c.runs.runRequested = c.runRequested := rfl
/-- The view of the books reads the flag of a running run. -/
@[simp] theorem Controller.runs_running : c.runs.running = c.running := rfl
/-- The view of the books reads the number of the last requested run. -/
@[simp] theorem Controller.runs_session : c.runs.session = c.session := rfl
/-- The view of the books reads the number of the last run picked up. -/
@[simp] theorem Controller.runs_ackedSession : c.runs.ackedSession = c.ackedSession := rfl
/-- The view of the books reads the number of the last run torn down. -/
@[simp] theorem Controller.runs_completedSession :
    c.runs.completedSession = c.completedSession := rfl
/-- The view of the books reads the trigger thread handed over. -/
@[simp] theorem Controller.runs_timer : c.runs.timer = c.timer := rfl
/-- The view of the books reads the prepared frame. -/
@[simp] theorem Controller.runs_frame : c.runs.frame = c.frame := rfl
/-- The view of the books reads the flag of the end of the controller. -/
@[simp] theorem Controller.runs_quit : c.runs.quit = c.quit := rfl
/-- The view of the books reads the flag of an ended worker. -/
@[simp] theorem Controller.runs_workerExited : c.runs.workerExited = c.workerExited := rfl

end Runs

/-- How the run numbers and flags stand to each other. -/
structure Runs.Sound (c : Runs) : Prop where
  completed_le_acked : c.completedSession ≤ c.ackedSession
  acked_le_session : c.ackedSession ≤ c.session
  session_le_succ : c.session ≤ c.completedSession + 1
  session_eq_iff : c.session = c.completedSession ↔ c.runRequested = false ∧ c.running = false
  running_requested : c.running = true → c.runRequested = true ∧ c.ackedSession = c.session
  arming_idle : c.arming = true → c.runRequested = false ∧ c.running = false
  arming_prepared : c.arming = true → c.frame.isSome
  timer_pending : c.timer.isSome → c.runRequested = true ∧ c.running = false
  frame_pending : c.runRequested = true → c.running = false → c.frame.isSome

/-- The arming flag is held by the one host thread in an arming start. -/
structure Armed (arming : Bool) (callers : Nat → Caller) : Prop where
  arming_iff : arming = true ↔ ∃ i, (callers i).isArming
  arming_unique : ∀ i j, (callers i).isArming → (callers j).isArming → i = j

/-- The worker is in a run exactly while a run is marked running; the run is the last one
requested, it took the prepared frame and the trigger thread, and its teardown releases the
frame. -/
structure Working (c : Runs) (w : Worker) : Prop where
  running_eq : c.running = w.run?.isSome
  run_current : ∀ r, w.run? = some r → r.session = c.session ∧ c.frame = none ∧ c.timer = none
  ending_releases : ∀ r o rel st, w = .ending r o rel st → rel = true

/-- The drop of the controller runs alone and no call follows it; the worker ends only once
the controller ends, with no run requested, the controller's flag says whether it has, and
the drop releases the frame only after. -/
structure Dropping (c : Runs) (w : Worker) (callers : Nat → Caller) : Prop where
  drop_alone : ∀ i j, (callers i).isDrop → j ≠ i → (callers j).isBusy = false
  quit_drop : c.quit = true → ∀ i, (callers i).isBusy → (callers i).isDrop
  exited_quit : w = .exited → c.quit = true ∧ c.runRequested = false
  exited_iff : c.workerExited = true ↔ w = .exited
  release_exited : ∀ i, callers i = .busy .dropRelease → w = .exited

/-- The bookkeeping of runs: the view `c` of the controller, the worker `w` and the host
threads `callers` agree. -/
structure Books (c : Runs) (w : Worker) (callers : Nat → Caller) : Prop where
  sound : c.Sound
  armed : Armed c.arming callers
  working : Working c w
  dropping : Dropping c w callers

/-- The bookkeeping of runs of a plant. -/
def Bookkept (p : Plant) : Prop := Books p.ctl.runs p.worker p.callers

/-! ## How the parts change -/


variable {c : Runs} {w : Worker} {callers : Nat → Caller} {i : Nat} {x : Call} {r : Caller}

namespace Armed

variable {a : Bool}

/-- A host thread that moves within its call, holding the arming flag as before, keeps the flag's
holder. -/
theorem setCaller (h : Armed a callers) (hi : callers i = .busy x)
    (harm : r.isArming = x.isArming) : Armed a (Function.update callers i r) := by
  have key : ∀ j, (Function.update callers i r j).isArming = (callers j).isArming := by
    intro j
    by_cases hj : j = i
    · subst hj; simp [hi, harm]
    · simp [hj]
  exact ⟨by simpa only [key] using h.arming_iff, by simpa only [key] using h.arming_unique⟩

/-- A start that takes the free arming flag becomes its one holder. -/
theorem arm (h : Armed false callers) (hr : r.isArming = true) :
    Armed true (Function.update callers i r) := by
  have none : ∀ j, (callers j).isArming = false := fun j => by
    cases hj : (callers j).isArming
    · rfl
    · exact absurd (h.arming_iff.2 ⟨j, hj⟩) (by simp)
  refine ⟨⟨fun _ => ⟨i, by simpa using hr⟩, fun _ => rfl⟩, fun j k hj hk => ?_⟩
  by_cases hji : j = i <;> by_cases hki : k = i <;> simp_all

/-- The holder of the arming flag that gives it up leaves the flag free. -/
theorem disarm (h : Armed true callers) (hi : (callers i).isArming) (hr : r.isArming = false) :
    Armed false (Function.update callers i r) := by
  have other : ∀ j, j ≠ i → (callers j).isArming = false := fun j hj => by
    cases hc : (callers j).isArming
    · rfl
    · exact absurd (h.arming_unique j i hc hi) hj
  refine ⟨⟨fun h => absurd h (by simp), fun ⟨j, hj⟩ => ?_⟩, fun j k hj hk => ?_⟩
  · by_cases hji : j = i <;> simp_all
  · by_cases hji : j = i <;> simp_all

end Armed

namespace Dropping

/-- A host thread that moves within its call, in the drop only if it was and at its release
only once the worker has ended, keeps the drop alone. -/
theorem setCaller (h : Dropping c w callers) (hi : callers i = .busy x)
    (hdrop : r.isDrop = (x.isDrop && r.isBusy)) (hrel : r = .busy .dropRelease → w = .exited) :
    Dropping c w (Function.update callers i r) where
  drop_alone j k hj hk := by
    by_cases hji : j = i
    · subst hji
      have hx : x.isDrop = true := by simp_all
      have hk' := h.drop_alone j k (by simp [hi, hx]) hk
      simp_all
    · rw [Function.update_of_ne hji] at hj
      by_cases hki : k = i
      · have := h.drop_alone j i hj (by omega)
        simp_all
      · simpa [Function.update_of_ne hki] using h.drop_alone j k hj hk
  quit_drop hq j hj := by
    by_cases hji : j = i
    · subst hji
      have hx := h.quit_drop hq j (by simp [hi])
      simp_all
    · have hj' : (callers j).isBusy = true := by simpa [Function.update_of_ne hji] using hj
      simpa [Function.update_of_ne hji] using h.quit_drop hq j hj'
  exited_quit := h.exited_quit
  exited_iff := h.exited_iff
  release_exited j hj := by
    by_cases hji : j = i
    · subst hji; exact hrel (by simpa using hj)
    · exact h.release_exited j (by simpa [Function.update_of_ne hji] using hj)

end Dropping

namespace Runs.Sound

/-- A start may arm a controller with no run requested or running and a frame prepared. -/
theorem arm (h : c.Sound) (hr : c.runRequested = false) (hrun : c.running = false)
    (hf : c.frame.isSome) : ({ c with arming := true } : Runs).Sound where
  completed_le_acked := h.completed_le_acked
  acked_le_session := h.acked_le_session
  session_le_succ := h.session_le_succ
  session_eq_iff := h.session_eq_iff
  running_requested := h.running_requested
  arming_idle _ := ⟨hr, hrun⟩
  arming_prepared _ := hf
  timer_pending := h.timer_pending
  frame_pending := h.frame_pending

/-- Giving up the arming flag keeps the books sound. -/
theorem disarm (h : c.Sound) : ({ c with arming := false } : Runs).Sound where
  completed_le_acked := h.completed_le_acked
  acked_le_session := h.acked_le_session
  session_le_succ := h.session_le_succ
  session_eq_iff := h.session_eq_iff
  running_requested := h.running_requested
  arming_idle := by simp
  arming_prepared := by simp
  timer_pending := h.timer_pending
  frame_pending := h.frame_pending

/-- With no start arming and no run requested, the prepared frame may change. -/
theorem setFrame (h : c.Sound) (ha : c.arming = false) (hr : c.runRequested = false)
    (f : Option Sdk.Frame) : ({ c with frame := f } : Runs).Sound where
  completed_le_acked := h.completed_le_acked
  acked_le_session := h.acked_le_session
  session_le_succ := h.session_le_succ
  session_eq_iff := h.session_eq_iff
  running_requested := h.running_requested
  arming_idle := h.arming_idle
  arming_prepared := by simp [ha]
  timer_pending := h.timer_pending
  frame_pending := by simp [hr]

/-- The run handed over takes the next number; the numbers were level, as a start arms only
on an idle controller. -/
theorem handOver (h : c.Sound) (ha : c.arming = true) (t : Option Nat) :
    ({ c with arming := false, runRequested := true, session := c.session + 1, timer := t } :
      Runs).Sound := by
  obtain ⟨hr, hrun⟩ := h.arming_idle ha
  have hs : c.session = c.completedSession := h.session_eq_iff.2 ⟨hr, hrun⟩
  have hacked := h.acked_le_session
  have hf := h.arming_prepared ha
  exact ⟨h.completed_le_acked, by simp; omega, by simp; omega, by simp; omega, by simp [hrun],
    by simp, by simp, by simp [hrun], by simp [hf]⟩

/-- The worker's pick-up acknowledges the requested run and takes its frame and trigger thread,
keeping the numbers sound. -/
theorem pickUp (h : c.Sound) (hr : c.runRequested = true) :
    ({ c with running := true, ackedSession := c.session, frame := none, timer := none } :
      Runs).Sound := by
  have hs : c.session ≠ c.completedSession := fun hs => by simpa [hr] using h.session_eq_iff.1 hs
  have ha : c.arming = false := by
    cases ha : c.arming
    · rfl
    · simpa [hr] using (h.arming_idle ha).1
  have h1 := h.completed_le_acked
  have h2 := h.acked_le_session
  exact ⟨by simp; omega, by simp, h.session_le_succ, by simpa using hs, by simp [hr],
    by simp [ha], by simp [ha], by simp, by simp⟩

/-- The teardown of the running run records it as the last torn down. -/
theorem record (h : c.Sound) (hrun : c.running = true) (ht : c.timer = none) :
    ({ c with running := false, runRequested := false, completedSession := c.session } :
      Runs).Sound := by
  obtain ⟨-, hacked⟩ := h.running_requested hrun
  have ha : c.arming = false := by
    cases ha : c.arming
    · rfl
    · simpa [hrun] using (h.arming_idle ha).2
  exact ⟨by simp; omega, h.acked_le_session, by simp, by simp, by simp, by simp [ha],
    by simp [ha], by simp [ht], by simp⟩

end Runs.Sound

namespace Working

/-- With no run marked running the worker is in no run. -/
theorem not_in_run (h : Working c w) (hrun : c.running = false) : w.run? = none := by
  have := h.running_eq
  rw [hrun] at this
  cases hw : w.run? with
  | none => rfl
  | some r => simp [hw] at this

/-- A worker out of any run keeps the books of a controller that marks none running. -/
theorem of_not_in_run (hrun : c.running = false) (hw : w.run? = none) : Working c w where
  running_eq := by rw [hrun, hw]; rfl
  run_current r hr := by simp [hw] at hr
  ending_releases r o rel st he := by subst he; simp [Worker.run?] at hw

/-- The books of the worker depend only on the running flag, the last number requested, the
prepared frame and the trigger thread. -/
theorem congr {c' : Runs} (h : Working c w) (hr : c'.running = c.running)
    (hs : c'.session = c.session) (hf : c'.frame = c.frame) (ht : c'.timer = c.timer) :
    Working c' w where
  running_eq := hr ▸ h.running_eq
  run_current r hw := hs ▸ hf ▸ ht ▸ h.run_current r hw
  ending_releases := h.ending_releases

/-- The worker may move within the same run, keeping the books, while every teardown it comes to
releases the frame. -/
theorem moveWorker {w' : Worker} (h : Working c w) (hr : w'.run? = w.run?)
    (hrel : ∀ r o rel st, w' = .ending r o rel st → rel = true) : Working c w' where
  running_eq := hr ▸ h.running_eq
  run_current r hw := h.run_current r (hr ▸ hw)
  ending_releases := hrel

end Working

namespace Dropping

/-- The run flags and the worker may change in any way that keeps the end of the controller
and, for an ended worker, no run requested and the flag raised, while the worker has not
ended before. -/
theorem change {c' : Runs} {w' : Worker} (h : Dropping c w callers) (hw : w ≠ .exited)
    (hq : c'.quit = c.quit) (hex : w' = .exited → c'.quit = true ∧ c'.runRequested = false)
    (hflag : c'.workerExited = true ↔ w' = .exited) : Dropping c' w' callers where
  drop_alone := h.drop_alone
  quit_drop hq' := h.quit_drop (hq ▸ hq')
  exited_quit := hex
  exited_iff := hflag
  release_exited i hi := absurd (h.release_exited i hi) hw

/-- The books of the drop depend only on the end of the controller, the flag of a requested run
and the flag of an ended worker. -/
theorem congr {c' : Runs} (h : Dropping c w callers) (hq : c'.quit = c.quit)
    (hr : c'.runRequested = c.runRequested) (he : c'.workerExited = c.workerExited) :
    Dropping c' w callers where
  drop_alone := h.drop_alone
  quit_drop hq' := h.quit_drop (hq ▸ hq')
  exited_quit hw := hq ▸ hr ▸ h.exited_quit hw
  exited_iff := he ▸ h.exited_iff
  release_exited := h.release_exited

/-- The drop's end of the controller keeps the drop alone and moves it on to waiting for the
worker. -/
theorem quit (h : Dropping c w callers) (hi : callers i = .busy .dropQuit) :
    Dropping { c with quit := true } w (Function.update callers i (.busy .dropJoin)) := by
  have h' := h.setCaller hi (r := .busy .dropJoin) rfl (by simp)
  refine ⟨h'.drop_alone, fun _ j hj => ?_, fun hw => ⟨rfl, (h.exited_quit hw).2⟩,
    h.exited_iff, h'.release_exited⟩
  by_cases hji : j = i
  · subst hji; simp [Call.isDrop]
  · have := h.drop_alone i j (by simp [hi, Call.isDrop]) hji
    simp_all

/-- A request: the host thread was not in a call, the controller has not ended, no drop is
under way, and a drop finds no call under way. -/
theorem request {rq : Request} (h : Dropping c w callers) (hq : c.quit = false)
    (hnodrop : ∀ j, (callers j).isDrop = false)
    (halone : (rq matches .drop) → ∀ j, (callers j).isBusy = false) :
    Dropping c w (Function.update callers i (.busy rq.call)) where
  drop_alone j k hj hk := by
    by_cases hji : j = i
    · subst hji
      have hd : rq = .drop := by cases rq <;> simp_all [Request.call, Call.isDrop]
      subst hd
      simpa [Function.update_of_ne hk] using halone rfl k
    · simp_all
  quit_drop hq' := absurd hq' (by simp [hq])
  exited_quit := h.exited_quit
  exited_iff := h.exited_iff
  release_exited j hj := by
    by_cases hji : j = i
    · subst hji; cases rq <;> simp [Request.call] at hj
    · exact h.release_exited j (by simpa [Function.update_of_ne hji] using hj)

end Dropping

/-- Where a stop that ends with `a` may leave its host thread: outside every start, in the
drop exactly when it is the drop's stop, and not yet at the release of the frame. -/
def StopsAs (a : AfterStop) (r : Caller) : Prop :=
  r.isArming = false ∧ r.isDrop = (decide (a = .drop) && r.isBusy) ∧ r ≠ .busy .dropRelease

namespace Acquisition

variable {p : Plant}

/-- What a stop does once it ends leaves its host thread where a stop may. -/
theorem afterStop_stopsAs (a : AfterStop) (res : Except CameraError Unit) :
    StopsAs a (Caller.after ((afterStop a res).run' p).1) := by
  rw [afterStop_result]
  cases a <;> cases res <;> simp [StopsAs, Except.map, Call.isArming, Call.isDrop]

/-- A stop's wait for a run leaves its host thread where a stop may. -/
theorem stopLoop_stopsAs (a : AfterStop) (n : Nat) :
    StopsAs a (Caller.after ((stopLoop a n).run' p).1) := by
  rw [stopLoop_run']
  split_ifs
  · exact afterStop_stopsAs a _
  · exact afterStop_stopsAs a _
  · cases a <;> simp [StopsAs, Call.isArming, Call.isDrop]

/-- The first section of a stop leaves its host thread where a stop may. -/
theorem stopUnlessIdle_stopsAs (a : AfterStop) :
    StopsAs a (Caller.after ((stopUnlessIdle a).run' p).1) := by
  rw [stopUnlessIdle_run']
  split_ifs
  · exact afterStop_stopsAs a _
  · exact stopLoop_stopsAs a _

end Acquisition

end CameraAcquisition
